import Mathlib.Data.List.Forall2
import StubAssist.FileTree
import StubAssist.Proofs.Entries

/-!
# Walks

A walk follows the names of a path, and links on the way.  A walk that arrives gets past
directories only, so it arrives for the first of its names too; and what is in the files
of the tree makes no difference to it.
-/

namespace StubAssist

/-!
# Shapes of trees
-/

namespace Node

theorem get?_cons
    (entries : List (Text × Node)) (attributes : Attributes) (name : Text) (names : Location) :
    (directory entries attributes).get? (name :: names) =
      (entries.lookup name).bind fun child => child.get? names := rfl

@[simp] theorem get?_nil (node : Node) :
    node.get? [] = some node := by
  cases node <;> rfl

theorem get?_append (node : Node) (names more : Location) :
    node.get? (names ++ more) = (node.get? names).bind fun place => place.get? more := by
  induction names generalizing node with
  | nil =>
      rw [get?_nil]
      rfl
  | cons name names ih =>
      cases node with
      | directory entries attributes =>
          rw [List.cons_append, get?_cons, get?_cons]
          cases entries.lookup name with
          | none => rfl
          | some child => exact ih child
      | file bytes attributes => rfl
      | link target attributes => rfl
      | device kind => rfl

inductive Kind where
  | directory
  | file
  | link (target : Text)
  | device
deriving DecidableEq, Repr

def kind : Node -> Kind
  | directory _ _ => .directory
  | file _ _ => .file
  | link target _ => .link target
  | device _ => .device

/-- There are nodes of the same kind at the same places. -/
def SameShape (node other : Node) : Prop :=
  forall location, (node.get? location).map kind = (other.get? location).map kind

theorem SameShape.symm
    {node other : Node} (hshape : SameShape node other) :
    SameShape other node :=
  fun location => (hshape location).symm

theorem SameShape.kind_eq
    {node other : Node} (hshape : SameShape node other) :
    node.kind = other.kind := by
  have hhere := hshape []
  cases node <;> cases other <;> exact Option.some.inj hhere

theorem SameShape.exists_directory
    {entries : List (Text × Node)} {attributes : Attributes} {other : Node}
    (hshape : SameShape (directory entries attributes) other) :
    exists otherEntries otherAttributes, other = directory otherEntries otherAttributes := by
  have hkind := hshape.kind_eq
  cases other with
  | directory otherEntries otherAttributes =>
      exact ⟨otherEntries, otherAttributes, rfl⟩
  | file bytes attributes => cases hkind
  | link target attributes => cases hkind
  | device device => cases hkind

theorem SameShape.exists_link
    {target : Text} {attributes : Attributes} {other : Node}
    (hshape : SameShape (link target attributes) other) :
    exists otherAttributes, other = link target otherAttributes := by
  have hkind := hshape.kind_eq
  cases other with
  | directory entries attributes => cases hkind
  | file bytes attributes => cases hkind
  | link otherTarget otherAttributes =>
      cases hkind
      exact ⟨otherAttributes, rfl⟩
  | device device => cases hkind

section Entries

variable {entries otherEntries : List (Text × Node)} {attributes otherAttributes : Attributes}
  {name : Text}

theorem SameShape.below
    (hshape : SameShape (directory entries attributes)
      (directory otherEntries otherAttributes)) (name : Text) (names : Location) :
    ((entries.lookup name).bind fun child => child.get? names).map kind =
      ((otherEntries.lookup name).bind fun child => child.get? names).map kind :=
  hshape (name :: names)

theorem SameShape.lookup_eq_none
    (hshape : SameShape (directory entries attributes)
      (directory otherEntries otherAttributes))
    (hnone : entries.lookup name = none) :
    otherEntries.lookup name = none := by
  have hbelow := hshape.below name []
  cases hother : otherEntries.lookup name with
  | none => rfl
  | some other =>
      rw [hnone, hother] at hbelow
      simp at hbelow

theorem SameShape.exists_lookup
    {child : Node}
    (hshape : SameShape (directory entries attributes)
      (directory otherEntries otherAttributes))
    (hchild : entries.lookup name = some child) :
    exists otherChild,
      otherEntries.lookup name = some otherChild ∧ SameShape child otherChild := by
  cases hother : otherEntries.lookup name with
  | none =>
      have hbelow := hshape.below name []
      rw [hchild, hother] at hbelow
      simp at hbelow
  | some other =>
      refine ⟨other, rfl, ?_⟩
      intro names
      have hbelow := hshape.below name names
      rw [hchild, hother] at hbelow
      exact hbelow

end Entries

/-!
# Putting nodes
-/

theorem lookup_setEntry
    (name sought : Text) (node : Node) (entries : List (Text × Node)) :
    (setEntry name node entries).lookup sought =
      if sought = name then some node else entries.lookup sought :=
  lookup_replaced_or_appended name sought node entries

theorem get?_put
    {root : Node} {location : Location} (new : Node)
    (hthere : (root.get? location).isSome = true) :
    (put new location root).get? location = some new := by
  induction location generalizing root with
  | nil =>
      exact get?_nil new
  | cons name names ih =>
      cases root with
      | directory entries attributes =>
          rw [get?_cons] at hthere
          cases hchild : entries.lookup name with
          | none =>
              rw [hchild] at hthere
              cases hthere
          | some child =>
              rw [hchild] at hthere
              rw [put, get?_cons, lookup_setEntry, if_pos rfl, hchild]
              exact ih hthere
      | file bytes attributes => cases hthere
      | link target attributes => cases hthere
      | device device => cases hthere

theorem sameShape_put
    {root old new : Node} {location : Location} (hold : root.get? location = some old)
    (hshape : SameShape old new) :
    SameShape root (put new location root) := by
  induction location generalizing root with
  | nil =>
      rw [get?_nil] at hold
      cases hold
      exact hshape
  | cons name names ih =>
      cases root with
      | directory entries attributes =>
          rw [get?_cons] at hold
          cases hchild : entries.lookup name with
          | none =>
              rw [hchild] at hold
              cases hold
          | some child =>
              rw [hchild] at hold
              intro place
              cases place with
              | nil => rfl
              | cons sought more =>
                  rw [put, get?_cons, get?_cons, lookup_setEntry, hchild]
                  by_cases hsought : sought = name
                  · rw [if_pos hsought, hsought, hchild]
                    exact ih hold more
                  · rw [if_neg hsought]
      | file bytes attributes => cases hold
      | link target attributes => cases hold
      | device device => cases hold

theorem sameShape_file (bytes newBytes : Utf8.Bytes) (attributes newAttributes : Attributes) :
    SameShape (file bytes attributes) (file newBytes newAttributes) := by
  intro place
  cases place <;> rfl

end Node

/-!
# Walks that arrive
-/

namespace FileTree

open Node (SameShape)

/-- Whether a name in a path is one that a directory may have an entry for. -/
structure IsPlain (name : Text) : Prop where
  notHere : name ≠ ['.']
  notUp : name ≠ ['.', '.']
  fits : Text.byteSize name ≤ nameLimit

/-- A walk that follows all links arrives at a location. -/
inductive Arrives (root : Node) :
    Nat -> List (Text × Node) -> Node -> List Text -> Location -> Prop where
  | done {links : Nat} {trail : List (Text × Node)} {here : Node} :
      Arrives root links trail here [] (trail.map (·.1)).reverse
  | missing {links : Nat} {trail entries : List (Text × Node)} {attributes : Attributes}
      {name : Text} (hplain : IsPlain name) (hmissing : entries.lookup name = none) :
      Arrives root links trail (.directory entries attributes) [name]
        (name :: trail.map (·.1)).reverse
  | stay {links : Nat} {trail entries : List (Text × Node)} {attributes : Attributes}
      {names : List Text} {location : Location}
      (hrest : Arrives root links trail (.directory entries attributes) names location) :
      Arrives root links trail (.directory entries attributes) (['.'] :: names) location
  | top {links : Nat} {entries : List (Text × Node)} {attributes : Attributes}
      {names : List Text} {location : Location}
      (hrest : Arrives root links [] (.directory entries attributes) names location) :
      Arrives root links [] (.directory entries attributes) (['.', '.'] :: names) location
  | up {links : Nat} {trail entries : List (Text × Node)} {attributes : Attributes}
      {below : Text} {parent : Node} {names : List Text} {location : Location}
      (hrest : Arrives root links trail parent names location) :
      Arrives root links ((below, parent) :: trail) (.directory entries attributes)
        (['.', '.'] :: names) location
  | jump {links : Nat} {trail entries : List (Text × Node)}
      {attributes linkAttributes : Attributes} {name target : Text} {names : List Text}
      {location : Location} (hplain : IsPlain name)
      (hlink : entries.lookup name = some (.link target linkAttributes))
      (habsolute : target.head? = some '/')
      (hrest : Arrives root links [] root (namesOf target ++ names) location) :
      Arrives root (links + 1) trail (.directory entries attributes) (name :: names) location
  | follow {links : Nat} {trail entries : List (Text × Node)}
      {attributes linkAttributes : Attributes} {name target : Text} {names : List Text}
      {location : Location} (hplain : IsPlain name)
      (hlink : entries.lookup name = some (.link target linkAttributes))
      (hrelative : target.head? ≠ some '/')
      (hrest : Arrives root links trail (.directory entries attributes)
        (namesOf target ++ names) location) :
      Arrives root (links + 1) trail (.directory entries attributes) (name :: names) location
  | down {links : Nat} {trail entries : List (Text × Node)} {attributes : Attributes}
      {name : Text} {child : Node} {names : List Text} {location : Location}
      (hplain : IsPlain name) (hchild : entries.lookup name = some child)
      (hnode : forall target linkAttributes, child ≠ .link target linkAttributes)
      (hrest : Arrives root links ((name, .directory entries attributes) :: trail) child
        names location) :
      Arrives root links trail (.directory entries attributes) (name :: names) location

theorem isPlain_of_not
    {name : Text} (hdot : ¬(name == ['.']) = true) (hdots : ¬(name == ['.', '.']) = true)
    (hsize : ¬nameLimit < Text.byteSize name) :
    IsPlain name where
  notHere := fun h => hdot (beq_iff_eq.mpr h)
  notUp := fun h => hdots (beq_iff_eq.mpr h)
  fits := Nat.le_of_not_lt hsize

theorem arrives_of_walk
    {root here : Node} {links : Nat} {trail : List (Text × Node)} {names : List Text}
    {location : Location} (hwalk : walk root true links trail here names = .ok location) :
    Arrives root links trail here names location := by
  fun_induction walk root true links trail here names with
  | case1 links here trail =>
      cases hwalk
      exact Arrives.done
  | case2 links trail entries attributes name names here hdot ih =>
      rw [beq_iff_eq.mp hdot]
      exact Arrives.stay (ih hwalk)
  | case3 links entries attributes name names here hdot hdots ih =>
      rw [beq_iff_eq.mp hdots]
      exact Arrives.top (ih hwalk)
  | case4 links entries attributes name names hdot hdots below parent trail ih =>
      rw [beq_iff_eq.mp hdots]
      exact Arrives.up (ih hwalk)
  | case5 links trail entries attributes name names hdot hdots hlong =>
      cases hwalk
  | case6 links trail entries attributes name names here hdot hdots hsize hmissing hlast =>
      simp only [hmissing, hlast, if_true] at hwalk
      cases hwalk
      rw [List.isEmpty_iff.mp hlast]
      exact Arrives.missing (isPlain_of_not hdot hdots hsize) hmissing
  | case7 links trail entries attributes name names here hdot hdots hsize hmissing hmore =>
      simp [hmissing, hmore] at hwalk
  | case8 trail entries attributes name names here hdot hdots hsize target linkAttributes
      links hlink hlast =>
      -- a walk that follows all links does not stop at the last one
      simp at hlast
  | case9 trail entries attributes name names here hdot hdots hsize target linkAttributes
      hlink hfollows =>
      simp [hlink] at hwalk
  | case10 trail entries attributes name names here hdot hdots hsize target linkAttributes
      hlink hfollows links habsolute ih =>
      simp only [hlink, hfollows, habsolute, if_true] at hwalk
      exact Arrives.jump (isPlain_of_not hdot hdots hsize) hlink (beq_iff_eq.mp habsolute)
        (ih hwalk)
  | case11 trail entries attributes name names here hdot hdots hsize target linkAttributes
      hlink hfollows links hrelative ih =>
      simp only [hlink, hfollows, hrelative] at hwalk
      exact Arrives.follow (isPlain_of_not hdot hdots hsize) hlink
        (fun h => hrelative (beq_iff_eq.mpr h)) (ih hwalk)
  | case12 trail entries attributes name names here hdot hdots hsize child links hnode hchild
      ih =>
      simp only [hchild] at hwalk
      exact Arrives.down (isPlain_of_not hdot hdots hsize) hchild hnode (ih hwalk)
  | case13 links trail here name names hnot =>
      cases hwalk

theorem walk_of_arrives
    {root here : Node} {links : Nat} {trail : List (Text × Node)} {names : List Text}
    {location : Location} (harrives : Arrives root links trail here names location) :
    walk root true links trail here names = .ok location := by
  induction harrives with
  | done =>
      rw [walk]
  | @missing links trail entries attributes name hplain hmissing =>
      unfold walk
      simp [hmissing, hplain.notHere, hplain.notUp, Nat.not_lt.mpr hplain.fits]
  | stay hrest ih =>
      unfold walk
      simpa using ih
  | top hrest ih =>
      unfold walk
      simpa using ih
  | up hrest ih =>
      unfold walk
      simpa using ih
  | jump hplain hlink habsolute hrest ih =>
      unfold walk
      simp [hlink, hplain.notHere, hplain.notUp, Nat.not_lt.mpr hplain.fits, habsolute, ih]
  | follow hplain hlink hrelative hrest ih =>
      unfold walk
      simp [hlink, hplain.notHere, hplain.notUp, Nat.not_lt.mpr hplain.fits, hrelative, ih]
  | down hplain hchild hnode hrest ih =>
      unfold walk
      simp [hchild, hplain.notHere, hplain.notUp, Nat.not_lt.mpr hplain.fits, ih]

/-!
# Walks from the root
-/

/-- Going down the names of a trail from the root leads through the nodes in it. -/
inductive Leads (root : Node) : List (Text × Node) -> Node -> Prop where
  | start : Leads root [] root
  | down {trail : List (Text × Node)} {parent child : Node} {name : Text}
      (hleads : Leads root trail parent) (hchild : parent.get? [name] = some child) :
      Leads root ((name, parent) :: trail) child

theorem Leads.get?_eq
    {root here : Node} {trail : List (Text × Node)} (hleads : Leads root trail here) :
    root.get? (trail.map (·.1)).reverse = some here := by
  induction hleads with
  | start =>
      exact Node.get?_nil root
  | @down trail parent child name hparent hchild ih =>
      rw [List.map_cons, List.reverse_cons, Node.get?_append, ih]
      exact hchild

theorem exists_directory_of_arrives
    {root here : Node} {links : Nat} {trail : List (Text × Node)} {before after : List Text}
    {location : Location} (hleads : Leads root trail here)
    (harrives : Arrives root links trail here (before ++ after) location)
    (hafter : after ≠ []) :
    exists place entries attributes,
      Arrives root links trail here before place ∧
        root.get? place = some (.directory entries attributes) := by
  -- a link puts the names of its target before those that are left, so `before` varies
  generalize hnames : before ++ after = names at harrives
  induction harrives generalizing before with
  | done =>
      exact absurd (List.append_eq_nil_iff.mp hnames).right hafter
  | missing hplain hmissing =>
      cases before with
      | nil =>
          exact ⟨_, _, _, Arrives.done, hleads.get?_eq⟩
      | cons name before =>
          injection hnames with _ hrest
          exact absurd (List.append_eq_nil_iff.mp hrest).right hafter
  | stay hrest ih =>
      cases before with
      | nil =>
          exact ⟨_, _, _, Arrives.done, hleads.get?_eq⟩
      | cons name before =>
          injection hnames with hname hrest
          rcases ih hleads hrest with ⟨place, entries, attributes, hplace, hnode⟩
          rw [hname]
          exact ⟨place, entries, attributes, hplace.stay, hnode⟩
  | top hrest ih =>
      cases before with
      | nil =>
          exact ⟨_, _, _, Arrives.done, hleads.get?_eq⟩
      | cons name before =>
          injection hnames with hname hrest
          rcases ih hleads hrest with
            ⟨place, entries, attributes, hplace, hnode⟩
          rw [hname]
          exact ⟨place, entries, attributes, hplace.top, hnode⟩
  | up hrest ih =>
      cases before with
      | nil =>
          exact ⟨_, _, _, Arrives.done, hleads.get?_eq⟩
      | cons name before =>
          injection hnames with hname hrest
          cases hleads with
          | down hparent hchild =>
              rcases ih hparent hrest with ⟨place, entries, attributes, hplace, hnode⟩
              rw [hname]
              exact ⟨place, entries, attributes, hplace.up, hnode⟩
  | @jump links trail entries attributes linkAttributes name target names location hplain
      hlink habsolute hrest ih =>
      cases before with
      | nil =>
          exact ⟨_, _, _, Arrives.done, hleads.get?_eq⟩
      | cons first before =>
          injection hnames with hname hrest
          have hlinked : (namesOf target ++ before) ++ after = namesOf target ++ names := by
            rw [List.append_assoc]
            exact congrArg (namesOf target ++ ·) hrest
          rcases ih Leads.start hlinked with
            ⟨place, placeEntries, placeAttributes, hplace, hnode⟩
          rw [hname]
          exact ⟨place, placeEntries, placeAttributes,
            Arrives.jump hplain hlink habsolute hplace, hnode⟩
  | @follow links trail entries attributes linkAttributes name target names location hplain
      hlink hrelative hrest ih =>
      cases before with
      | nil =>
          exact ⟨_, _, _, Arrives.done, hleads.get?_eq⟩
      | cons first before =>
          injection hnames with hname hrest
          have hlinked : (namesOf target ++ before) ++ after = namesOf target ++ names := by
            rw [List.append_assoc]
            exact congrArg (namesOf target ++ ·) hrest
          rcases ih hleads hlinked with
            ⟨place, placeEntries, placeAttributes, hplace, hnode⟩
          rw [hname]
          exact ⟨place, placeEntries, placeAttributes,
            Arrives.follow hplain hlink hrelative hplace, hnode⟩
  | @down links trail entries attributes name child names location hplain hchild hnode hrest
      ih =>
      cases before with
      | nil =>
          exact ⟨_, _, _, Arrives.done, hleads.get?_eq⟩
      | cons first before =>
          injection hnames with hname hrest
          have hbelow : (Node.directory entries attributes).get? [name] = some child := by
            rw [Node.get?_cons, hchild]
            exact Node.get?_nil child
          rcases ih (hleads.down hbelow) hrest with
            ⟨place, placeEntries, placeAttributes, hplace, hplaceNode⟩
          rw [hname]
          exact ⟨place, placeEntries, placeAttributes,
            Arrives.down hplain hchild hnode hplace, hplaceNode⟩

def SameTrail (trail other : List (Text × Node)) : Prop :=
  List.Forall₂ (fun step otherStep => step.1 = otherStep.1 ∧ SameShape step.2 otherStep.2)
    trail other

theorem SameTrail.map_fst
    {trail other : List (Text × Node)} (htrail : SameTrail trail other) :
    other.map (·.1) = trail.map (·.1) := by
  induction htrail with
  | nil => rfl
  | cons hstep _ ih => rw [List.map_cons, List.map_cons, ih, hstep.left]

/-- A walk arrives at the same location in all trees of the same shape. -/
theorem arrives_of_sameShape
    {root other here otherHere : Node} {links : Nat} {trail otherTrail : List (Text × Node)}
    {names : List Text} {location : Location} (hroot : SameShape root other)
    (hhere : SameShape here otherHere) (htrail : SameTrail trail otherTrail)
    (harrives : Arrives root links trail here names location) :
    Arrives other links otherTrail otherHere names location := by
  induction harrives generalizing otherHere otherTrail with
  | done =>
      rw [← htrail.map_fst]
      exact Arrives.done
  | missing hplain hmissing =>
      rcases hhere.exists_directory with ⟨otherEntries, otherAttributes, rfl⟩
      rw [← htrail.map_fst]
      exact Arrives.missing hplain (hhere.lookup_eq_none hmissing)
  | stay hrest ih =>
      rcases hhere.exists_directory with ⟨otherEntries, otherAttributes, rfl⟩
      exact Arrives.stay (ih hhere htrail)
  | top hrest ih =>
      rcases hhere.exists_directory with ⟨otherEntries, otherAttributes, rfl⟩
      cases htrail
      exact Arrives.top (ih hhere List.Forall₂.nil)
  | up hrest ih =>
      rcases hhere.exists_directory with ⟨otherEntries, otherAttributes, rfl⟩
      rcases List.forall₂_cons_left_iff.mp htrail with ⟨⟨_, _⟩, _, hparent, hbelow, rfl⟩
      exact Arrives.up (ih hparent.right hbelow)
  | jump hplain hlink habsolute hrest ih =>
      rcases hhere.exists_directory with ⟨otherEntries, otherAttributes, rfl⟩
      rcases hhere.exists_lookup hlink with ⟨otherLink, hotherLink, hshape⟩
      rcases hshape.exists_link with ⟨otherLinkAttributes, rfl⟩
      exact Arrives.jump hplain hotherLink habsolute (ih hroot List.Forall₂.nil)
  | follow hplain hlink hrelative hrest ih =>
      rcases hhere.exists_directory with ⟨otherEntries, otherAttributes, rfl⟩
      rcases hhere.exists_lookup hlink with ⟨otherLink, hotherLink, hshape⟩
      rcases hshape.exists_link with ⟨otherLinkAttributes, rfl⟩
      exact Arrives.follow hplain hotherLink hrelative (ih hhere htrail)
  | down hplain hchild hnode hrest ih =>
      rcases hhere.exists_directory with ⟨otherEntries, otherAttributes, rfl⟩
      rcases hhere.exists_lookup hchild with ⟨otherChild, hotherChild, hshape⟩
      -- a link there would be a link here
      have hotherNode : forall target linkAttributes,
          otherChild ≠ .link target linkAttributes := by
        intro target linkAttributes hlink
        rw [hlink] at hshape
        rcases hshape.symm.exists_link with ⟨otherLinkAttributes, hsame⟩
        exact hnode target otherLinkAttributes hsame
      exact Arrives.down hplain hotherChild hotherNode
        (ih hshape (List.Forall₂.cons ⟨rfl, hhere⟩ htrail))

end FileTree
end StubAssist

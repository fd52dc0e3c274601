import StubAssist.Proofs.Files.Paths
import StubAssist.Proofs.Files.Walks
import StubAssist.Proofs.Text.Numbers
import StubAssist.Document

/-!
# Writing files

A file that can be read can be written: its directories are there already, and what is
written is what is read afterwards.
-/

namespace StubAssist

open Utf8 (Bytes)

/-!
# Paths that lead somewhere
-/

namespace FileTree

structure IsUsable (path : Text) : Prop where
  given : path ≠ []
  clean : '\x00' ∉ path
  fits : Text.byteSize path ≤ pathLimit

def namesFrom (tree : FileTree) (path : Text) : List Text :=
  (if path.head? == some '/' then [] else tree.workingDirectory) ++ namesOf path

theorem resolve_eq_ok_iff {tree : FileTree} {path : Text} {location : Location} :
    tree.resolve path = .ok location ↔
      IsUsable path ∧
        Arrives tree.root linkLimit [] tree.root (tree.namesFrom path) location := by
  unfold resolve locate
  constructor
  · intro hresolve
    split at hresolve
    · cases hresolve
    · rename_i hgiven
      split at hresolve
      · cases hresolve
      · rename_i hclean
        split at hresolve
        · cases hresolve
        · rename_i hfits
          refine ⟨⟨?_, ?_, Nat.le_of_not_lt hfits⟩, arrives_of_walk hresolve⟩
          · simpa using hgiven
          · simpa using hclean
  · rintro ⟨husable, harrives⟩
    rw [if_neg (by simp [husable.given]), if_neg (by simp [husable.clean]),
      if_neg (Nat.not_lt.mpr husable.fits)]
    exact walk_of_arrives harrives

theorem IsUsable.of_append
    {before after : Text} (husable : IsUsable (before ++ after)) (hbefore : before ≠ []) :
    IsUsable before where
  given := hbefore
  clean := fun hmem => husable.clean (List.mem_append_left after hmem)
  fits := Nat.le_trans (Text.byteSize_append_le before after) husable.fits

theorem namesFrom_append
    (tree : FileTree) {before after : Text} (hcut : IsCut before after)
    (hbefore : before ≠ []) :
    tree.namesFrom (before ++ after) = tree.namesFrom before ++ namesOf after := by
  rcases List.exists_cons_of_ne_nil hbefore with ⟨c, rest, hcons⟩
  unfold namesFrom
  rw [namesOf_append hcut, List.append_assoc, hcons]
  rfl

theorem exists_directory_of_resolve
    {tree : FileTree} {before after : Text} {location : Location} (hcut : IsCut before after)
    (hbefore : before ≠ []) (hafter : namesOf after ≠ [])
    (hresolve : tree.resolve (before ++ after) = .ok location) :
    exists place entries attributes,
      tree.resolve before = .ok place ∧
        tree.node? place = some (.directory entries attributes) := by
  rcases resolve_eq_ok_iff.mp hresolve with ⟨husable, harrives⟩
  rw [namesFrom_append tree hcut hbefore] at harrives
  rcases exists_directory_of_arrives Leads.start harrives hafter with
    ⟨place, entries, attributes, hplace, hnode⟩
  exact ⟨place, entries, attributes,
    resolve_eq_ok_iff.mpr ⟨husable.of_append hbefore, hplace⟩, hnode⟩

/-!
# Files
-/

/-- The path leads to a file with these bytes. -/
structure HoldsFile (tree : FileTree) (path : Text) (location : Location) (bytes : Bytes)
    (attributes : Attributes) : Prop where
  resolve : tree.resolve path = .ok location
  node : tree.node? location = some (.file bytes attributes)
  plain : wantsDirectory path = false

def rewritten (tree : FileTree) (location : Location) (bytes : Bytes)
    (attributes : Attributes) : FileTree :=
  { tree with
    root := Node.put (.file bytes { attributes with time := tree.clock }) location tree.root }

section HoldsFile

variable {tree : FileTree} {path : Text} {location : Location} {bytes : Bytes}
  {attributes : Attributes}

theorem lookup_of_resolve (hresolve : tree.resolve path = .ok location) :
    tree.lookup path =
      match tree.node? location with
      | none => .error .notFound
      | some node =>
          if wantsDirectory path && !node.isDirectory then .error .notADirectory
          else .ok (location, node) := by
  unfold lookup
  rw [hresolve]
  cases hnode : tree.node? location with
  | none =>
      simp only [bind, Except.bind, hnode]
      rfl
  | some node =>
      simp only [bind, Except.bind, hnode]
      split <;> rfl

theorem lookup_eq_ok_iff {node : Node} :
    tree.lookup path = .ok (location, node) ↔
      tree.resolve path = .ok location ∧ tree.node? location = some node ∧
        (wantsDirectory path && !node.isDirectory) = false := by
  cases hresolve : tree.resolve path with
  | error error =>
      unfold lookup
      rw [hresolve]
      simp [bind, Except.bind]
  | ok place =>
      rw [lookup_of_resolve hresolve]
      cases hnode : tree.node? place with
      | none =>
          constructor
          · intro hfound
            cases hfound
          · rintro ⟨hplace, hthere, _⟩
            cases hplace
            rw [hnode] at hthere
            cases hthere
      | some found =>
          constructor
          · intro hfound
            cases hplain : wantsDirectory path && !found.isDirectory with
            | true =>
                simp [hplain] at hfound
            | false =>
                simp only [hplain, Bool.false_eq_true, if_false] at hfound
                cases hfound
                exact ⟨rfl, hnode, hplain⟩
          · rintro ⟨hplace, hthere, hplain⟩
            cases hplace
            rw [hnode] at hthere
            cases hthere
            simp [hplain]

theorem HoldsFile.lookup_eq (hfile : HoldsFile tree path location bytes attributes) :
    tree.lookup path = .ok (location, .file bytes attributes) :=
  lookup_eq_ok_iff.mpr ⟨hfile.resolve, hfile.node, by simp [hfile.plain]⟩

theorem HoldsFile.read_eq (hfile : HoldsFile tree path location bytes attributes) :
    tree.read path = .ok bytes := by
  unfold read
  rw [hfile.lookup_eq]
  rfl

theorem HoldsFile.readText_eq
    {content : Text} (hfile : HoldsFile tree path location bytes attributes)
    (hdecode : Utf8.decode? bytes = some content) :
    tree.readText path = .ok content := by
  unfold readText
  rw [hfile.read_eq]
  simp [bind, Except.bind, hdecode, pure, Except.pure]

theorem holdsFile_or_device_of_read (hread : tree.read path = .ok bytes) :
    (exists location attributes, HoldsFile tree path location bytes attributes) ∨
      bytes = [] ∨ bytes = zeros := by
  unfold read at hread
  cases hlookup : tree.lookup path with
  | error error =>
      rw [hlookup] at hread
      cases hread
  | ok found =>
      rcases found with ⟨location, node⟩
      rw [hlookup] at hread
      rcases lookup_eq_ok_iff.mp hlookup with ⟨hresolve, hnode, hwants⟩
      change bytesOf node = .ok bytes at hread
      cases node with
      | directory entries attributes =>
          cases hread
      | file held attributes =>
          cases hread
          refine Or.inl ⟨location, attributes, hresolve, hnode, ?_⟩
          simpa [Node.isDirectory] using hwants
      | link target attributes =>
          cases hread
      | device device =>
          cases device with
          | null => exact Or.inr (Or.inl (Except.ok.inj hread).symm)
          | zero => exact Or.inr (Or.inr (Except.ok.inj hread).symm)
          | full => exact Or.inr (Or.inr (Except.ok.inj hread).symm)

theorem foldl_step_zeros (count : Nat) (units : List (Option Char)) :
    (List.replicate count (0 : UInt8)).foldl Utf8.Decoder.step ⟨units, none⟩ =
      ⟨List.replicate count (some '\x00') ++ units, none⟩ := by
  induction count generalizing units with
  | zero =>
      rfl
  | succ count ih =>
      have hstep : Utf8.Decoder.step ⟨units, none⟩ 0 = ⟨some '\x00' :: units, none⟩ := rfl
      rw [List.replicate_succ, List.foldl_cons, hstep, ih, List.replicate_succ',
        List.append_assoc]
      rfl

theorem mapM_id_replicate (count : Nat) (c : Char) :
    (List.replicate count (some c)).mapM id = some (List.replicate count c) := by
  induction count with
  | zero =>
      rfl
  | succ count ih =>
      rw [List.replicate_succ, List.mapM_cons, ih]
      rfl

theorem eq_zero_of_mem_zeros
    {content : Text} {c : Char} (hdecode : Utf8.decode? zeros = some content)
    (hmem : c ∈ content) :
    c = '\x00' := by
  unfold Utf8.decode? Utf8.units zeros at hdecode
  -- no step may count up to the number of zeros, so it is any number
  generalize Nat.pow 2 18 = count at hdecode
  rw [Utf8.Decoder.initial, foldl_step_zeros, List.append_nil] at hdecode
  change (List.replicate count (some '\x00')).reverse.mapM id = some content at hdecode
  rw [List.reverse_replicate, mapM_id_replicate] at hdecode
  rw [← Option.some.inj hdecode] at hmem
  exact List.eq_of_mem_replicate hmem

theorem exists_holdsFile_of_readText
    {content : Text} {c : Char} (hread : tree.readText path = .ok content)
    (hmem : c ∈ content) (hc : c ≠ '\x00') :
    exists location bytes attributes, HoldsFile tree path location bytes attributes := by
  unfold readText at hread
  cases hbytes : tree.read path with
  | error error =>
      rw [hbytes] at hread
      cases hread
  | ok bytes =>
      have hdecode : Utf8.decode? bytes = some content := by
        rw [hbytes] at hread
        cases hdecoded : Utf8.decode? bytes with
        | none =>
            simp [bind, Except.bind, hdecoded, throw, throwThe, MonadExceptOf.throw] at hread
        | some decoded =>
            simp [bind, Except.bind, hdecoded, pure, Except.pure] at hread
            rw [hread]
      rcases holdsFile_or_device_of_read hbytes with
        ⟨location, attributes, hfile⟩ | hnil | hzeros
      · exact ⟨location, bytes, attributes, hfile⟩
      · rw [hnil] at hdecode
        cases hdecode
        cases hmem
      · rw [hzeros] at hdecode
        exact absurd (eq_zero_of_mem_zeros hdecode hmem) hc

theorem HoldsFile.write_eq
    (hfile : HoldsFile tree path location bytes attributes) (newBytes : Bytes) :
    tree.write path newBytes = .ok (tree.rewritten location newBytes attributes) := by
  have hput : tree.put location (.file newBytes { attributes with time := tree.clock }) =
      tree.rewritten location newBytes attributes := by
    unfold FileTree.put
    rw [hfile.node]
    rfl
  unfold write store
  rw [hfile.resolve]
  simp [bind, Except.bind, hfile.plain, hfile.node, pure, Except.pure, hput]

theorem HoldsFile.rewritten
    (hfile : HoldsFile tree path location bytes attributes) (newBytes : Bytes) :
    HoldsFile (tree.rewritten location newBytes attributes) path location newBytes
      { attributes with time := tree.clock } := by
  rcases resolve_eq_ok_iff.mp hfile.resolve with ⟨husable, harrives⟩
  have hshape := Node.sameShape_put hfile.node
    (Node.sameShape_file bytes newBytes attributes { attributes with time := tree.clock })
  have hthere : (tree.root.get? location).isSome = true := by
    have hnode : tree.root.get? location = some (.file bytes attributes) := hfile.node
    rw [hnode]
    rfl
  constructor
  · exact resolve_eq_ok_iff.mpr
      ⟨husable, arrives_of_sameShape hshape hshape List.Forall₂.nil harrives⟩
  · exact Node.get?_put _ hthere
  · exact hfile.plain

theorem HoldsFile.exists_written
    (hfile : HoldsFile tree path location bytes attributes) (newBytes : Bytes) :
    exists after, tree.write path newBytes = .ok after ∧ after.read path = .ok newBytes :=
  ⟨_, hfile.write_eq newBytes, (hfile.rewritten newBytes).read_eq⟩

/-!
# Making the directories of a file
-/

theorem makeDirectories_of_isDirectory
    {place : Location} {entries : List (Text × Node)} {placeAttributes : Attributes}
    (hresolve : tree.resolve path = .ok place)
    (hnode : tree.node? place = some (.directory entries placeAttributes)) :
    tree.makeDirectories path = (.ok (), tree) := by
  have husable := (resolve_eq_ok_iff.mp hresolve).left
  have hmake : tree.makeDirectory path = .error .alreadyExists := by
    unfold makeDirectory
    rw [hresolve]
    simp [bind, Except.bind, hnode, throw, throwThe, MonadExceptOf.throw]
  have hdirectory : tree.isDirectory path = true := by
    unfold isDirectory lookup
    rw [hresolve]
    simp [bind, Except.bind, hnode, pure, Except.pure, Node.isDirectory]
  unfold makeDirectories
  rw [if_pos (by simp [husable.fits])]
  cases hparent : FilePath.parent? path with
  | none =>
      rw [FilePath.ancestors_of_parent?_none hparent]
      rfl
  | some parent =>
      rcases FilePath.exists_ancestors_of_parent?_some hparent with ⟨outer, houter⟩
      rw [houter, makeChain, hmake]
      simp [settled, hdirectory]

theorem HoldsFile.makeParents_eq
    (hfile : HoldsFile tree path location bytes attributes) :
    SourceBuffer.makeParents tree path = (.ok (), tree) := by
  unfold SourceBuffer.makeParents
  cases hparent : FilePath.parent? path with
  | none =>
      rfl
  | some parent =>
      rcases FilePath.exists_rest_of_parent? hparent with ⟨rest, hpath, hcut, hrest⟩
      by_cases hnil : parent = []
      · rw [hnil]
        rfl
      · have hresolve := hfile.resolve
        rw [hpath] at hresolve
        rcases exists_directory_of_resolve hcut hnil hrest hresolve with
          ⟨place, entries, placeAttributes, hplace, hnode⟩
        exact makeDirectories_of_isDirectory hplace hnode

end HoldsFile

def sole (name content : Text) : FileTree where
  root := .directory [(name, .file (Utf8.encode content) ⟨0o644, 0⟩)] ⟨0o755, 0⟩
  workingDirectory := []
  mask := 0o22
  clock := 0

theorem holdsFile_sole
    {name : Text} (content : Text) (husable : IsUsable name) (hplain : IsPlain name)
    (hnames : namesOf name = [name]) (hfile : wantsDirectory name = false) :
    HoldsFile (sole name content) name [name] (Utf8.encode content) ⟨0o644, 0⟩ := by
  have hentry : List.lookup name [(name, Node.file (Utf8.encode content) ⟨0o644, 0⟩)] =
      some (.file (Utf8.encode content) ⟨0o644, 0⟩) := by
    simp
  have hfrom : (sole name content).namesFrom name = [name] := by
    unfold namesFrom
    rw [hnames]
    split <;> rfl
  constructor
  · rw [resolve_eq_ok_iff, hfrom]
    exact ⟨husable, Arrives.down hplain hentry (fun _ _ => nofun) Arrives.done⟩
  · unfold node? sole
    rw [Node.get?_cons, hentry]
    rfl
  · exact hfile

end FileTree

namespace SourceBuffer

open FileTree (HoldsFile)

/-- A buffer of a file that is there is written to it and to nothing else. -/
theorem save_of_holdsFile
    {tree : FileTree} {buffer : SourceBuffer} {location : Location} {bytes : Bytes}
    {attributes : Attributes} (hfile : HoldsFile tree buffer.path location bytes attributes) :
    exists after,
      buffer.saveDocument tree = (.ok (), after) ∧
        tree.write buffer.path (Utf8.encode buffer.content) = .ok after ∧
        after.read buffer.path = .ok (Utf8.encode buffer.content) := by
  rcases hfile.exists_written (Utf8.encode buffer.content) with ⟨after, hwrite, hread⟩
  refine ⟨after, ?_, hwrite, hread⟩
  unfold saveDocument save
  rw [hfile.makeParents_eq]
  simp only [hwrite]

end SourceBuffer
end StubAssist

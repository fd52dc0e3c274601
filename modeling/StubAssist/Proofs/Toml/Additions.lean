import StubAssist.Proofs.Entries
import StubAssist.Proofs.Toml.Sections

/-!
# Additions to tables

Statements add to the tables of a document and take nothing back.  A value that is
written out is closed, so what an entry sets in a table is found there in the end; this
ties the settings in the outline of a document to its values.
-/

namespace StubAssist
namespace Toml

/-- Whether more may be added to a value, as to what headers and dotted keys made. -/
def Value.isOpen : Value -> Bool
  | .array ofHeaders _ => ofHeaders
  | .table kind _ => kind != .inline
  | _ => false

/-!
# Values as they are written
-/

theorem isOpen_integerOf (base : Nat) (isDigit : Char -> Bool) (t : Text) :
    (integerOf base isDigit t).isOpen = false := by
  unfold integerOf
  dsimp only
  split <;> rfl

theorem isOpen_of_based?
    {base : Nat} {isDigit : Char -> Bool} {t : Text} {value : Value}
    (hvalue : based? base isDigit t = some value) :
    value.isOpen = false := by
  unfold based? at hvalue
  split at hvalue
  · cases hvalue
    exact isOpen_integerOf base isDigit t
  · cases hvalue

theorem isOpen_of_decimal?
    {t : Text} {value : Value} (hvalue : decimal? t = some value) :
    value.isOpen = false := by
  unfold decimal? at hvalue
  dsimp only at hvalue
  repeat' split at hvalue
  all_goals cases hvalue
  all_goals exact isOpen_integerOf 10 Char.isDigit t

theorem isOpen_negate {value : Value} (hclosed : value.isOpen = false) :
    (negate value).isOpen = false := by
  unfold negate
  split
  · rfl
  · exact hclosed

theorem isOpen_of_integer?
    {t : Text} {value : Value} (hvalue : integer? t = some value) :
    value.isOpen = false := by
  unfold integer? at hvalue
  split at hvalue
  · exact isOpen_of_based? hvalue
  · exact isOpen_of_based? hvalue
  · exact isOpen_of_based? hvalue
  · generalize splitSign t = sign at hvalue
    rcases sign with ⟨negative, digits⟩
    rcases Option.map_eq_some_iff.mp hvalue with ⟨unsigned, hunsigned, hsigned⟩
    have hclosed := isOpen_of_decimal? hunsigned
    rw [← hsigned]
    split
    · exact isOpen_negate hclosed
    · exact hclosed

theorem isOpen_floatOf (negative : Bool) (digits : Text) (exponent : Int) :
    (floatOf negative digits exponent).isOpen = false := by
  unfold floatOf
  dsimp only
  repeat' split
  all_goals rfl

theorem isOpen_of_float?
    {t : Text} {value : Value} (hvalue : float? t = some value) :
    value.isOpen = false := by
  unfold float? at hvalue
  dsimp only at hvalue
  split at hvalue
  · cases hvalue
    rfl
  · split at hvalue
    · cases hvalue
      rfl
    · rcases Option.map_eq_some_iff.mp hvalue with ⟨parts, _, hparts⟩
      rw [← hparts]
      exact isOpen_floatOf _ _ _

theorem isOpen_of_scalar?
    {token : Text} {value : Value} (hvalue : scalar? token = some value) :
    value.isOpen = false := by
  unfold scalar? at hvalue
  split at hvalue
  · cases hvalue
    rfl
  · split at hvalue
    · cases hvalue
      rfl
    · split at hvalue
      · cases hvalue
        rfl
      · rcases Option.or_eq_some_iff.mp hvalue with hinteger | ⟨_, hfloat⟩
        · exact isOpen_of_integer? hinteger
        · exact isOpen_of_float? hfloat

theorem isOpen_of_readScalar
    {t rest : Text} {value : Value} (hread : readScalar t = some (value, rest)) :
    value.isOpen = false := by
  unfold readScalar at hread
  split at hread
  · rcases Option.map_eq_some_iff.mp hread with ⟨_, _, hstep⟩
    cases hstep
    rfl
  · rcases Option.map_eq_some_iff.mp hread with ⟨_, hvalue, hstep⟩
    cases hstep
    exact isOpen_of_scalar? hvalue

theorem isOpen_of_inlineTable
    {members : List (List Key × Key × Span × Value)} {value : Value}
    (hvalue : inlineTable members = some value) :
    value.isOpen = false := by
  rcases Option.bind_eq_some_iff.mp hvalue with ⟨step, _, hstep⟩
  cases hstep
  rfl

theorem isOpen_of_readValue
    {total depth : Nat} {t rest : Text} {item : Span × Value}
    (hread : readValue total depth t = some (item, rest)) :
    item.2.isOpen = false := by
  rcases item with ⟨span, value⟩
  cases depth with
  | zero =>
      exact isOpen_of_readScalar (withSpan_eq_some_iff.mp hread).1
  | succ depth =>
      have hvalue := (withSpan_eq_some_iff.mp hread).1
      rw [read_bind, read_get, Option.bind_some] at hvalue
      dsimp only at hvalue
      split at hvalue
      · rcases read_bind_iff.mp hvalue with ⟨_, _, _, hitems⟩
        rcases read_bind_iff.mp hitems with ⟨items, _, _, hlast⟩
        cases hlast
        rfl
      · rcases read_bind_iff.mp hvalue with ⟨_, _, _, hmembers⟩
        rcases read_bind_iff.mp hmembers with ⟨members, _, _, hlast⟩
        rw [read_lift] at hlast
        rcases Option.map_eq_some_iff.mp hlast with ⟨table, htable, hstep⟩
        cases hstep
        exact isOpen_of_inlineTable htable
      · exact isOpen_of_readScalar hvalue

theorem isOpen_of_readContent
    {total : Nat} {t rest : Text} {path : List Key} {key : Key} {item : Span × Value}
    (hread : readContent total t = some (.entry path key item, rest)) :
    item.2.isOpen = false := by
  rw [readContent, read_bind, read_get, Option.bind_some] at hread
  split at hread
  · rcases read_bind_iff.mp hread with ⟨_, _, _, hlast⟩
    cases hlast
  · rcases read_bind_iff.mp hread with ⟨_, _, hentry, hlast⟩
    cases hlast
    rcases read_bind_iff.mp hentry with ⟨_, _, _, hnext⟩
    rcases read_bind_iff.mp hnext with ⟨_, _, _, hnext⟩
    rcases read_bind_iff.mp hnext with ⟨_, _, _, hnext⟩
    rcases read_bind_iff.mp hnext with ⟨_, _, _, hnext⟩
    rcases read_bind_iff.mp hnext with ⟨value, _, hvalue, hlast⟩
    cases hlast
    exact isOpen_of_readValue hvalue

theorem isOpen_of_outline?
    {source : Text} {statements : List Statement} {statement : Statement} {path : List Key}
    {key : Key} {item : Span × Value} (houtline : outline? source = some statements)
    (hmem : statement ∈ statements) (hcontent : statement.content = .entry path key item) :
    item.2.isOpen = false := by
  rcases Option.map_eq_some_iff.mp houtline with ⟨⟨statements', left⟩, hread, hstatements⟩
  rcases List.append_of_mem hmem with ⟨before, after, hsplit⟩
  dsimp only at hstatements
  rw [hstatements, hsplit] at hread
  rcases (laid_of_readStatements hread).exists_read with ⟨t, rest, _, hstatement, _⟩
  rcases readStatement_eq_some hstatement with ⟨gap, _, _, _, hreads⟩
  rw [hcontent] at hreads
  exact isOpen_of_readContent hreads

/-!
# What an addition does
-/

/-- The changes that statements make, at the table they lead to or from one above it. -/
inductive IsAddition : Change -> Prop where
  | entry (isDotted : Bool) (key : Key) (item : Span × Value) :
      IsAddition (addHere isDotted key item)
  | table (key : Key) (span : Span) : IsAddition (openTable key span)
  | item (key : Key) (span : Span) : IsAddition (openItem key span)
  | beneath {change : Change} (dotted : Bool) (path : List Key) (hchange : IsAddition change) :
      IsAddition (descend dotted change path)

/-- An open value becomes another one, and a table keeps its entries or is added to. -/
structure Grows (old new : Value) : Prop where
  isOpen : old.isOpen = true
  table : forall kind child, old = .table kind child ->
    exists kind' child',
      new = .table kind' child' ∧
        (child' = child ∨
          exists change, IsAddition change ∧ change kind child = some (kind', child'))

inductive Adds (entries : Entries) : Entries -> Prop where
  | intro (name : Text) (span : Span) (value : Value)
      (hgrows : forall old, entries.lookup name = some old -> Grows old.2 value) :
      Adds entries (setEntry name span value entries)

theorem adds_of_addHere
    {isDotted : Bool} {key : Key} {item : Span × Value} {kind kind' : TableKind}
    {entries entries' : Entries}
    (hadd : addHere isDotted key item kind entries = some (kind', entries')) :
    Adds entries entries' := by
  unfold addHere at hadd
  split at hadd
  · cases hadd
  · rename_i hfree
    cases hadd
    constructor
    intro old hold
    rw [hold] at hfree
    simp at hfree

theorem adds_of_openTable
    {key : Key} {span : Span} {kind kind' : TableKind} {entries entries' : Entries}
    (hopen : openTable key span kind entries = some (kind', entries')) :
    Adds entries entries' := by
  unfold openTable at hopen
  split at hopen
  · rename_i hnone
    cases hopen
    constructor
    intro old hold
    rw [hnone] at hold
    cases hold
  · rename_i first child hfound
    cases hopen
    constructor
    intro old hold
    rw [hfound] at hold
    cases hold
    constructor
    · rfl
    · intro oldKind oldChild hold
      cases hold
      exact ⟨.header, child, rfl, Or.inl rfl⟩
  · cases hopen

theorem adds_of_openItem
    {key : Key} {span : Span} {kind kind' : TableKind} {entries entries' : Entries}
    (hopen : openItem key span kind entries = some (kind', entries')) :
    Adds entries entries' := by
  unfold openItem at hopen
  dsimp only at hopen
  split at hopen
  · rename_i hnone
    cases hopen
    constructor
    intro old hold
    rw [hnone] at hold
    cases hold
  · rename_i first items hfound
    cases hopen
    constructor
    intro old hold
    rw [hfound] at hold
    cases hold
    constructor
    · rfl
    · intro oldKind oldChild hold
      cases hold
  · cases hopen

theorem adds_of_descend_cons
    {dotted : Bool} {change : Change} {key : Key} {path : List Key} {kind kind' : TableKind}
    {entries entries' : Entries} (haddition : IsAddition change)
    (hdescend : descend dotted change (key :: path) kind entries = some (kind', entries')) :
    Adds entries entries' := by
  rw [descend] at hdescend
  split at hdescend
  · rename_i hnone
    -- a new table, since the name stands for nothing yet
    rcases Option.bind_eq_some_iff.mp hdescend with ⟨step, _, hstep⟩
    cases hstep
    constructor
    intro old hold
    rw [hnone] at hold
    cases hold
  · cases hdescend
  · rename_i span childKind child hinline hfound
    -- a table that is not written in braces, in which the path goes on
    split at hdescend
    · cases hdescend
    · rcases Option.bind_eq_some_iff.mp hdescend with ⟨⟨childKind', child'⟩, hchild, hstep⟩
      cases hstep
      constructor
      intro old hold
      rw [hfound] at hold
      cases hold
      constructor
      · rw [Value.isOpen, bne_iff_ne]
        exact hinline
      · intro oldKind oldChild hold
        cases hold
        exact ⟨childKind', child', rfl,
          Or.inr ⟨_, IsAddition.beneath dotted path haddition, hchild⟩⟩
  · rename_i span items hfound
    -- an array of tables, the last of which is changed; it stays an array
    split at hdescend
    · rcases Option.bind_eq_some_iff.mp hdescend with ⟨step, _, hstep⟩
      cases hstep
      constructor
      intro old hold
      rw [hfound] at hold
      cases hold
      constructor
      · rfl
      · intro oldKind oldChild hold
        cases hold
    · cases hdescend
  · cases hdescend

theorem IsAddition.adds
    {change : Change} {kind kind' : TableKind} {entries entries' : Entries}
    (haddition : IsAddition change) (hchange : change kind entries = some (kind', entries')) :
    Adds entries entries' := by
  induction haddition with
  | entry isDotted key item =>
      exact adds_of_addHere hchange
  | table key span =>
      exact adds_of_openTable hchange
  | item key span =>
      exact adds_of_openItem hchange
  | beneath dotted path hbeneath ih =>
      cases path with
      | nil => exact ih hchange
      | cons key path => exact adds_of_descend_cons hbeneath hchange

/-!
# What lasts
-/

/-- What is true of the entries of a table stays true whatever is added to it. -/
def IsLasting (p : Entries -> Prop) : Prop :=
  forall change, IsAddition change -> forall kind entries kind' entries',
    change kind entries = some (kind', entries') -> p entries -> p entries'

def HasTable (name : Text) (p : Entries -> Prop) (entries : Entries) : Prop :=
  exists span kind child, entries.lookup name = some (span, .table kind child) ∧ p child

theorem lookup_setEntry
    (key sought : Text) (span : Span) (value : Value) (entries : Entries) :
    (setEntry key span value entries).lookup sought =
      if sought = key then some (span, value) else entries.lookup sought :=
  lookup_replaced_or_appended key sought (span, value) entries

theorem lookup_setEntry_self (key : Text) (span : Span) (value : Value) (entries : Entries) :
    (setEntry key span value entries).lookup key = some (span, value) := by
  rw [lookup_setEntry, if_pos rfl]

theorem isLasting_lookup
    {name : Text} {item : Span × Value} (hclosed : item.2.isOpen = false) :
    IsLasting fun entries => entries.lookup name = some item := by
  intro change haddition kind entries kind' entries' hchange hfound
  cases haddition.adds hchange with
  | intro key span value hgrows =>
      rw [lookup_setEntry]
      split
      · rename_i hname
        rw [hname] at hfound
        have hopen := (hgrows item hfound).isOpen
        rw [hclosed] at hopen
        cases hopen
      · exact hfound

theorem IsLasting.hasTable
    {p : Entries -> Prop} (name : Text) (hlasting : IsLasting p) :
    IsLasting (HasTable name p) := by
  intro change haddition kind entries kind' entries' hchange hhas
  rcases hhas with ⟨first, childKind, child, hfound, hchild⟩
  cases haddition.adds hchange with
  | intro key span value hgrows =>
      by_cases hname : name = key
      · rw [hname] at hfound ⊢
        rcases (hgrows _ hfound).table childKind child rfl with
          ⟨newKind, newChild, hvalue, hsame | ⟨inner, hinner, hstep⟩⟩
        · exact ⟨span, newKind, newChild, by rw [lookup_setEntry_self, hvalue], hsame ▸ hchild⟩
        · exact ⟨span, newKind, newChild, by rw [lookup_setEntry_self, hvalue],
            hlasting inner hinner _ _ _ _ hstep hchild⟩
      · exact ⟨first, childKind, child, by rw [lookup_setEntry, if_neg hname, hfound], hchild⟩

theorem isLasting_true :
    IsLasting fun _ => True :=
  fun _ _ _ _ _ _ _ _ => trivial

/-!
# From the outline to the values
-/

theorem Draft.exists_addition
    {draft draft' : Draft} {content : Content} (hadd : draft.add content = some draft') :
    exists change kind, IsAddition change ∧
      change .header draft.entries = some (kind, draft'.entries) := by
  have hupdate (path : List Key) (change : Change) (entries : Entries)
      (haddition : IsAddition change) (hentries : draft.update path change = some entries) :
      exists change' kind, IsAddition change' ∧
        change' .header draft.entries = some (kind, entries) := by
    rcases Option.map_eq_some_iff.mp hentries with ⟨⟨kind, entries'⟩, hdescend, hstep⟩
    cases hstep
    exact ⟨_, kind, IsAddition.beneath false path haddition, hdescend⟩
  cases content with
  | header span doubled path key =>
      rcases Option.map_eq_some_iff.mp hadd with ⟨entries, hentries, hdraft⟩
      cases hdraft
      apply hupdate path _ entries _ hentries
      split
      · exact IsAddition.item key span
      · exact IsAddition.table key span
  | entry path key item =>
      rcases Option.map_eq_some_iff.mp hadd with ⟨entries, hentries, hdraft⟩
      cases hdraft
      exact hupdate draft.header _ entries
        (IsAddition.beneath true path (IsAddition.entry _ key item)) hentries

theorem IsLasting.add
    {p : Entries -> Prop} {draft draft' : Draft} {content : Content} (hlasting : IsLasting p)
    (hadd : draft.add content = some draft') (hp : p draft.entries) :
    p draft'.entries := by
  rcases Draft.exists_addition hadd with ⟨change, kind, haddition, hchange⟩
  exact hlasting change haddition _ _ _ _ hchange hp

theorem IsLasting.addAll
    {p : Entries -> Prop} {draft draft' : Draft} {statements : List Statement}
    (hlasting : IsLasting p) (hadd : draft.addAll statements = some draft')
    (hp : p draft.entries) :
    p draft'.entries := by
  induction statements generalizing draft with
  | nil =>
      cases hadd
      exact hp
  | cons statement rest ih =>
      rcases Option.bind_eq_some_iff.mp hadd with ⟨next, hfirst, hrest⟩
      exact ih hrest (hlasting.add hfirst hp)

theorem Draft.addAll_append (draft : Draft) (statements more : List Statement) :
    draft.addAll (statements ++ more) =
      (draft.addAll statements).bind fun draft => draft.addAll more := by
  induction statements generalizing draft with
  | nil =>
      rfl
  | cons statement rest ih =>
      rw [List.cons_append, Draft.addAll, Draft.addAll, Option.bind_assoc]
      congr
      funext next
      exact ih next

theorem Draft.header_of_addAll
    {draft draft' : Draft} {statements : List Statement}
    (hadd : draft.addAll statements = some draft')
    (hheaders : forall statement, statement ∈ statements -> statement.isHeader = false) :
    draft'.header = draft.header := by
  induction statements generalizing draft with
  | nil =>
      cases hadd
      rfl
  | cons statement rest ih =>
      rcases Option.bind_eq_some_iff.mp hadd with ⟨next, hfirst, hrest⟩
      have hnext : next.header = draft.header := by
        have hentry := hheaders statement List.mem_cons_self
        unfold Statement.isHeader at hentry
        cases hcontent : statement.content with
        | header span doubled path key =>
            rw [hcontent] at hentry
            cases hentry
        | entry path key item =>
            rw [hcontent] at hfirst
            rcases Option.map_eq_some_iff.mp hfirst with ⟨entries, _, hdraft⟩
            rw [← hdraft]
      rw [← hnext]
      exact ih hrest fun statement hmem => hheaders statement (List.mem_cons_of_mem _ hmem)

theorem Draft.hasTable_of_header
    {draft draft' : Draft} {span : Span} {key : Key}
    (hadd : draft.add (.header span false [] key) = some draft') :
    HasTable key.text (fun _ => True) draft'.entries ∧ draft'.header = [key] := by
  rcases Option.map_eq_some_iff.mp hadd with ⟨entries, hentries, hdraft⟩
  rcases Option.map_eq_some_iff.mp hentries with ⟨⟨kind, entries'⟩, hopen, hstep⟩
  cases hstep
  cases hdraft
  refine ⟨?_, rfl⟩
  change openTable key span .header draft.entries = _ at hopen
  unfold openTable at hopen
  split at hopen
  · cases hopen
    exact ⟨span, .header, [], lookup_setEntry_self _ _ _ _, trivial⟩
  · rename_i first child hfound
    cases hopen
    exact ⟨span, .header, child, lookup_setEntry_self _ _ _ _, trivial⟩
  · cases hopen

theorem Draft.lookup_of_entry
    {draft draft' : Draft} {tableKey key : Key} {item : Span × Value}
    (hheader : draft.header = [tableKey])
    (htable : HasTable tableKey.text (fun _ => True) draft.entries)
    (hadd : draft.add (.entry [] key item) = some draft') :
    HasTable tableKey.text (fun child => child.lookup key.text = some item) draft'.entries := by
  rcases htable with ⟨span, kind, child, hfound, _⟩
  rcases Option.map_eq_some_iff.mp hadd with ⟨entries, hentries, hdraft⟩
  rcases Option.map_eq_some_iff.mp hentries with ⟨⟨kind', entries'⟩, hdescend, hstep⟩
  cases hstep
  cases hdraft
  rw [hheader, descend, hfound] at hdescend
  split at hdescend
  · rename_i hnone
    cases hnone
  · cases hdescend
  · rename_i span' kind' child' _ hsame
    cases hsame
    rw [Bool.false_and, if_neg Bool.false_ne_true] at hdescend
    rcases Option.bind_eq_some_iff.mp hdescend with ⟨⟨newKind, newChild⟩, hset, hstep⟩
    cases hstep
    change addHere false key item kind child = _ at hset
    unfold addHere at hset
    split at hset
    · cases hset
    · cases hset
      exact ⟨span, kind, _, lookup_setEntry_self _ _ _ _, lookup_setEntry_self _ _ _ _⟩
  · rename_i hsame
    cases hsame
  · cases hdescend

/-- What the outline gives as a setting of a table is its value in the document. -/
theorem IsSetting.lookup
    {source table name : Text} {statements between : List Statement} {heading : Span} {key : Key}
    {item : Span × Value} {entries : Entries} (houtline : outline? source = some statements)
    (hsetting : IsSetting statements table name heading between key item)
    (hparse : parse? source = some entries) :
    HasTable table (fun child => child.lookup name = some item) entries := by
  rcases hsetting with @⟨before, after, header, setting, hsplit, hopens, hheaders, _, hgives, hname⟩
  rcases hopens with ⟨tableKey, hheader, htable⟩
  rw [parse?_eq, houtline, Option.bind_some] at hparse
  rcases Option.map_eq_some_iff.mp hparse with ⟨last, hadd, hentries⟩
  rw [hsplit] at houtline hadd
  rw [Draft.addAll_append] at hadd
  rcases Option.bind_eq_some_iff.mp hadd with ⟨first, _, hadd⟩
  rcases Option.bind_eq_some_iff.mp hadd with ⟨opened, hopened, hadd⟩
  rw [Draft.addAll_append] at hadd
  rcases Option.bind_eq_some_iff.mp hadd with ⟨middle, hmiddle, hadd⟩
  rcases Option.bind_eq_some_iff.mp hadd with ⟨set, hset, hafter⟩
  rw [hheader] at hopened
  rw [hgives] at hset
  rcases Draft.hasTable_of_header hopened with ⟨hhas, hpath⟩
  have hmiddleHeader := (Draft.header_of_addAll hmiddle hheaders).trans hpath
  have hmiddleHas := (isLasting_true.hasTable tableKey.text).addAll hmiddle hhas
  have hfound := Draft.lookup_of_entry hmiddleHeader hmiddleHas hset
  have hclosed := isOpen_of_outline? houtline (by simp) hgives
  have hlasting := (@isLasting_lookup key.text item hclosed).hasTable tableKey.text
  rw [← hentries, ← htable, ← hname]
  exact hlasting.addAll hafter hfound

end Toml
end StubAssist

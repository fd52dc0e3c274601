import StubAssist.Proofs.Index.ListedInterfaces
import StubAssist.Proofs.Text.Lines
import StubAssist.Proofs.Text.Numbers
import StubAssist.Proofs.Text.Words

/-!
# Printed listings

Reading a listing undoes printing it.  A path may hold everything that parts the fields
of a line, since the fields after it are split off from the right; the numbers, names and
kinds there hold none of it.  Lines that lack a field stand between the entries without
harm.
-/

namespace StubAssist

theorem Text.Alike.trim_eq {line other : Text} (halike : Text.Alike line other) :
    Text.trim other = Text.trim line := by
  cases halike with
  | same => rfl
  | returned => exact (Text.trim_append_of_isBlank other (by decide)).symm

/-!
# Kinds
-/

namespace SymbolKind

theorem ofText_name (kind : SymbolKind) :
    ofText kind.name = kind := by
  cases kind <;> decide

theorem isBlank_eq_false_of_mem_name {kind : SymbolKind} {c : Char} (hc : c ∈ kind.name) :
    Text.isBlank c = false := by
  have hnone : kind.name.any Text.isBlank = false := by
    cases kind <;> decide
  simpa using List.any_eq_false.mp hnone c hc

theorem not_mem_name {c : Char} (kind : SymbolKind) (hc : Text.isBlank c = true) :
    c ∉ kind.name := by
  intro hmem
  rw [isBlank_eq_false_of_mem_name hmem] at hc
  cases hc

theorem name_ne_nil (kind : SymbolKind) :
    kind.name ≠ [] := by
  cases kind <;> decide

end SymbolKind

namespace WorkspaceSymbols

/-!
# Entries
-/

/-- What a line of a listing is printed from; lines and columns are counted from one. -/
structure Entry where
  path : Text
  startLine : Nat
  startColumn : Nat
  stopLine : Nat
  stopColumn : Nat
  container : Option Text
  name : Text
  kind : SymbolKind
deriving DecidableEq, Repr

def IsCount (n : Nat) : Prop :=
  1 ≤ n ∧ n < Text.wordLimit

instance (n : Nat) : Decidable (IsCount n) :=
  inferInstanceAs (Decidable (1 ≤ n ∧ n < Text.wordLimit))

namespace Entry

structure IsPrintable (entry : Entry) : Prop where
  path : '\n' ∉ entry.path
  startLine : IsCount entry.startLine
  startColumn : IsCount entry.startColumn
  stopLine : IsCount entry.stopLine
  stopColumn : IsCount entry.stopColumn
  container : forall container, entry.container = some container ->
    container ≠ [] ∧ ' ' ∉ container ∧ '\n' ∉ container
  name : entry.name ≠ [] ∧ '.' ∉ entry.name ∧ ' ' ∉ entry.name ∧ '\n' ∉ entry.name

/-- The symbol of an entry, with positions that are counted from zero. -/
def symbol (entry : Entry) : Symbol :=
  ⟨entry.name, entry.kind,
    ⟨⟨entry.startLine - 1, entry.startColumn - 1⟩, ⟨entry.stopLine - 1, entry.stopColumn - 1⟩⟩,
    entry.container⟩

def qualified (entry : Entry) : Text :=
  match entry.container with
  | none => entry.name
  | some container => container ++ '.' :: entry.name

def withinLine (entry : Entry) : Text :=
  Text.ofNat entry.startLine ++ ':' ::
    (Text.ofNat entry.startColumn ++ '-' :: Text.ofNat entry.stopColumn)

def acrossLines (entry : Entry) : Text :=
  Text.ofNat entry.startLine ++ ':' ::
    (Text.ofNat entry.startColumn ++ '-' ::
      (Text.ofNat entry.stopLine ++ ':' :: Text.ofNat entry.stopColumn))

def line (entry : Entry) (place : Text) : Text :=
  entry.path ++ ':' :: (place ++ ' ' :: (entry.qualified ++ ' ' :: entry.kind.name))

/-- There is a form for places on one line, and one for all places. -/
inductive PrintsAs (entry : Entry) : Text -> Prop
  | withinLine (hsame : entry.startLine = entry.stopLine) :
      PrintsAs entry (entry.line entry.withinLine)
  | acrossLines : PrintsAs entry (entry.line entry.acrossLines)

end Entry

/-!
# Listings
-/

/-- The line lacks a field: one of the last two blanks, or a colon before them. -/
inductive LacksField (line : Text) : Prop
  | blank (hblanks : (Text.trim line).count ' ' < 2)
  | place {place name kind : Text}
      (hsplit : Text.trim line = place ++ ' ' :: (name ++ ' ' :: kind)) (hname : ' ' ∉ name)
      (hkind : ' ' ∉ kind) (hplace : ':' ∉ place)

def lineEndings : List Text :=
  ["\n", "\r\n"]

/-- The listing prints these entries, one on a line, with other lines in between. -/
inductive Prints : List Entry -> Text -> Prop
  | nil : Prints [] []
  | entry {entry : Entry} {line ending rest : Text} {entries : List Entry}
      (hprintable : entry.IsPrintable) (hline : entry.PrintsAs line)
      (hending : ending ∈ lineEndings) (hrest : Prints entries rest) :
      Prints (entry :: entries) (line ++ (ending ++ rest))
  | other {line ending rest : Text} {entries : List Entry}
      (hwhole : '\n' ∉ line) (hline : LacksField line)
      (hending : ending ∈ lineEndings) (hrest : Prints entries rest) :
      Prints entries (line ++ (ending ++ rest))

/-!
# Places
-/

section Places

variable {startLine startColumn stopLine stopColumn : Nat}

theorem positionOf_of_isCount {line : Nat} (column : Nat) (hline : IsCount line) :
    positionOf line column = some ⟨line - 1, column - 1⟩ :=
  if_neg (Nat.pos_iff_ne_zero.mp hline.left)

theorem parsePlace_withinLine
    (path : Text) (hline : IsCount startLine) (hcolumn : IsCount startColumn)
    (hstop : IsCount stopColumn) :
    parsePlace (path ++ ':' :: (Text.ofNat startLine ++ ':' ::
        (Text.ofNat startColumn ++ '-' :: Text.ofNat stopColumn))) =
      some ⟨⟨startLine - 1, startColumn - 1⟩, ⟨startLine - 1, stopColumn - 1⟩⟩ := by
  -- the path may hold colons and dashes, the numbers behind it hold none
  have hcolumns : ':' ∉ Text.ofNat startColumn ++ '-' :: Text.ofNat stopColumn := by
    simp [Text.not_mem_ofNat _ (c := ':') rfl]
  have hlast := Text.splitLast_append (path ++ ':' :: Text.ofNat startLine) hcolumns
  rw [List.append_assoc, List.cons_append] at hlast
  have hhead := Text.splitLast_append path (Text.not_mem_ofNat startLine (c := ':') rfl)
  have hfirst := Text.splitFirst_append (Text.ofNat stopColumn)
    (Text.not_mem_ofNat startColumn (c := '-') rfl)
  have hdash : List.contains (Text.ofNat startColumn ++ '-' :: Text.ofNat stopColumn) '-' =
      true := by
    simp
  unfold parsePlace
  simp only [bind, pure, hlast, Option.bind_some, hdash, if_true, parseSameLine, hfirst, hhead,
    Text.toWord?_ofNat hline.right, Text.toWord?_ofNat hcolumn.right,
    Text.toWord?_ofNat hstop.right, positionOf_of_isCount _ hline]

theorem parsePlace_acrossLines
    (path : Text) (hline : IsCount startLine) (hcolumn : IsCount startColumn)
    (hstopLine : IsCount stopLine) (hstop : IsCount stopColumn) :
    parsePlace (path ++ ':' :: (Text.ofNat startLine ++ ':' ::
        (Text.ofNat startColumn ++ '-' ::
          (Text.ofNat stopLine ++ ':' :: Text.ofNat stopColumn)))) =
      some ⟨⟨startLine - 1, startColumn - 1⟩, ⟨stopLine - 1, stopColumn - 1⟩⟩ := by
  have hmiddle : ':' ∉ Text.ofNat startColumn ++ '-' :: Text.ofNat stopLine := by
    simp [Text.not_mem_ofNat _ (c := ':') rfl]
  have hlast := Text.splitLast_append (path ++ ':' :: (Text.ofNat startLine ++ ':' ::
    (Text.ofNat startColumn ++ '-' :: Text.ofNat stopLine)))
    (Text.not_mem_ofNat stopColumn (c := ':') rfl)
  have hbefore := Text.splitLast_append (path ++ ':' :: Text.ofNat startLine) hmiddle
  have hhead := Text.splitLast_append path (Text.not_mem_ofNat startLine (c := ':') rfl)
  have hfirst := Text.splitFirst_append (Text.ofNat stopLine)
    (Text.not_mem_ofNat startColumn (c := '-') rfl)
  have hdash : List.contains (Text.ofNat stopColumn) '-' = false := by
    simpa using Text.not_mem_ofNat stopColumn (c := '-') rfl
  simp only [List.append_assoc, List.cons_append] at hlast hbefore
  unfold parsePlace
  simp only [bind, pure, hlast, Option.bind_some, hdash, Bool.false_eq_true, if_false,
    parseAcrossLines, hbefore, hfirst, hhead, Text.toWord?_ofNat hline.right,
    Text.toWord?_ofNat hcolumn.right, Text.toWord?_ofNat hstopLine.right,
    Text.toWord?_ofNat hstop.right, positionOf_of_isCount _ hline,
    positionOf_of_isCount _ hstopLine]

end Places

/-!
# Lines
-/

section Lines

variable {entry : Entry} {line : Text}

theorem splitQualified_qualified (hprintable : entry.IsPrintable) :
    splitQualified entry.qualified = (entry.name, entry.container) := by
  unfold splitQualified Entry.qualified
  cases hcontainer : entry.container with
  | none =>
      rw [Text.splitLast_eq_none_iff.mpr hprintable.name.2.1]
  | some container =>
      rw [Text.splitLast_append container hprintable.name.2.1]
      simp [hprintable.name.1, (hprintable.container container hcontainer).1]

theorem not_mem_qualified
    {c : Char} (hdot : c ≠ '.') (hname : c ∉ entry.name)
    (hcontainer : forall container, entry.container = some container -> c ∉ container) :
    c ∉ entry.qualified := by
  unfold Entry.qualified
  cases hsplit : entry.container with
  | none =>
      exact hname
  | some container =>
      simp [hdot, hname, hcontainer container hsplit]

theorem trim_line (entry : Entry) (place : Text) :
    Text.trim (entry.line place) =
      (Text.trimStart entry.path ++ ':' :: place) ++ ' ' ::
        (entry.qualified ++ ' ' :: entry.kind.name) := by
  have hsplit : Text.trimStart (entry.line place) =
      (Text.trimStart entry.path ++ ':' :: place ++ ' ' :: entry.qualified ++ [' ']) ++
        entry.kind.name := by
    rw [Entry.line, Text.trimStart_append_cons _ _ (by decide)]
    simp
  have hend : Text.trimEnd (Text.trimStart (entry.line place)) =
      Text.trimStart (entry.line place) := by
    apply Text.trimEnd_of_getLast?
    intro c hc
    rw [hsplit, List.getLast?_append_of_ne_nil _ entry.kind.name_ne_nil] at hc
    exact SymbolKind.isBlank_eq_false_of_mem_name (List.mem_of_getLast? hc)
  rw [Text.trim, hend, hsplit]
  simp

theorem parseLine_line
    {place : Text} {range : Range} (hprintable : entry.IsPrintable)
    (hplace : parsePlace (Text.trimStart entry.path ++ ':' :: place) = some range) :
    parseLine (entry.line place) =
      some ⟨entry.name, entry.kind, range, entry.container⟩ := by
  have hname : ' ' ∉ entry.qualified :=
    not_mem_qualified (by decide) hprintable.name.2.2.1
      fun container hcontainer => (hprintable.container container hcontainer).2.1
  rw [parseLine_of_trim (trim_line entry place) hname (entry.kind.not_mem_name (by decide)),
    hplace, splitQualified_qualified hprintable, SymbolKind.ofText_name]
  rfl

theorem parseLine_of_printsAs
    (hprintable : entry.IsPrintable) (hline : entry.PrintsAs line) :
    parseLine line = some entry.symbol := by
  cases hline with
  | withinLine hsame =>
      rw [Entry.symbol, ← hsame]
      exact parseLine_line hprintable (parsePlace_withinLine _ hprintable.startLine
        hprintable.startColumn hprintable.stopColumn)
  | acrossLines =>
      exact parseLine_line hprintable (parsePlace_acrossLines _ hprintable.startLine
        hprintable.startColumn hprintable.stopLine hprintable.stopColumn)

theorem newline_not_mem_of_printsAs
    (hprintable : entry.IsPrintable) (hline : entry.PrintsAs line) :
    '\n' ∉ line := by
  have hqualified : '\n' ∉ entry.qualified :=
    not_mem_qualified (by decide) hprintable.name.2.2.2
      fun container hcontainer => (hprintable.container container hcontainer).2.2
  have hkind : '\n' ∉ entry.kind.name := entry.kind.not_mem_name (by decide)
  cases hline with
  | withinLine hsame =>
      simp [Entry.line, Entry.withinLine, hprintable.path, hqualified, hkind,
        Text.not_mem_ofNat _ (c := '\n') rfl]
  | acrossLines =>
      simp [Entry.line, Entry.acrossLines, hprintable.path, hqualified, hkind,
        Text.not_mem_ofNat _ (c := '\n') rfl]

theorem parseLine_of_lacksField (hline : LacksField line) :
    parseLine line = none := by
  cases hline with
  | blank hblanks =>
      cases hparse : parseLine line with
      | none =>
          rfl
      | some symbol =>
          rcases exists_isEntry_of_parseLine hparse with ⟨place, name, kind, hentry, _, _⟩
          rw [hentry.split] at hblanks
          simp only [List.count_append, List.count_cons_self] at hblanks
          omega
  | place hsplit hname hkind hplace =>
      rw [parseLine_of_trim hsplit hname hkind, parsePlace,
        Text.splitLast_eq_none_iff.mpr hplace]
      rfl

/-!
# Whole listings
-/

theorem parse_append_line
    {ending : Text} (rest : Text) (hwhole : '\n' ∉ line) (hending : ending ∈ lineEndings) :
    parse (line ++ (ending ++ rest)) = (parseLine line).toList ++ parse rest := by
  have hread : exists read,
      Text.lines (line ++ (ending ++ rest)) = read :: Text.lines rest ∧
        Text.trim read = Text.trim line := by
    rcases List.mem_pair.mp hending with hfeed | hreturn
    · rw [hfeed]
      exact ⟨_, Text.lines_append_newline rest hwhole,
        (Text.alike_dropTerminator line).trim_eq⟩
    · -- such a line may end in carriage returns of its own, all of which are trimmed
      have hnone : '\n' ∉ line ++ ['\r'] := by
        simp [hwhole]
      have htext : line ++ (ending ++ rest) = (line ++ ['\r']) ++ '\n' :: rest := by
        rw [hreturn]
        simp
      refine ⟨_, htext ▸ Text.lines_append_newline rest hnone, ?_⟩
      rw [(Text.alike_dropTerminator (line ++ ['\r'])).trim_eq]
      exact Text.trim_append_of_isBlank line (by decide)
  rcases hread with ⟨read, hlines, htrim⟩
  have hparse : parseLine read = parseLine line := by
    rw [parseLine, parseLine, htrim]
  rw [parse, hlines, List.filterMap_cons, hparse]
  cases parseLine line <;> rfl

/-- Reading a listing gives the symbols of its entries, in their order. -/
theorem parse_of_prints
    {entries : List Entry} {listing : Text} (hprints : Prints entries listing) :
    parse listing = entries.map Entry.symbol := by
  induction hprints with
  | nil =>
      rfl
  | entry hprintable hline hending _ ih =>
      rw [parse_append_line _ (newline_not_mem_of_printsAs hprintable hline) hending,
        parseLine_of_printsAs hprintable hline, ih]
      rfl
  | other hwhole hline hending _ ih =>
      rw [parse_append_line _ hwhole hending, parseLine_of_lacksField hline, ih]
      rfl

end Lines

def farEntry : Entry :=
  ⟨" my app-1:2-3 x.go", Text.wordLimit - 1, 1, Text.wordLimit - 1, Text.wordLimit - 1, none,
    "Shape", .interface⟩

def storeEntry : Entry :=
  ⟨"a.go", 5, 6, 10, 2, some "dev/my-app.v2", "Store", .other⟩

def mixedListing : Text :=
  " my app-1:2-3 x.go:18446744073709551615:1-18446744073709551615 Shape Interface\r\n".toList ++
    "not a symbol line\n \r\n".toList ++
    "a.go:5:6-10:2 dev/my-app.v2.Store Other\n".toList

theorem parse_of_mixedListing :
    Prints [farEntry, storeEntry] mixedListing ∧
      parse mixedListing = [farEntry.symbol, storeEntry.symbol] := by
  have hfar : farEntry.IsPrintable :=
    ⟨by decide, by decide, by decide, by decide, by decide, nofun, by decide⟩
  have hstore : storeEntry.IsPrintable :=
    ⟨by decide, by decide, by decide, by decide, by decide,
      fun container hcontainer => by cases hcontainer; decide, by decide⟩
  have hfields : Text.trim "not a symbol line" =
      "not a".toList ++ ' ' :: ("symbol".toList ++ ' ' :: "line".toList) := by
    decide
  have hwords : LacksField "not a symbol line" :=
    LacksField.place hfields (by decide) (by decide) (by decide)
  have hblank : LacksField " " := LacksField.blank (by decide)
  have hprints : Prints [farEntry, storeEntry] mixedListing := by
    have htext : mixedListing =
        farEntry.line farEntry.withinLine ++ ("\r\n".toList ++
          ("not a symbol line".toList ++ ("\n".toList ++
            (" ".toList ++ ("\r\n".toList ++
              (storeEntry.line storeEntry.acrossLines ++ ("\n".toList ++ []))))))) := by
      decide +kernel
    rw [htext]
    apply Prints.entry hfar (.withinLine rfl) (by decide)
    apply Prints.other (by decide) hwords (by decide)
    apply Prints.other (by decide) hblank (by decide)
    exact Prints.entry hstore .acrossLines (by decide) .nil
  exact ⟨hprints, parse_of_prints hprints⟩

end WorkspaceSymbols
end StubAssist

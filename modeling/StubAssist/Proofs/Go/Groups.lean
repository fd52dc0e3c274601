import StubAssist.Proofs.Go.MatchingBraces

/-!
# Groups

A group opens on a line that begins with `type (` and closes with the first line that
leaves no more brackets open than there were before it.  The scan keeps one number for
it, which is shown to be the nesting since the group began, less the parenthesis that
opened it.  The scan looks for the end of a group on the lines that begin outside raw
strings only; where every group ends on such a line, it knows at each line whether a
group is open, and so which lines declare something.
-/

namespace StubAssist
namespace Go

/-!
# Open groups
-/

/-- Opened minus closed braces and parentheses from the start of a line to that of another. -/
def nestingSince (source : Text) (first index : Nat) : Int :=
  nestingBefore source index - nestingBefore source first

def opensGroup (source : Text) (index : Nat) : Bool :=
  !rawBefore source index &&
    ((Text.lines source)[index]?).any fun line => groupOpening.isPrefixOf (codeOf line)

/--
The first line of the group that is open where line `index` begins.  A group closes with
the first `watched` line, its own first one included, after which the nesting since it
began is not positive.
-/
def openGroup? (source : Text) (watched : Nat -> Bool) : Nat -> Option Nat
  | 0 => none
  | index + 1 =>
      ((openGroup? source watched index).or
          (if opensGroup source index then some index else none)).filter
        fun first => !watched index || 0 < nestingSince source first (index + 1)

/-- Groups close on whatever line they end. -/
def everyLine : Nat -> Bool :=
  fun _ => true

/-- The line declares this head, by the groups that close on the `watched` lines. -/
inductive Declares (source : Text) (watched : Nat -> Bool) (index : Nat)
    (head : Text × SymbolKind) : Prop
  | alone {line : Text} {words : List Text}
      (hline : (Text.lines source)[index]? = some line)
      (hraw : rawBefore source index = false)
      (houtside : openGroup? source watched index = none)
      (hopens : opensGroup source index = false)
      (hwords : Text.words (codeOf line) = "type".toList :: words)
      (hhead : headOf words = some head)
  | member {line : Text} {first : Nat}
      (hline : (Text.lines source)[index]? = some line)
      (hraw : rawBefore source index = false)
      (hinside : openGroup? source watched index = some first)
      (hdepth : nestingSince source first index - 1 = 0)
      (hclosing : (codeOf line).head? ≠ some ')')
      (hhead : headOf (Text.words (codeOf line)) = some head)

/-!
# One line
-/

theorem nestingBefore_succ
    {source line : Text} {index : Nat} (hline : (Text.lines source)[index]? = some line) :
    nestingBefore source (index + 1) =
      nestingBefore source index + nestingChange (codeChars (rawBefore source index) line) := by
  unfold nestingBefore
  rw [List.take_add_one, hline, codeOfLines_append, nestingChange_append]
  show _ + nestingChange (codeChars (rawBefore source index) line ++ []) = _
  rw [List.append_nil]

theorem nestingSince_succ
    {source line : Text} {index : Nat} (first : Nat)
    (hline : (Text.lines source)[index]? = some line) :
    nestingSince source first (index + 1) =
      nestingSince source first index +
        nestingChange (codeChars (rawBefore source index) line) := by
  unfold nestingSince
  rw [nestingBefore_succ hline]
  omega

theorem nestingSince_self (source : Text) (index : Nat) :
    nestingSince source index index = 0 :=
  Int.sub_self _

theorem stateAt_succ
    {source line : Text} {index : Nat} (hline : (Text.lines source)[index]? = some line) :
    stateAt source (index + 1) = (scanDeclaration (stateAt source index) line).2 := by
  unfold stateAt stateAfter
  rw [List.take_add_one, hline, List.foldl_append]
  rfl

theorem scanDeclaration_group (state : ScanState) (line : Text) :
    (scanDeclaration state line).2.group =
      ((state.group.or
          (if !state.inRaw && groupOpening.isPrefixOf (codeOf line) then some (-1)
            else none)).map
        (· + nestingChange (codeChars state.inRaw line))).filter
          fun depth => state.inRaw || 0 ≤ depth := by
  rcases state with ⟨group, inRaw⟩
  cases inRaw with
  | true =>
      cases group <;> rfl
  | false =>
      cases group with
      | some depth =>
          simp [scanDeclaration_member, groupAfter, Option.filter_some]
      | none =>
          cases hopens : groupOpening.isPrefixOf (codeOf line) with
          | true =>
              simp [scanDeclaration_opening hopens, groupAfter, Option.filter_some,
                Int.add_comm, Int.sub_eq_add_neg]
          | false =>
              simp [scanDeclaration_alone hopens]

/-!
# The whole scan
-/

/-- The lines on which the scan looks for the end of a group. -/
def outsideRaw (source : Text) (index : Nat) : Bool :=
  !rawBefore source index

theorem opensGroup_eq
    {source line : Text} {index : Nat} (hline : (Text.lines source)[index]? = some line) :
    opensGroup source index =
      (!(stateAt source index).inRaw && groupOpening.isPrefixOf (codeOf line)) := by
  rw [opensGroup, hline, stateAt_inRaw]
  rfl

theorem group_stateAt
    {source : Text} {index : Nat} (hindex : index ≤ (Text.lines source).length) :
    (stateAt source index).group =
      (openGroup? source (outsideRaw source) index).map
        fun first => nestingSince source first index - 1 := by
  induction index with
  | zero =>
      rfl
  | succ index ih =>
      have hline := List.getElem?_eq_getElem (Nat.lt_of_succ_le hindex)
      have hopened : (stateAt source index).group.or
            (if opensGroup source index then some (-1) else none) =
          ((openGroup? source (outsideRaw source) index).or
            (if opensGroup source index then some index else none)).map
              fun first => nestingSince source first index - 1 := by
        rw [ih (Nat.le_of_succ_le hindex)]
        cases openGroup? source (outsideRaw source) index with
        | some first =>
            rfl
        | none =>
            cases opensGroup source index with
            | true => simp [nestingSince_self]
            | false => rfl
      rw [stateAt_succ hline, scanDeclaration_group, ← opensGroup_eq hline, hopened,
        openGroup?, outsideRaw, Bool.not_not, stateAt_inRaw]
      -- the group that the line belongs to goes on or closes, as its nesting says
      cases (openGroup? source (outsideRaw source) index).or
          (if opensGroup source index then some index else none) with
      | none =>
          rfl
      | some first =>
          have hnesting := nestingSince_succ first hline
          have hsign : (0 ≤ nestingSince source first index - 1 +
                nestingChange (codeChars (rawBefore source index) (Text.lines source)[index])) ↔
              0 < nestingSince source first (index + 1) := by
            omega
          rw [Option.map_some, Option.map_some, Option.filter_some, Option.filter_some]
          simp only [hsign]
          split
          · have hdepth : nestingSince source first index - 1 +
                  nestingChange (codeChars (rawBefore source index)
                    (Text.lines source)[index]) =
                nestingSince source first (index + 1) - 1 := by
              omega
            exact congrArg some hdepth
          · rfl

theorem exists_declared_iff
    {source : Text} {index : Nat} {head : Text × SymbolKind} :
    (exists symbol, symbol ∈ typeDeclarations source ∧
        symbol.range.start.line = index ∧ (symbol.name, symbol.kind) = head) ↔
      exists line,
        (Text.lines source)[index]? = some line ∧
          (scanDeclaration (stateAt source index) line).1 = some head := by
  constructor
  · rintro ⟨symbol, hmem, hstart, hsame⟩
    rcases eq_of_mem_typeDeclarations hmem with ⟨line, hline, hhead⟩
    rw [hstart] at hline hhead
    exact ⟨line, hline, hhead.trans (congrArg some hsame)⟩
  · rintro ⟨line, hline, hhead⟩
    rcases exists_mem_declarationsFrom (packageName source) 0 hline hhead with
      ⟨symbol, hmem, hstart, hsame⟩
    exact ⟨symbol, hmem, hstart.trans (Nat.zero_add index), hsame⟩

/-- What the scan knows of the groups of a source, if they close on the `watched` lines. -/
structure TracksGroups (source : Text) (watched : Nat -> Bool) : Prop where
  depth : forall index, index ≤ (Text.lines source).length ->
    (stateAt source index).group =
      (openGroup? source watched index).map fun first => nestingSince source first index - 1
  declared : forall index head,
    (exists symbol, symbol ∈ typeDeclarations source ∧
        symbol.range.start.line = index ∧ (symbol.name, symbol.kind) = head) ↔
      Declares source watched index head

theorem opensGroup_eq_isPrefixOf
    {source line : Text} {index : Nat} (hline : (Text.lines source)[index]? = some line)
    (hraw : rawBefore source index = false) :
    opensGroup source index = groupOpening.isPrefixOf (codeOf line) := by
  rw [opensGroup_eq hline, stateAt_inRaw, hraw]
  rfl

theorem declares_iff
    {source : Text} {index : Nat} {head : Text × SymbolKind} :
    Declares source (outsideRaw source) index head ↔
      exists line,
        (Text.lines source)[index]? = some line ∧
          (scanDeclaration (stateAt source index) line).1 = some head := by
  constructor
  · rintro (⟨hline, hraw, houtside, hopens, hwords, hhead⟩ |
      ⟨hline, hraw, hinside, hdepth, hclosing, hhead⟩)
    · have hgroup := group_stateAt (List.getElem?_eq_some_iff.mp hline).1.le
      rw [houtside] at hgroup
      rw [opensGroup_eq_isPrefixOf hline hraw] at hopens
      refine ⟨_, hline, (scanDeclaration_head_of_none hgroup).mpr ⟨?_, hopens, _, hwords, hhead⟩⟩
      rw [stateAt_inRaw, hraw]
    · have hgroup := group_stateAt (List.getElem?_eq_some_iff.mp hline).1.le
      rw [hinside, Option.map_some, hdepth] at hgroup
      refine ⟨_, hline, (scanDeclaration_head_of_some hgroup).mpr ⟨?_, rfl, hclosing, hhead⟩⟩
      rw [stateAt_inRaw, hraw]
  · rintro ⟨line, hline, hhead⟩
    have hgroup := group_stateAt (List.getElem?_eq_some_iff.mp hline).1.le
    cases hopen : openGroup? source (outsideRaw source) index with
    | none =>
        rw [hopen] at hgroup
        rcases (scanDeclaration_head_of_none hgroup).mp hhead with
          ⟨hraw, hopens, words, hwords, hheadOf⟩
        rw [stateAt_inRaw] at hraw
        rw [← opensGroup_eq_isPrefixOf hline hraw] at hopens
        exact Declares.alone hline hraw hopen hopens hwords hheadOf
    | some first =>
        rw [hopen] at hgroup
        rcases (scanDeclaration_head_of_some hgroup).mp hhead with
          ⟨hraw, hdepth, hclosing, hheadOf⟩
        rw [stateAt_inRaw] at hraw
        exact Declares.member hline hraw hopen hdepth hclosing hheadOf

/-!
# Groups that end inside raw strings
-/

def EndsOutsideRaw (source : Text) : Prop :=
  forall index first, index < (Text.lines source).length ->
    rawBefore source index = true ->
      openGroup? source everyLine index = some first ->
        0 < nestingSince source first (index + 1)

theorem openGroup?_eq_of_endsOutsideRaw
    {source : Text} {index : Nat} (hends : EndsOutsideRaw source)
    (hindex : index ≤ (Text.lines source).length) :
    openGroup? source everyLine index =
      openGroup? source (outsideRaw source) index := by
  induction index with
  | zero =>
      rfl
  | succ index ih =>
      have hsame := ih (Nat.le_of_succ_le hindex)
      rw [openGroup?, openGroup?, ← hsame, outsideRaw]
      cases hraw : rawBefore source index with
      | false =>
          rfl
      | true =>
          -- such a line opens no group, and it does not end the one that is open
          have hopens : opensGroup source index = false := by
            rw [opensGroup, hraw]
            rfl
          rw [hopens]
          cases hopen : openGroup? source everyLine index with
          | none =>
              rfl
          | some first =>
              have hpositive := hends index first hindex hraw hopen
              simp [Option.filter_some, hpositive]

theorem Declares.of_eq
    {source : Text} {watched others : Nat -> Bool} {index : Nat} {head : Text × SymbolKind}
    (hdeclares : Declares source watched index head)
    (hsame : index ≤ (Text.lines source).length ->
      openGroup? source watched index = openGroup? source others index) :
    Declares source others index head := by
  cases hdeclares with
  | alone hline hraw houtside hopens hwords hhead =>
      rw [hsame (List.getElem?_eq_some_iff.mp hline).1.le] at houtside
      exact Declares.alone hline hraw houtside hopens hwords hhead
  | member hline hraw hinside hdepth hclosing hhead =>
      rw [hsame (List.getElem?_eq_some_iff.mp hline).1.le] at hinside
      exact Declares.member hline hraw hinside hdepth hclosing hhead

theorem TracksGroups.of_eq
    {source : Text} {watched others : Nat -> Bool} (htracks : TracksGroups source watched)
    (hsame : forall index, index ≤ (Text.lines source).length ->
      openGroup? source watched index = openGroup? source others index) :
    TracksGroups source others := by
  constructor
  · intro index hindex
    rw [← hsame index hindex]
    exact htracks.depth index hindex
  · intro index head
    rw [htracks.declared]
    constructor
    · intro hdeclares
      exact hdeclares.of_eq (hsame index)
    · intro hdeclares
      exact hdeclares.of_eq fun hindex => (hsame index hindex).symm

theorem TracksGroups.endsOutsideRaw
    {source : Text} (htracks : TracksGroups source everyLine) :
    EndsOutsideRaw source := by
  intro index first hindex hraw hopen
  have hline := List.getElem?_eq_getElem hindex
  -- the scan takes the group over such a line, whatever the nesting is
  have hgoes : ((stateAt source (index + 1)).group).isSome = true := by
    rw [stateAt_succ hline, scanDeclaration_group, stateAt_inRaw, hraw,
      htracks.depth index hindex.le, hopen]
    rfl
  rw [htracks.depth (index + 1) hindex, openGroup?, hopen] at hgoes
  simpa [everyLine, Option.filter_some] using hgoes

theorem nestingSince_pos_of_openGroup?
    {source : Text} {index first : Nat}
    (hopen : openGroup? source everyLine index = some first) :
    0 < nestingSince source first index := by
  cases index with
  | zero =>
      cases hopen
  | succ index =>
      simpa [everyLine] using (Option.filter_eq_some_iff.mp hopen).2

/--
The scan tracks groups that close on lines which begin outside raw strings.  It tracks the
groups of the source if and only if they all end there, and then its depth is not negative.
-/
theorem tracksGroups_outsideRaw (source : Text) :
    TracksGroups source (outsideRaw source) ∧
      (TracksGroups source everyLine ↔ EndsOutsideRaw source) ∧
      (EndsOutsideRaw source ->
        forall index depth, index ≤ (Text.lines source).length ->
          (stateAt source index).group = some depth -> 0 ≤ depth) := by
  have htracks : TracksGroups source (outsideRaw source) := by
    constructor
    · intro index hindex
      exact group_stateAt hindex
    · intro index head
      rw [exists_declared_iff, declares_iff]
  have hexact (hends : EndsOutsideRaw source) : TracksGroups source everyLine :=
    htracks.of_eq fun index hindex =>
      (openGroup?_eq_of_endsOutsideRaw hends hindex).symm
  refine ⟨htracks, ⟨TracksGroups.endsOutsideRaw, hexact⟩, ?_⟩
  intro hends index depth hindex hgroup
  rw [(hexact hends).depth index hindex] at hgroup
  rcases Option.map_eq_some_iff.mp hgroup with ⟨first, hopen, hdepth⟩
  have hpositive := nestingSince_pos_of_openGroup? hopen
  omega

/-- A group that ends behind the raw string of a tag, and a struct right after it. -/
def trailing : Text :=
  "type (\n\tNote struct \x7b\n\t\ttext string \x60a\nb\x60 \x7d)\n".toList ++
    "type Next struct\x7b\x7d\n".toList

/-- The group is over, but not for the scan, which passes over the struct. -/
theorem not_tracksGroups_trailing :
    openGroup? trailing everyLine 4 = none ∧
      (stateAt trailing 4).group = some (-1) ∧
      Declares trailing everyLine 4 ("Next", .struct) ∧
      (forall symbol, symbol ∈ typeDeclarations trailing -> symbol.range.start.line ≠ 4) ∧
      ¬ TracksGroups trailing everyLine := by
  have hclosed : openGroup? trailing everyLine 4 = none := by decide
  have hdepth : (stateAt trailing 4).group = some (-1) := by decide
  have hline : (Text.lines trailing)[4]? = some "type Next struct\x7b\x7d".toList := by decide
  have hwords : Text.words (codeOf "type Next struct\x7b\x7d") =
      "type".toList :: ["Next", "struct\x7b\x7d"] := by decide
  refine ⟨hclosed, hdepth, ?_, by decide, ?_⟩
  · exact Declares.alone hline (by decide) hclosed (by decide) hwords (by decide)
  · intro htracks
    have hgroup := htracks.depth 4 (by decide)
    rw [hclosed, hdepth] at hgroup
    cases hgroup

end Go
end StubAssist

import StubAssist.Proofs.Go.Ranges
import StubAssist.Proofs.QuickFix.DeclaredStructs
import StubAssist.Proofs.Text.Numbers
import StubAssist.Report

/-!
# Line numbers

The number of a line is counted up twice on its way from a declaration to the reader:
stubs go on the line after the last one of their struct, and the report counts from one.
A source has fewer lines than bytes, so neither step goes past what a word holds.
-/

namespace StubAssist

def shownPlace (line : Nat) (isDryRun : Bool) : Text :=
  if isDryRun then " was not written (stubs go at line " ++ Text.ofNat line ++ ")"
  else ":" ++ Text.ofNat line

/-- The line of an insertion for a struct, as it is computed and as it is shown. -/
structure NumbersInsertion (buffer : SourceBuffer) (name : Text) (insertion : Insertion) :
    Prop where
  afterFirst : 1 ≤ insertion.line
  upToEnd : insertion.line ≤ (Text.lines buffer.content).length
  applied : exists target,
    buffer.declarations.find? (·.name == name) = some target ∧
      Text.nextWord? target.range.stop.line = some insertion.line
  reported : exists shown,
    Text.nextWord? insertion.line = some shown ∧
      forall (file : Text) (isDryRun : Bool),
        exists before,
          (Report.implement file name insertion isDryRun).getLast? =
            some (.preformatted (before ++ shownPlace shown isDryRun))

/-- The line numbers of the symbols in a buffer, and of what is inserted after them. -/
structure NumbersLines (buffer : SourceBuffer) : Prop where
  ordered : buffer.declarations.Pairwise fun earlier later =>
    earlier.range.start.line < later.range.start.line
  placed : forall symbol, symbol ∈ buffer.declarations ->
    Go.IsPlaced buffer.content symbol
  inserted : forall name generated insertion after,
    Insertion.apply buffer name generated = (.ok insertion, after) ->
      NumbersInsertion buffer name insertion

theorem getLast?_implement
    (file name : Text) (insertion : Insertion) (isDryRun : Bool) :
    exists before,
      (Report.implement file name insertion isDryRun).getLast? =
        some (.preformatted (before ++ shownPlace (insertion.line + 1) isDryRun)) := by
  unfold Report.implement
  rw [List.getLast?_append, List.getLast?_singleton, Option.some_or]
  cases isDryRun with
  | true =>
      refine ⟨"Dry run: " ++ file, ?_⟩
      simp [shownPlace]
  | false =>
      refine ⟨"✓ Inserted stubs at " ++ file, ?_⟩
      simp [shownPlace]

theorem numbersLines_of_byteSize_lt
    {buffer : SourceBuffer} (hsize : Text.byteSize buffer.content < Text.sizeLimit) :
    NumbersLines buffer := by
  have hplaced : forall symbol, symbol ∈ buffer.declarations ->
      Go.IsPlaced buffer.content symbol :=
    fun symbol hmem => Go.isPlaced_of_mem hmem
  constructor
  · exact Go.pairwise_declarationsFrom _ _ _ _
  · exact hplaced
  · intro name generated insertion after happly
    rcases SourceBuffer.exists_target_of_apply happly with ⟨target, hfirst, rfl⟩
    have hbounded := (hplaced target (List.mem_of_find?_eq_some hfirst)).bounded
    have hlines := Text.length_lines_le_byteSize buffer.content
    have hlimits : Text.wordLimit = 2 * Text.sizeLimit := rfl
    have happlied : target.range.stop.line + 1 < Text.wordLimit := by
      omega
    have hshown : target.range.stop.line + 1 + 1 < Text.wordLimit := by
      omega
    constructor
    · exact Nat.le_add_left 1 _
    · exact hbounded
    · exact ⟨target, hfirst, Text.nextWord?_of_lt happlied⟩
    · exact ⟨_, Text.nextWord?_of_lt hshown, fun file isDryRun =>
        getLast?_implement file name _ isDryRun⟩

def unclosed : SourceBuffer :=
  ⟨"foo.go", "package p\n\ntype Server struct \x7b\n\taddr string"⟩

theorem numbersLines_unclosed :
    Text.byteSize unclosed.content < Text.sizeLimit ∧
      NumbersLines unclosed ∧
      exists after,
        Insertion.apply unclosed "Server" [] = (.ok ⟨4, ['\n']⟩, after) ∧
          NumbersInsertion unclosed "Server" ⟨4, ['\n']⟩ := by
  have hsize : Text.byteSize unclosed.content < Text.sizeLimit := by decide
  have hnumbers := numbersLines_of_byteSize_lt hsize
  have hfirst : unclosed.declarations.find? (·.name == "Server".toList) =
      some ⟨"Server", .struct, .ofLines 2 3, some "p".toList⟩ := by
    decide
  have happly := SourceBuffer.apply_of_find? [] hfirst
  exact ⟨hsize, hnumbers, _, happly, hnumbers.inserted _ _ _ _ happly⟩

end StubAssist

import StubAssist.Proofs.Go.Endings
import StubAssist.Proofs.QuickFix.DeclaredStructs
import StubAssist.Proofs.Text.Splices

/-!
# Lines that survive stubs

Stubs are spliced in as they come.  If they consist of whole lines, or nothing follows
them, all lines of the source stay as they were, with the stubs as one block between
them.  Stubs whose last line lacks its line feed run into the line after their struct;
that line goes on behind them, and all others stay.
-/

namespace StubAssist
namespace SourceBuffer

/-- The lines of a buffer with stubs after `target`, from the lines that it had before. -/
structure LinesSurvive (buffer after : SourceBuffer) (target : Symbol) (generated : Text) :
    Prop where
  apart :
    Text.isWhole generated = true ∨
        target.range.stop.line + 1 = (Text.lines buffer.content).length ->
      Text.lines after.content =
        (Text.lines buffer.content).take (target.range.stop.line + 1) ++
          (Text.lines ('\n' :: generated) ++
            (Text.lines buffer.content).drop (target.range.stop.line + 1))
  joined :
    Text.isWhole generated = false ->
      target.range.stop.line + 1 ≠ (Text.lines buffer.content).length ->
        exists front last next line,
          generated = front ++ last ∧ Text.isWhole front = true ∧ last ≠ [] ∧
          '\n' ∉ last ∧
          (Text.lines buffer.content)[target.range.stop.line + 1]? = some next ∧
          (line = last ++ next ∨ next = [] ∧ last = line ++ ['\r']) ∧
          Text.lines after.content =
            (Text.lines buffer.content).take (target.range.stop.line + 1) ++
              (Text.lines ('\n' :: front) ++ line ::
                (Text.lines buffer.content).drop (target.range.stop.line + 2))

theorem linesSurvive_of_mem
    {buffer : SourceBuffer} {target : Symbol} (generated : Text)
    (hlast : buffer.content.getLast? ≠ some '\r') (hmem : target ∈ buffer.declarations) :
    buffer.LinesSurvive
      (buffer.insertAtLine (target.range.stop.line + 1) ('\n' :: generated)) target
      generated := by
  have hstop : target.range.stop.line + 1 ≤ (Text.lines buffer.content).length :=
    Nat.succ_le_of_lt (Go.stop_lt_length_of_mem_typeDeclarations hmem)
  rcases Text.exists_lines_insertAtLine hlast hstop with ⟨rest, hrest, hinsert⟩
  constructor
  · intro hapart
    show Text.lines (Text.insertAtLine buffer.content _ _) = _
    rw [hinsert, ← hrest]
    rcases hapart with hwhole | hend
    · rw [Text.lines_append rest (Text.isWhole_cons_newline.trans hwhole)]
    · have hnil : rest = [] := by
        rw [hend, List.drop_length] at hrest
        by_contra hne
        have hpos := Text.length_lines_pos hne
        rw [hrest] at hpos
        exact Nat.lt_irrefl 0 hpos
      rw [hnil, List.append_nil]
      exact congrArg _ (List.append_nil _).symm
  · intro hpart hmore
    have hlt := Nat.lt_of_le_of_ne hstop hmore
    rcases Text.exists_lastLine hpart with ⟨front, last, hsplit, hfront, hne, hnone⟩
    rw [List.drop_eq_getElem_cons hlt] at hrest
    rcases Text.exists_lines_append_of_not_mem hnone hrest with ⟨line, hline, hjoined⟩
    refine ⟨front, last, _, line, hsplit, hfront, hne, hnone,
      List.getElem?_eq_getElem hlt, hjoined, ?_⟩
    show Text.lines (Text.insertAtLine buffer.content _ _) = _
    rw [hinsert, hsplit, List.cons_append, List.append_assoc, ← List.cons_append,
      Text.lines_append _ (Text.isWhole_cons_newline.trans hfront), hline]

def crossing : SourceBuffer :=
  ⟨"foo.go", "type Foo struct\x7b\x7d\nvar x int\n"⟩

theorem find?_crossing :
    crossing.declarations.find? (·.name == "Foo".toList) =
      some ⟨"Foo", .struct, .ofLines 0 0, none⟩ := by decide

/-- The lines of the buffer stay whole and in order around one block of new lines. -/
def KeepsLines (buffer : SourceBuffer) (name generated : Text) : Prop :=
  forall insertion after,
    Insertion.apply buffer name generated = (.ok insertion, after) ->
      exists block,
        Text.lines after.content =
          (Text.lines buffer.content).take insertion.line ++
            (block ++ (Text.lines buffer.content).drop insertion.line)

end SourceBuffer
end StubAssist

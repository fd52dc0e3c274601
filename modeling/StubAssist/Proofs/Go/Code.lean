import StubAssist.Proofs.Go.Declarations
import StubAssist.Proofs.Text.Lines

/-!
# The code of a source

The code characters of several lines, read one after the other.  The raw string flag
is all that one line hands on to the next, so code may be cut between any two lines,
and inside a line right after a code character.  A carriage return at the end of a line
is as good as none.
-/

namespace StubAssist
namespace Go

/-!
# Several lines
-/

/-- The code characters of lines, the first of which may begin inside a raw string. -/
def codeOfLines (inRaw : Bool) : List Text -> List Char
  | [] => []
  | line :: lines => codeChars inRaw line ++ codeOfLines (rawAfter inRaw line) lines

def rawAfterLines (inRaw : Bool) (lines : List Text) : Bool :=
  lines.foldl rawAfter inRaw

theorem codeOfLines_append (inRaw : Bool) (lines more : List Text) :
    codeOfLines inRaw (lines ++ more) =
      codeOfLines inRaw lines ++ codeOfLines (rawAfterLines inRaw lines) more := by
  induction lines generalizing inRaw with
  | nil =>
      rfl
  | cons line rest ih =>
      show codeChars inRaw line ++ codeOfLines (rawAfter inRaw line) (rest ++ more) = _
      rw [ih, ← List.append_assoc]
      rfl

theorem rawAfterLines_append (inRaw : Bool) (lines more : List Text) :
    rawAfterLines inRaw (lines ++ more) =
      rawAfterLines (rawAfterLines inRaw lines) more :=
  List.foldl_append

theorem nestingChange_append (code more : List Char) :
    nestingChange (code ++ more) = nestingChange code + nestingChange more := by
  induction code with
  | nil =>
      exact (Int.zero_add _).symm
  | cons c code ih =>
      show nestingOf c + nestingChange (code ++ more) = _
      rw [ih, ← Int.add_assoc]
      rfl

theorem scanDeclaration_inRaw (state : ScanState) (line : Text) :
    (scanDeclaration state line).2.inRaw = rawAfter state.inRaw line := by
  unfold scanDeclaration
  dsimp only
  split
  · rfl
  · split
    · rfl
    · split
      · rfl
      · split <;> rfl

theorem inRaw_eq_false_of_scanDeclaration
    {state : ScanState} {line : Text} {head : Text × SymbolKind}
    (hhead : (scanDeclaration state line).1 = some head) :
    state.inRaw = false := by
  cases hraw : state.inRaw with
  | false =>
      rfl
  | true =>
      simp [scanDeclaration, hraw] at hhead

theorem stateAfter_inRaw (state : ScanState) (lines : List Text) :
    (stateAfter state lines).inRaw = rawAfterLines state.inRaw lines := by
  induction lines generalizing state with
  | nil =>
      rfl
  | cons line rest ih =>
      show (stateAfter (scanDeclaration state line).2 rest).inRaw = _
      rw [ih, scanDeclaration_inRaw]
      rfl

/-!
# Inside a line
-/

theorem exists_rest_of_scanLine
    {mode : Mode} {line : Text} {before after : List Char} {c : Char}
    (hcode : (scanLine mode line).1 = before ++ c :: after) :
    exists front rest,
      line = front ++ c :: rest ∧
        scanLine .code rest = (after, (scanLine mode line).2) := by
  fun_induction scanLine mode line generalizing before with
  | case1 mode => simp at hcode
  | case2 first line ih =>
      rcases ih hcode with ⟨front, rest, hsplit, hrest⟩
      exact ⟨first :: front, rest, by rw [hsplit]; rfl, hrest⟩
  | case3 quote => simp at hcode
  | case4 quote hidden line ih =>
      rcases ih hcode with ⟨front, rest, hsplit, hrest⟩
      exact ⟨'\\' :: hidden :: front, rest, by rw [hsplit]; rfl, hrest⟩
  | case5 quote first line _ _ ih =>
      rcases ih hcode with ⟨front, rest, hsplit, hrest⟩
      exact ⟨first :: front, rest, by rw [hsplit]; rfl, hrest⟩
  | case6 line => simp at hcode
  | case7 line _ ih =>
      rcases ih hcode with ⟨front, rest, hsplit, hrest⟩
      exact ⟨'\x60' :: front, rest, by rw [hsplit]; rfl, hrest⟩
  | case8 first line _ _ _ ih =>
      rcases ih hcode with ⟨front, rest, hsplit, hrest⟩
      exact ⟨first :: front, rest, by rw [hsplit]; rfl, hrest⟩
  | case9 first line _ _ _ code inRaw hline ih =>
      cases before with
      | nil =>
          cases hcode
          exact ⟨[], line, rfl, hline⟩
      | cons first' before =>
          cases hcode
          rw [hline] at ih
          rcases ih rfl with ⟨front, rest, hsplit, hrest⟩
          exact ⟨first :: front, rest, by rw [hsplit]; rfl, hrest⟩

/-!
# Carriage returns
-/

theorem scanLine_quoted_cons
    {quote c : Char} (rest : Text) (hc : c ≠ '\\') :
    scanLine (.quoted quote) (c :: rest) =
      scanLine (if c = quote then .code else .quoted quote) rest := by
  rw [scanLine]
  · intro hbackslash
    exact absurd hbackslash hc
  · intro hidden more hbackslash
    exact absurd hbackslash hc

theorem scanLine_code_cons
    {c : Char} {rest : Text} (hcode : forall more, c = '/' -> rest ≠ '/' :: more) :
    scanLine .code (c :: rest) =
      if c = '\x60' then scanLine .raw rest
      else if c = '"' || c = '\'' then scanLine (.quoted c) rest
      else (c :: (scanLine .code rest).1, (scanLine .code rest).2) := by
  rw [scanLine]
  intro more hc hrest
  exact hcode more hc hrest

theorem scanLine_append_return (mode : Mode) (line : Text) :
    exists more,
      (more = [] ∨ more = ['\r']) ∧
        scanLine mode (line ++ ['\r']) =
          ((scanLine mode line).1 ++ more, (scanLine mode line).2) := by
  fun_induction scanLine mode line with
  | case1 mode =>
      cases mode with
      | code =>
          exact ⟨['\r'], Or.inr rfl, rfl⟩
      | raw =>
          exact ⟨[], Or.inl rfl, rfl⟩
      | quoted quote =>
          refine ⟨[], Or.inl rfl, ?_⟩
          rw [List.nil_append, scanLine_quoted_cons [] (by decide)]
          split <;> rfl
  | case2 first line ih =>
      exact ih
  | case3 quote =>
      exact ⟨[], Or.inl rfl, rfl⟩
  | case4 quote hidden line ih =>
      exact ih
  | case5 quote first line hlast hhiding ih =>
      have hfirst : first ≠ '\\' := by
        intro hbackslash
        cases line with
        | nil => exact hlast hbackslash rfl
        | cons hidden more => exact hhiding hidden more hbackslash rfl
      rw [List.cons_append, scanLine_quoted_cons _ hfirst]
      exact ih
  | case6 line =>
      exact ⟨[], Or.inl rfl, rfl⟩
  | case7 line hcode ih =>
      exact ih
  | case8 first line hcode hraw hquote ih =>
      rw [List.cons_append, scanLine_code_cons, if_neg hraw, if_pos hquote]
      · exact ih
      · intro more hslash
        rw [hslash] at hquote
        cases hquote
  | case9 first line hcode hraw hquote code inRaw hline ih =>
      rw [hline] at ih
      rcases ih with ⟨more, hmore, hreturn⟩
      refine ⟨more, hmore, ?_⟩
      rw [List.cons_append, scanLine_code_cons, if_neg hraw, if_neg hquote, hreturn]
      · rfl
      · intro rest hslash hrest
        -- a slash at the end of the line has the return behind it, and opens no comment
        cases line with
        | nil =>
            cases hrest
        | cons second line =>
            cases hrest
            exact hcode line hslash rfl

theorem codeChars_append_return (inRaw : Bool) (line : Text) :
    codeChars inRaw (line ++ ['\r']) = codeChars inRaw line ∨
      codeChars inRaw (line ++ ['\r']) = codeChars inRaw line ++ ['\r'] := by
  rcases scanLine_append_return (.atLineStart inRaw) line with ⟨more, hmore, hreturn⟩
  unfold codeChars
  rw [hreturn]
  rcases hmore with hmore | hmore
  · exact Or.inl (by rw [hmore, List.append_nil])
  · exact Or.inr (by rw [hmore])

theorem rawAfter_append_return (inRaw : Bool) (line : Text) :
    rawAfter inRaw (line ++ ['\r']) = rawAfter inRaw line := by
  rcases scanLine_append_return (.atLineStart inRaw) line with ⟨more, _, hreturn⟩
  unfold rawAfter
  rw [hreturn]

theorem nestingChange_append_return (inRaw : Bool) (line : Text) :
    nestingChange (codeChars inRaw (line ++ ['\r'])) =
      nestingChange (codeChars inRaw line) := by
  rcases codeChars_append_return inRaw line with hcode | hcode
  · rw [hcode]
  · rw [hcode, nestingChange_append]
    exact Int.add_zero _

theorem stripLineComment_append_return (line : Text) :
    stripLineComment (line ++ ['\r']) = stripLineComment line ∨
      stripLineComment (line ++ ['\r']) = stripLineComment line ++ ['\r'] := by
  fun_induction stripLineComment line with
  | case1 =>
      exact Or.inr rfl
  | case2 rest =>
      exact Or.inl rfl
  | case3 c rest hcomment ih =>
      have hcons : stripLineComment (c :: (rest ++ ['\r'])) =
          c :: stripLineComment (rest ++ ['\r']) := by
        rw [stripLineComment]
        intro more hslash hrest
        cases rest with
        | nil =>
            cases hrest
        | cons second rest =>
            cases hrest
            exact hcomment rest hslash rfl
      rw [List.cons_append, hcons]
      rcases ih with hsame | hreturn
      · exact Or.inl (by rw [hsame])
      · exact Or.inr (by rw [hreturn]; rfl)

theorem codeOf_append_return (line : Text) :
    codeOf (line ++ ['\r']) = codeOf line := by
  unfold codeOf
  rcases stripLineComment_append_return line with hstrip | hstrip
  · rw [hstrip]
  · rw [hstrip, Text.trim_append_of_isBlank _ (by decide)]

theorem packageOfLine_append_return (line : Text) :
    packageOfLine (line ++ ['\r']) = packageOfLine line := by
  have hwords : Text.words (stripLineComment (line ++ ['\r'])) =
      Text.words (stripLineComment line) := by
    rcases stripLineComment_append_return line with hstrip | hstrip
    · rw [hstrip]
    · rw [hstrip, Text.words_append_of_isBlank _ (by decide)]
  unfold packageOfLine
  rw [hwords]

theorem scanDeclaration_append_return (state : ScanState) (line : Text) :
    scanDeclaration state (line ++ ['\r']) = scanDeclaration state line := by
  have hcode := codeOf_append_return line
  unfold codeOf at hcode
  unfold scanDeclaration
  rw [nestingChange_append_return, rawAfter_append_return, hcode]

end Go
end StubAssist

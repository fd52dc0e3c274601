import StubAssist.Proofs.Go.Brackets

/-!
# Bodies

The reading that looks for the end of a declaration stops at the brace that closes the
first one it meets, on a line that opens none, or nowhere.  In a source whose brackets
balance it stops unless a raw string is left open, and what it has read as a body is in
balance by itself: the nesting after the declaration is the nesting before it and what
its lines add around their body.
-/

namespace StubAssist
namespace Go

/-!
# Found ends
-/

theorem exists_cut_of_closed
    {braces : Braces} {inRaw : Bool} {lines : List Text} {offset : Nat}
    (hending : endingOf braces inRaw lines = .closed offset) :
    exists last next,
      lines[offset]? = some last ∧
      readBraces braces (codeOfLines inRaw (lines.take offset)) = (next, false) ∧
      (readBraces next
        (codeChars (rawAfterLines inRaw (lines.take offset)) last)).2 = true := by
  induction lines generalizing braces inRaw offset with
  | nil =>
      cases hending
  | cons line rest ih =>
      rcases endingOf_cons braces inRaw line rest with
        ⟨hclosed, hhere⟩ | ⟨_, hbodiless⟩ | ⟨mid, hline, _, hlater⟩
      · rw [hhere] at hending
        cases hending
        exact ⟨line, braces, rfl, rfl, hclosed⟩
      · rw [hbodiless] at hending
        cases hending
      · rw [hlater] at hending
        rcases Ending.after_eq_closed_iff.mp hending with ⟨earlier, hrest, hoffset⟩
        rcases ih hrest with ⟨last, next, hlast, hread, hclosed⟩
        rw [hoffset, Nat.add_comm]
        exact ⟨last, next, hlast, (readBraces_append_of_open _ hline).trans hread, hclosed⟩

theorem endingOf_ne_bodiless_of_opened
    {braces : Braces} (inRaw : Bool) (lines : List Text) (hopened : braces.opened = true) :
    endingOf braces inRaw lines ≠ .bodiless := by
  induction lines generalizing braces inRaw with
  | nil =>
      intro hending
      cases hending
  | cons line rest ih =>
      have hnext := readBraces_opened (codeChars inRaw line) hopened
      rcases endingOf_cons braces inRaw line rest with
        ⟨_, hhere⟩ | ⟨hclosed, _⟩ | ⟨next, hline, _, hlater⟩
      · rw [hhere]
        intro hending
        cases hending
      · rw [hnext] at hclosed
        cases hclosed
      · rw [hline] at hnext
        rw [hlater]
        intro hending
        exact ih _ hnext (Ending.after_eq_bodiless_iff.mp hending)

theorem not_mem_of_bodiless
    {inRaw : Bool} {line : Text} {rest : List Text}
    (hending : endingOf .none inRaw (line :: rest) = .bodiless) :
    '{' ∉ codeChars inRaw line := by
  rcases readBraces_none (codeChars inRaw line) with
    ⟨hnone, _⟩ | ⟨head, inside, _, _, hread⟩
  · exact hnone
  · have hopened : (readBraces .none (codeChars inRaw line)).1.opened = true := by
      rw [hread]
      exact readBraces_opened inside rfl
    rcases endingOf_cons .none inRaw line rest with
      ⟨_, hhere⟩ | ⟨hclosed, _⟩ | ⟨next, hline, _, hlater⟩
    · rw [hhere] at hending
      cases hending
    · rw [hopened] at hclosed
      cases hclosed
    · rw [hline] at hopened
      rw [hlater, Ending.after_eq_bodiless_iff] at hending
      exact absurd hending (endingOf_ne_bodiless_of_opened _ rest hopened)

/-!
# Bodies of declarations
-/

/-- The first brace in the code of the lines closes on the last of them, before `rest`. -/
structure HasBody (lines : List Text) (head inside tail : List Char) (rest : Text) :
    Prop where
  code : codeOfLines false lines = head ++ '{' :: (inside ++ '}' :: tail)
  first : '{' ∉ head
  braces : BracesBalance inside
  closing : exists front, lines.getLast? = some (front ++ '}' :: rest)
  tail : codeChars false rest = tail
  raw : rawAfterLines false lines = rawAfter false rest

theorem exists_body_of_readBraces
    {code : List Char} {next : Braces} (hread : readBraces .none code = (next, false))
    (hclosing : next.ascend.areClosed = true) :
    exists head inside,
      code = head ++ '{' :: inside ∧ '{' ∉ head ∧ BracesBalance inside := by
  rcases readBraces_none code with ⟨_, hnone⟩ | ⟨head, inside, hcode, hfirst, hinside⟩
  · rw [hnone] at hread
    cases hread
    cases hclosing
  · rw [hinside] at hread
    have hwithin := staysWithin_of_readBraces hread
    rw [readBraces_of_staysWithin hwithin] at hread
    cases hread
    have hle := hwithin inside List.prefix_rfl
    have hdepth : 0 + inside.count '{' - inside.count '}' = 0 := by
      simpa [Braces.ascend, Braces.areClosed] using hclosing
    exact ⟨head, inside, hcode, hfirst, by omega, hwithin⟩

theorem exists_hasBody_of_closed
    {lines : List Text} {offset : Nat}
    (hending : endingOf .none false lines = .closed offset) :
    exists head inside tail rest,
      HasBody (lines.take (offset + 1)) head inside tail rest := by
  rcases exists_cut_of_closed hending with ⟨last, next, hlast, hread, hclosed⟩
  rcases exists_closing hclosed with ⟨body, tail, final, hcode, hbody, hclosing⟩
  have hreads := (readBraces_append_of_open body hread).trans hbody
  rcases exists_body_of_readBraces hreads hclosing with
    ⟨head, inside, hsplit, hfirst, hbraces⟩
  rcases exists_rest_of_scanLine hcode with ⟨front, rest, hline, hrest⟩
  have htake : lines.take (offset + 1) = lines.take offset ++ [last] := by
    rw [List.take_add_one, hlast]
    rfl
  refine ⟨head, inside, tail, rest, ?_, hfirst, hbraces, ⟨front, ?_⟩, ?_, ?_⟩
  · show codeOfLines false (lines.take (offset + 1)) = _
    rw [htake, codeOfLines_append]
    show _ ++ (codeChars _ last ++ []) = _
    rw [List.append_nil, hcode, ← List.append_assoc, hsplit, List.append_assoc]
    rfl
  · rw [htake, List.getLast?_concat, hline]
  · exact congrArg Prod.fst hrest
  · rw [htake, rawAfterLines_append]
    exact (congrArg Prod.snd hrest).symm

theorem HasBody.balanced_inside
    {lines : List Text} {head inside tail before more : List Char} {rest : Text}
    (hbody : HasBody lines head inside tail rest)
    (hbalanced : Balanced (before ++ (codeOfLines false lines ++ more))) :
    Balanced inside := by
  have hcode : before ++ (codeOfLines false lines ++ more) =
      (before ++ head) ++ '{' :: (inside ++ '}' :: (tail ++ more)) := by
    rw [hbody.code]
    simp only [List.append_assoc, List.cons_append]
  rw [hcode] at hbalanced
  exact Go.balanced_inside hbalanced hbody.braces

theorem HasBody.nestingChange_code
    {lines : List Text} {head inside tail : List Char} {rest : Text}
    (hbody : HasBody lines head inside tail rest) (hinside : Balanced inside) :
    nestingChange (codeOfLines false lines) = nestingChange head + nestingChange tail := by
  have hzero := nestingChange_of_balanced hinside
  rw [hbody.code, nestingChange_append]
  show _ + (1 + nestingChange (inside ++ '}' :: tail)) = _
  rw [nestingChange_append]
  show _ + (1 + (_ + (-1 + _))) = _
  omega

theorem hidden_of_unfinished
    {lines : List Text} {before : List Char} {next : Braces} {inRaw : Bool}
    (hbalanced : Balanced (before ++ codeOfLines false lines)) (hlines : lines ≠ [])
    (hending : endingOf .none false lines = .unfinished next inRaw) :
    '{' ∉ codeOfLines false lines ∧ rawAfterLines false lines = true := by
  rcases reads_of_unfinished hending with ⟨hread, hraw, hgoes⟩
  rcases readBraces_none (codeOfLines false lines) with
    ⟨hnone, hnothing⟩ | ⟨head, inside, hcode, _, hinside⟩
  · rw [hnothing] at hread
    cases hread
    rcases hgoes hlines with hopened | hopen
    · cases hopened
    · exact ⟨hnone, hraw ▸ hopen⟩
  · rw [hinside] at hread
    rw [hcode, ← List.append_assoc] at hbalanced
    exact absurd hbalanced
      (not_balanced_of_staysWithin (staysWithin_of_readBraces hread))

/-!
# Nesting around declarations
-/

/-- Opened minus closed braces and parentheses before a line. -/
def nestingBefore (source : Text) (index : Nat) : Int :=
  nestingChange (codeOfLines false ((Text.lines source).take index))

/-- Whether a raw string is open at the start of a line. -/
def rawBefore (source : Text) (index : Nat) : Bool :=
  rawAfterLines false ((Text.lines source).take index)

def linesOf (source : Text) (symbol : Symbol) : List Text :=
  ((Text.lines source).drop symbol.range.start.line).take
    (symbol.range.stop.line - symbol.range.start.line + 1)

/-- What comes before the line after a declaration, by how the declaration ends. -/
inductive Landing (source : Text) (symbol : Symbol) : Prop
  | afterBody {head inside tail : List Char} {rest : Text}
      (hbody : HasBody (linesOf source symbol) head inside tail rest)
      (hinside : Balanced inside)
      (hnesting : nestingBefore source (symbol.range.stop.line + 1) =
        nestingBefore source symbol.range.start.line + nestingChange head +
          nestingChange tail)
      (hraw : rawBefore source (symbol.range.stop.line + 1) = rawAfter false rest)
  | afterLine {line : Text}
      (hline : linesOf source symbol = [line])
      (hnone : '{' ∉ codeChars false line)
      (hnesting : nestingBefore source (symbol.range.stop.line + 1) =
        nestingBefore source symbol.range.start.line + nestingChange (codeChars false line))
      (hraw : rawBefore source (symbol.range.stop.line + 1) = rawAfter false line)
  | atEnd
      (hnone : '{' ∉ codeOfLines false (linesOf source symbol))
      (hstop : symbol.range.stop.line + 1 = (Text.lines source).length)
      (hnesting : nestingBefore source (symbol.range.stop.line + 1) = 0)
      (hraw : rawBefore source (symbol.range.stop.line + 1) = true)

theorem take_stop_eq
    {source : Text} {symbol : Symbol}
    (hle : symbol.range.start.line ≤ symbol.range.stop.line) :
    (Text.lines source).take (symbol.range.stop.line + 1) =
      (Text.lines source).take symbol.range.start.line ++ linesOf source symbol := by
  have hsum : symbol.range.stop.line + 1 =
      symbol.range.start.line + (symbol.range.stop.line - symbol.range.start.line + 1) := by
    omega
  rw [linesOf, ← List.take_add, ← hsum]

theorem before_stop
    {source : Text} {symbol : Symbol}
    (hle : symbol.range.start.line ≤ symbol.range.stop.line)
    (hraw : rawBefore source symbol.range.start.line = false) :
    nestingBefore source (symbol.range.stop.line + 1) =
        nestingBefore source symbol.range.start.line +
          nestingChange (codeOfLines false (linesOf source symbol)) ∧
      rawBefore source (symbol.range.stop.line + 1) =
        rawAfterLines false (linesOf source symbol) := by
  unfold rawBefore at hraw
  unfold nestingBefore rawBefore
  rw [take_stop_eq hle, codeOfLines_append, rawAfterLines_append, hraw,
    nestingChange_append]
  exact ⟨rfl, rfl⟩

theorem ends_of_mem
    {source : Text} {symbol : Symbol} (hmem : symbol ∈ typeDeclarations source) :
    exists line rest,
      (Text.lines source).drop symbol.range.start.line = line :: rest ∧
      rawBefore source symbol.range.start.line = false ∧
      symbol.range.stop.line = symbol.range.start.line +
        (endingOf .none false (line :: rest)).lastLine (line :: rest).length := by
  rcases eq_of_mem_declarationsFrom hmem with ⟨offset, line, hline, hhead, hrange⟩
  have hraw := inRaw_eq_false_of_scanDeclaration hhead
  rw [stateAfter_inRaw] at hraw
  have hdrop : (Text.lines source).drop offset =
      line :: (Text.lines source).drop (offset + 1) := by
    rcases List.getElem?_eq_some_iff.mp hline with ⟨hoffset, hget⟩
    rw [← hget]
    exact List.drop_eq_getElem_cons hoffset
  rw [hrange, hdrop, linesToClose_eq, Nat.zero_add]
  exact ⟨line, _, hdrop, hraw, rfl⟩

theorem linesOf_eq
    (source : Text) {symbol : Symbol} {count : Nat}
    (hstop : symbol.range.stop.line = symbol.range.start.line + count) :
    linesOf source symbol =
      ((Text.lines source).drop symbol.range.start.line).take (count + 1) := by
  rw [linesOf, hstop, Nat.add_sub_cancel_left]

theorem code_of_source
    {source : Text} {index : Nat} {lines : List Text}
    (hraw : rawBefore source index = false)
    (hdrop : (Text.lines source).drop index = lines) :
    codeOfLines false (Text.lines source) =
      codeOfLines false ((Text.lines source).take index) ++ codeOfLines false lines := by
  have hsplit := codeOfLines_append false ((Text.lines source).take index) lines
  rw [← hdrop, List.take_append_drop] at hsplit
  unfold rawBefore at hraw
  rw [hsplit, hraw, hdrop]

theorem landing_of_closed
    {source : Text} {symbol : Symbol} {lines : List Text} {before : List Char}
    {offset : Nat} (hbalanced : Balanced (before ++ codeOfLines false lines))
    (hlines : linesOf source symbol = lines.take (offset + 1))
    (hle : symbol.range.start.line ≤ symbol.range.stop.line)
    (hraw : rawBefore source symbol.range.start.line = false)
    (hending : endingOf .none false lines = .closed offset) :
    Landing source symbol := by
  rcases exists_hasBody_of_closed hending with ⟨head, inside, tail, rest, hbody⟩
  rcases before_stop hle hraw with ⟨hnesting, hrawStop⟩
  have hinside : Balanced inside := by
    rw [← List.take_append_drop (offset + 1) lines, codeOfLines_append] at hbalanced
    exact hbody.balanced_inside hbalanced
  rw [← hlines] at hbody
  rw [hbody.nestingChange_code hinside, ← Int.add_assoc] at hnesting
  rw [hbody.raw] at hrawStop
  exact Landing.afterBody hbody hinside hnesting hrawStop

theorem landing_of_bodiless
    {source : Text} {symbol : Symbol} {line : Text} {rest : List Text}
    (hlines : linesOf source symbol = [line])
    (hle : symbol.range.start.line ≤ symbol.range.stop.line)
    (hraw : rawBefore source symbol.range.start.line = false)
    (hending : endingOf .none false (line :: rest) = .bodiless) :
    Landing source symbol := by
  rcases before_stop hle hraw with ⟨hnesting, hrawStop⟩
  have hcode : codeOfLines false [line] = codeChars false line :=
    List.append_nil _
  rw [hlines, hcode] at hnesting
  rw [hlines] at hrawStop
  exact Landing.afterLine hlines (not_mem_of_bodiless hending) hnesting hrawStop

theorem landing_of_mem
    {source : Text} {symbol : Symbol}
    (hbalanced : Balanced (codeOfLines false (Text.lines source)))
    (hmem : symbol ∈ typeDeclarations source) :
    Landing source symbol := by
  rcases ends_of_mem hmem with ⟨line, rest, hdrop, hraw, hstop⟩
  have hle : symbol.range.start.line ≤ symbol.range.stop.line :=
    Nat.le.intro hstop.symm
  have hlines := linesOf_eq source hstop
  have hcode := code_of_source hraw hdrop
  rw [hdrop] at hlines
  rw [hcode] at hbalanced
  cases hending : endingOf .none false (line :: rest) with
  | closed offset =>
      rw [hending] at hlines
      exact landing_of_closed hbalanced hlines hle hraw hending
  | bodiless =>
      rw [hending] at hlines
      exact landing_of_bodiless hlines hle hraw hending
  | unfinished next inRaw =>
      -- a raw string hides the rest, so the last line of the source ends the declaration
      rcases hidden_of_unfinished hbalanced (List.cons_ne_nil line rest) hending with
        ⟨hnone, hopen⟩
      have hrest : linesOf source symbol = line :: rest := by
        rw [hlines, hending]
        exact List.take_of_length_le (Nat.le_refl _)
      have hlast : symbol.range.stop.line + 1 = (Text.lines source).length := by
        have hlength := congrArg List.length hdrop
        rw [List.length_drop, List.length_cons] at hlength
        rw [hending] at hstop
        change _ = _ + (rest.length + 1 - 1) at hstop
        omega
      have hzero : nestingBefore source (symbol.range.stop.line + 1) = 0 := by
        rw [nestingBefore, hlast, List.take_length, hcode]
        exact nestingChange_of_balanced hbalanced
      have hrawStop := (before_stop hle hraw).right
      rw [hrest, hopen] at hrawStop
      rw [← hrest] at hnone
      exact Landing.atEnd hnone hlast hzero hrawStop

end Go
end StubAssist

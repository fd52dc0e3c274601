import StubAssist.Go.Declaration
import StubAssist.Proofs.Text.Words

/-!
# Declared symbols

What the scan of a source reports: each symbol comes from one line, whose words tell
its name and kind, and from the state in which the scan reached that line.
-/

namespace StubAssist
namespace Go

/-!
# The code of a line
-/

theorem stripLineComment_prefix (line : Text) :
    stripLineComment line <+: line := by
  fun_induction stripLineComment line with
  | case1 =>
      exact List.nil_prefix
  | case2 rest =>
      exact List.nil_prefix
  | case3 c rest hcomment ih =>
      exact List.cons_prefix_cons.mpr ⟨rfl, ih⟩

/-- The part of a line that the scan reads the words of. -/
def codeOf (line : Text) : Text :=
  Text.trim (stripLineComment line)

theorem exists_codeOf_append (line : Text) :
    exists before after,
      line = before ++ (codeOf line ++ after) ∧
      Text.words line = Text.words (codeOf line ++ after) := by
  rcases stripLineComment_prefix line with ⟨comment, hline⟩
  rcases Text.exists_trim_append (stripLineComment line) with ⟨after, htrim⟩
  have hsplit : line = (stripLineComment line).takeWhile Text.isBlank ++
      (codeOf line ++ (after ++ comment)) := by
    unfold codeOf
    rw [← List.append_assoc (Text.trim _), ← htrim, ← List.append_assoc,
      List.takeWhile_append_dropWhile, hline]
  have hwords := Text.words_takeWhile_append (stripLineComment line)
    (codeOf line ++ (after ++ comment))
  rw [← hsplit] at hwords
  exact ⟨_, after ++ comment, hsplit, hwords⟩

theorem infix_codeOf (line : Text) :
    codeOf line <:+: line := by
  rcases exists_codeOf_append line with ⟨before, after, hline, _⟩
  exact ⟨before, after, by rw [List.append_assoc, ← hline]⟩

theorem getElem?_words_of_codeOf
    {line word following : Text} {index : Nat}
    (hword : (Text.words (codeOf line))[index]? = some word)
    (hfollowing : (Text.words (codeOf line))[index + 1]? = some following) :
    (Text.words line)[index]? = some word := by
  rcases exists_codeOf_append line with ⟨before, after, _, hwords⟩
  rw [hwords]
  exact Text.getElem?_words_append after hword hfollowing

theorem length_words_codeOf (line : Text) :
    (Text.words (codeOf line)).length ≤ (Text.words line).length := by
  rcases exists_codeOf_append line with ⟨before, after, _, hwords⟩
  rw [hwords]
  exact Text.length_words_append (codeOf line) after

/-!
# Heads
-/

theorem skipTypeParameters_suffix (words : List Text) :
    skipTypeParameters words <:+ words := by
  fun_induction skipTypeParameters words with
  | case1 =>
      exact List.suffix_rfl
  | case2 word words hclosing =>
      exact List.suffix_cons word words
  | case3 word words hopen ih =>
      exact ih.trans (List.suffix_cons word words)

theorem eq_cons_of_headOf
    {words : List Text} {name : Text} {kind : SymbolKind}
    (hhead : headOf words = some (name, kind)) :
    exists nameWord rest kindWord,
      words = nameWord :: rest ∧
      kindWord ∈ rest ∧
      kindOfWord kindWord = some kind ∧
      name = nameWord.takeWhile (· != '[') := by
  cases words with
  | nil =>
      cases hhead
  | cons nameWord rest =>
      have hsuffix : (if List.contains nameWord '[' && !List.contains nameWord ']' then
          skipTypeParameters rest else rest) <:+ rest := by
        split
        · exact skipTypeParameters_suffix rest
        · exact List.suffix_rfl
      unfold headOf at hhead
      dsimp only at hhead
      split at hhead
      · cases hhead
      · rename_i kindWord more hmore
        rcases Option.map_eq_some_iff.mp hhead with ⟨found, hkind, hpair⟩
        cases hpair
        rw [hmore] at hsuffix
        exact ⟨nameWord, rest, kindWord, rfl, hsuffix.subset (by simp), hkind, rfl⟩

theorem prefix_of_kindOfWord_eq_struct
    {word : Text} (hkind : kindOfWord word = some .struct) :
    (['s', 't', 'r', 'u', 'c', 't'] : Text) <+: word := by
  unfold kindOfWord at hkind
  split at hkind
  · rename_i hstruct
    exact List.isPrefixOf_iff_prefix.mp hstruct
  · split at hkind
    · cases hkind
    · cases hkind

theorem kind_of_headOf
    {words : List Text} {name : Text} {kind : SymbolKind}
    (hhead : headOf words = some (name, kind)) :
    kind = .struct ∨ kind = .interface := by
  rcases eq_cons_of_headOf hhead with ⟨_, _, kindWord, _, _, hkind, _⟩
  unfold kindOfWord at hkind
  split at hkind
  · cases hkind
    exact Or.inl rfl
  · split at hkind
    · cases hkind
      exact Or.inr rfl
    · cases hkind

/-!
# One line of the scan
-/

theorem scanDeclaration_member (depth : Int) (line : Text) :
    scanDeclaration ⟨some depth, false⟩ line =
      (if depth != 0 || (codeOf line).head? == some ')' then none
        else headOf (Text.words (codeOf line)),
        ⟨groupAfter (depth + nestingChange (codeChars false line)), rawAfter false line⟩) := rfl

theorem scanDeclaration_opening
    {line : Text} (hopens : groupOpening.isPrefixOf (codeOf line) = true) :
    scanDeclaration ⟨none, false⟩ line =
      (none, ⟨groupAfter (nestingChange (codeChars false line) - 1), rawAfter false line⟩) :=
  if_pos hopens

theorem scanDeclaration_alone
    {line : Text} (hopens : groupOpening.isPrefixOf (codeOf line) = false) :
    scanDeclaration ⟨none, false⟩ line =
      (if (Text.words (codeOf line)).head? = some "type".toList then
        headOf (Text.words (codeOf line)).tail else none,
        ⟨none, rawAfter false line⟩) := by
  show ite (groupOpening.isPrefixOf (codeOf line) = true) _ _ = _
  rw [if_neg (Bool.eq_false_iff.mp hopens), ← codeOf]
  split
  · rename_i words hwords
    rw [hwords]
    rfl
  · rename_i hother
    rw [if_neg]
    intro htype
    rcases List.head?_eq_some_iff.mp htype with ⟨words, hwords⟩
    exact hother words hwords

theorem scanDeclaration_head_of_none
    {state : ScanState} {line : Text} {head : Text × SymbolKind}
    (hgroup : state.group = none) :
    (scanDeclaration state line).1 = some head ↔
      state.inRaw = false ∧ groupOpening.isPrefixOf (codeOf line) = false ∧
        exists words,
          Text.words (codeOf line) = "type".toList :: words ∧ headOf words = some head := by
  rcases state with ⟨group, inRaw⟩
  cases hgroup
  cases inRaw with
  | true =>
      simp [scanDeclaration]
  | false =>
      cases hopens : groupOpening.isPrefixOf (codeOf line) with
      | true =>
          simp [scanDeclaration_opening hopens]
      | false =>
          rw [scanDeclaration_alone hopens]
          cases Text.words (codeOf line) with
          | nil => simp
          | cons word words => simp [and_comm]

theorem scanDeclaration_head_of_some
    {state : ScanState} {line : Text} {head : Text × SymbolKind} {depth : Int}
    (hgroup : state.group = some depth) :
    (scanDeclaration state line).1 = some head ↔
      state.inRaw = false ∧ depth = 0 ∧ (codeOf line).head? ≠ some ')' ∧
        headOf (Text.words (codeOf line)) = some head := by
  rcases state with ⟨group, inRaw⟩
  cases hgroup
  cases inRaw with
  | true =>
      simp [scanDeclaration]
  | false =>
      rw [scanDeclaration_member]
      simp [and_assoc]

theorem headOf_of_scanDeclaration
    {state : ScanState} {line name : Text} {kind : SymbolKind}
    (hhead : (scanDeclaration state line).1 = some (name, kind)) :
    exists words, headOf words = some (name, kind) ∧
      Text.words (codeOf line) =
        if state.group.isNone then ['t', 'y', 'p', 'e'] :: words else words := by
  cases hgroup : state.group with
  | none =>
      rcases (scanDeclaration_head_of_none hgroup).mp hhead with
        ⟨_, _, words, hwords, hheadOf⟩
      exact ⟨words, hheadOf, hwords⟩
  | some depth =>
      rcases (scanDeclaration_head_of_some hgroup).mp hhead with ⟨_, _, _, hheadOf⟩
      exact ⟨Text.words (codeOf line), hheadOf, rfl⟩

theorem struct_line_of_scanDeclaration
    {state : ScanState} {line name : Text}
    (hhead : (scanDeclaration state line).1 = some (name, .struct)) :
    (['s', 't', 'r', 'u', 'c', 't'] : Text) <:+: line ∧
      exists second, (Text.words line)[1]? = some second ∧
        (state.group = none -> name = second.takeWhile (· != '[')) := by
  rcases headOf_of_scanDeclaration hhead with ⟨words, hhead, hwords⟩
  rcases eq_cons_of_headOf hhead with ⟨nameWord, rest, kindWord, hcons, hmem, hkind, hname⟩
  have hkindMem : kindWord ∈ Text.words (codeOf line) := by
    rw [hwords, hcons]
    split <;> simp [hmem]
  have hinfix := (Text.infix_of_mem_words hkindMem).trans (infix_codeOf line)
  constructor
  · exact (prefix_of_kindOfWord_eq_struct hkind).isInfix.trans hinfix
  · rcases List.exists_cons_of_ne_nil (List.ne_nil_of_mem hmem) with ⟨next, more, hrest⟩
    rw [hcons, hrest] at hwords
    cases hgroup : state.group with
    | none =>
        rw [hgroup] at hwords
        have hsecond : (Text.words (codeOf line))[1]? = some nameWord := by
          rw [hwords]
          rfl
        have hthird : (Text.words (codeOf line))[2]? = some next := by
          rw [hwords]
          rfl
        exact ⟨nameWord, getElem?_words_of_codeOf hsecond hthird, fun _ => hname⟩
    | some depth =>
        rw [hgroup] at hwords
        have hlength := length_words_codeOf line
        rw [hwords] at hlength
        have htwo : 1 < (Text.words line).length :=
          Nat.lt_of_lt_of_le (by simp) hlength
        exact ⟨(Text.words line)[1], List.getElem?_eq_getElem htwo, fun h => nomatch h⟩

/-!
# The scan of a source
-/

def stateAfter (state : ScanState) (lines : List Text) : ScanState :=
  lines.foldl (fun state line => (scanDeclaration state line).2) state

theorem declarationsFrom_cons
    (package : Option Text) (state : ScanState) (index : Nat) (line : Text)
    (lines : List Text) :
    declarationsFrom package state index (line :: lines) =
      ((scanDeclaration state line).1.map fun head =>
        Symbol.mk head.1 head.2
          (.ofLines index (index + linesToClose .none false 0 (line :: lines)))
          package).toList ++
        declarationsFrom package (scanDeclaration state line).2 (index + 1) lines := by
  rw [declarationsFrom]
  cases hscan : scanDeclaration state line with
  | mk head next =>
      cases head <;> rfl

theorem eq_of_mem_declarationsFrom
    {package : Option Text} {state : ScanState} {index : Nat} {lines : List Text}
    {symbol : Symbol} (hmem : symbol ∈ declarationsFrom package state index lines) :
    exists offset line,
      lines[offset]? = some line ∧
      (scanDeclaration (stateAfter state (lines.take offset)) line).1 =
        some (symbol.name, symbol.kind) ∧
      symbol.range = .ofLines (index + offset)
        (index + offset + linesToClose .none false 0 (lines.drop offset)) := by
  induction lines generalizing state index with
  | nil =>
      cases hmem
  | cons line rest ih =>
      rw [declarationsFrom_cons] at hmem
      rcases List.mem_append.mp hmem with hhere | hlater
      · rcases Option.map_eq_some_iff.mp (Option.mem_toList.mp hhere) with
          ⟨head, hhead, hsymbol⟩
        rw [← hsymbol]
        exact ⟨0, line, rfl, hhead, rfl⟩
      · rcases ih hlater with ⟨offset, found, hline, hhead, hrange⟩
        refine ⟨offset + 1, found, hline, hhead, ?_⟩
        rw [hrange, Nat.add_right_comm index 1 offset]
        rfl

theorem exists_mem_declarationsFrom
    (package : Option Text) (index : Nat) {state : ScanState} {offset : Nat}
    {lines : List Text} {line : Text} {head : Text × SymbolKind}
    (hline : lines[offset]? = some line)
    (hhead : (scanDeclaration (stateAfter state (lines.take offset)) line).1 = some head) :
    exists symbol,
      symbol ∈ declarationsFrom package state index lines ∧
        symbol.range.start.line = index + offset ∧ (symbol.name, symbol.kind) = head := by
  induction lines generalizing state index offset with
  | nil =>
      cases hline
  | cons first rest ih =>
      rw [declarationsFrom_cons]
      cases offset with
      | zero =>
          cases hline
          change (scanDeclaration state line).1 = some head at hhead
          rw [hhead]
          exact ⟨_, List.mem_append_left _ List.mem_cons_self, rfl, rfl⟩
      | succ offset =>
          rcases ih (index + 1) hline hhead with ⟨symbol, hmem, hstart, hsame⟩
          refine ⟨symbol, List.mem_append_right _ hmem, ?_, hsame⟩
          rw [hstart, Nat.add_right_comm, Nat.add_assoc]

theorem eq_of_mem_typeDeclarations
    {source : Text} {symbol : Symbol} (hmem : symbol ∈ typeDeclarations source) :
    exists line,
      (Text.lines source)[symbol.range.start.line]? = some line ∧
      (scanDeclaration
          (stateAfter .initial ((Text.lines source).take symbol.range.start.line)) line).1 =
        some (symbol.name, symbol.kind) := by
  rcases eq_of_mem_declarationsFrom hmem with ⟨offset, line, hline, hhead, hrange⟩
  have hstart : symbol.range.start.line = offset := by
    rw [hrange]
    exact Nat.zero_add offset
  rw [hstart]
  exact ⟨line, hline, hhead⟩

theorem kind_of_mem_typeDeclarations
    {source : Text} {symbol : Symbol} (hmem : symbol ∈ typeDeclarations source) :
    symbol.kind = .struct ∨ symbol.kind = .interface := by
  rcases eq_of_mem_typeDeclarations hmem with ⟨line, _, hscan⟩
  rcases headOf_of_scanDeclaration hscan with ⟨words, hhead, _⟩
  exact kind_of_headOf hhead

end Go
end StubAssist

import StubAssist.Proofs.Go.Endings

/-!
# Ranges of declarations

The scan reports at most one symbol for each line, so each begins below the one before
it.  It ends on a line of the source that does not come before its first.
-/

namespace StubAssist
namespace Go

/-!
# Order
-/

theorem le_start_of_mem_declarationsFrom
    {package : Option Text} {state : ScanState} {index : Nat} {lines : List Text}
    {symbol : Symbol} (hmem : symbol ∈ declarationsFrom package state index lines) :
    index ≤ symbol.range.start.line := by
  rcases eq_of_mem_declarationsFrom hmem with ⟨offset, _, _, _, hrange⟩
  rw [hrange]
  exact Nat.le_add_right index offset

theorem pairwise_declarationsFrom
    (package : Option Text) (state : ScanState) (index : Nat) (lines : List Text) :
    (declarationsFrom package state index lines).Pairwise fun earlier later =>
      earlier.range.start.line < later.range.start.line := by
  induction lines generalizing state index with
  | nil =>
      exact List.Pairwise.nil
  | cons line rest ih =>
      have hlater := ih (scanDeclaration state line).2 (index + 1)
      rw [declarationsFrom_cons]
      cases (scanDeclaration state line).1 with
      | none =>
          exact hlater
      | some head =>
          -- the symbol of this line begins right here, and all others below
          apply List.Pairwise.cons _ hlater
          intro symbol hmem
          exact Nat.lt_of_succ_le (le_start_of_mem_declarationsFrom hmem)

/-!
# One symbol
-/

theorem container_of_mem_declarationsFrom
    {package : Option Text} {state : ScanState} {index : Nat} {lines : List Text}
    {symbol : Symbol} (hmem : symbol ∈ declarationsFrom package state index lines) :
    symbol.container = package := by
  induction lines generalizing state index with
  | nil =>
      cases hmem
  | cons line rest ih =>
      rw [declarationsFrom_cons] at hmem
      rcases List.mem_append.mp hmem with hhere | hlater
      · rcases Option.map_eq_some_iff.mp (Option.mem_toList.mp hhere) with ⟨head, _, hsymbol⟩
        rw [← hsymbol]
      · exact ih hlater

theorem exists_word_of_mem_typeDeclarations
    {source : Text} {symbol : Symbol} (hmem : symbol ∈ typeDeclarations source) :
    exists line word,
      word ∈ Text.words (codeOf line) ∧ symbol.name = word.takeWhile (· != '[') := by
  rcases eq_of_mem_typeDeclarations hmem with ⟨line, _, hscan⟩
  rcases headOf_of_scanDeclaration hscan with ⟨words, hhead, hwords⟩
  rcases eq_cons_of_headOf hhead with ⟨nameWord, rest, _, hcons, _, _, hname⟩
  refine ⟨line, nameWord, ?_, hname⟩
  rw [hwords, hcons]
  split <;> simp

structure IsPlaced (source : Text) (symbol : Symbol) : Prop where
  ordered : symbol.range.start.line ≤ symbol.range.stop.line
  bounded : symbol.range.stop.line < (Text.lines source).length
  startsLine : symbol.range.start.character = 0
  stopsLine : symbol.range.stop.character = 0
  named : forall c, c ∈ symbol.name -> Text.isBlank c = false ∧ c ≠ '['
  contained : symbol.container = packageName source

theorem isPlaced_of_mem
    {source : Text} {symbol : Symbol} (hmem : symbol ∈ typeDeclarations source) :
    IsPlaced source symbol := by
  rcases eq_of_mem_declarationsFrom hmem with ⟨offset, _, _, _, hrange⟩
  constructor
  · rw [hrange]
    exact Nat.le_add_right _ _
  · exact stop_lt_length_of_mem_typeDeclarations hmem
  · rw [hrange]
    rfl
  · rw [hrange]
    rfl
  · intro c hc
    rcases exists_word_of_mem_typeDeclarations hmem with ⟨line, word, hword, hname⟩
    rw [hname] at hc
    have hbracket : c ≠ '[' := by
      simpa using List.mem_takeWhile_imp hc
    exact ⟨Text.isBlank_eq_false_of_mem_words hword ((List.takeWhile_prefix _).subset hc),
      hbracket⟩
  · exact container_of_mem_declarationsFrom hmem

end Go
end StubAssist

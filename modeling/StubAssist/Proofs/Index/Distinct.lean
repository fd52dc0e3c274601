import Mathlib.Data.List.Basic
import StubAssist.SymbolIndex

/-!
# First appearances

Interfaces on offer are made from symbols and then freed of repetitions.  What is left
of a list are its first appearances, in their order.
-/

namespace StubAssist

section Distinct

variable {α β : Type} [BEq α] [LawfulBEq α] [BEq β] [LawfulBEq β]

/-- Each member of `all` once, in the order of first appearance. -/
structure FirstsOf (all firsts : List α) : Prop where
  mem_iff : forall a, a ∈ firsts ↔ a ∈ all
  once : firsts.Nodup
  ordered : firsts.Pairwise fun a b => all.idxOf a < all.idxOf b

theorem mem_distinct_iff {a : α} {items : List α} :
    a ∈ distinct items ↔ a ∈ items := by
  induction items with
  | nil =>
      rfl
  | cons b rest ih =>
      rw [distinct, List.mem_cons, List.mem_cons, List.mem_filter, ih]
      by_cases hab : a = b
      · simp [hab]
      · simp [hab, Ne.symm hab]

theorem pairwise_idxOf_distinct (items : List α) :
    (distinct items).Pairwise fun a b => items.idxOf a < items.idxOf b := by
  induction items with
  | nil =>
      exact List.Pairwise.nil
  | cons first rest ih =>
      rw [distinct, List.pairwise_cons]
      constructor
      · intro b hmem
        have hne : first ≠ b := by
          simpa using (List.mem_filter.mp hmem).right
        rw [List.idxOf_cons_self, List.idxOf_cons_ne rest hne]
        exact Nat.succ_pos _
      · apply (ih.filter _).imp_of_mem
        intro a b ha hb hlt
        have hneA : first ≠ a := by
          simpa using (List.mem_filter.mp ha).right
        have hneB : first ≠ b := by
          simpa using (List.mem_filter.mp hb).right
        rw [List.idxOf_cons_ne rest hneA, List.idxOf_cons_ne rest hneB]
        exact Nat.succ_lt_succ hlt

theorem firstsOf_distinct (items : List α) :
    FirstsOf items (distinct items) := by
  have hordered := pairwise_idxOf_distinct items
  constructor
  · intro a
    exact mem_distinct_iff
  · apply hordered.imp
    intro a b hlt hab
    rw [hab] at hlt
    exact Nat.lt_irrefl _ hlt
  · exact hordered

theorem distinct_map_of_injOn
    {f : α -> β} {items : List α}
    (hf : forall a, a ∈ items -> forall b, b ∈ items -> f a = f b -> a = b) :
    distinct (items.map f) = (distinct items).map f := by
  induction items with
  | nil =>
      rfl
  | cons a rest ih =>
      have hrest := ih fun b hb c hc =>
        hf b (List.mem_cons_of_mem a hb) c (List.mem_cons_of_mem a hc)
      rw [List.map_cons, distinct, hrest, distinct, List.map_cons, List.filter_map]
      congr 2
      apply List.filter_congr
      intro b hb
      have hmem : b ∈ a :: rest := List.mem_cons_of_mem a (mem_distinct_iff.mp hb)
      by_cases hab : a = b
      · simp [hab]
      · have hne : f a ≠ f b := fun heq => hab (hf a List.mem_cons_self b hmem heq)
        simp [hab, hne]

theorem distinct_map
    {f : α -> β} (hf : Function.Injective f) (items : List α) :
    distinct (items.map f) = (distinct items).map f :=
  distinct_map_of_injOn fun _ _ _ _ heq => hf heq

end Distinct
end StubAssist

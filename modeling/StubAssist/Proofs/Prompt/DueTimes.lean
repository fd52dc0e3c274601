import StubAssist.Proofs.Prompt.History

/-!
# Due times

What a typist's values lead to, told from their instants alone: a value counts only
if the next one comes after its delay is over, and then it counts at the end of that
delay.  The last value competes with the end of the run, if there is one.
-/

namespace StubAssist
namespace Prompt

/-- The instant of the next value, or else of the end; none if neither comes. -/
def nextInstant {α : Type} (ending : Option Nat) (rest : List (Nat × α)) : Option Nat :=
  (rest.head?.map Prod.fst).or ending

/-- What the values that outlast their delay lead to, each at the end of its delay. -/
def outlasting {α β : Type} (delay : α -> Nat) (result : α -> β) (ending : Option Nat) :
    List (Nat × α) -> List (Nat × β)
  | [] => []
  | (instant, value) :: rest =>
      if (nextInstant ending rest).all (instant + delay value < ·) then
        (instant + delay value, result value) :: outlasting delay result ending rest
      else outlasting delay result ending rest

/-- The questions that fall due, with the replies to them. -/
def dueQuestions (debounce : Nat) (reply : Text -> Reply) (ending : Option Nat)
    (changes : List (Nat × Text)) : List (Nat × (Text × Reply)) :=
  outlasting (fun _ => debounce) (fun value => (value, reply value)) ending changes

/-- The lists that fall due: a list waits for the pause and then for the answer. -/
def dueLists (debounce : Nat) (reply : Text -> Reply) (ending : Option Nat)
    (changes : List (Nat × Text)) : List (Nat × List Update) :=
  outlasting (fun value => debounce + (reply value).millis)
    (fun value => answerUpdates (reply value).interfaces) ending changes

section Outlasting

variable {α β : Type} {delay : α -> Nat} {result : α -> β}

theorem outlasting_cons
    (ending : Option Nat) (first : Nat × α) (rest : List (Nat × α)) :
    outlasting delay result ending (first :: rest) =
      if (nextInstant ending rest).all (first.1 + delay first.2 < ·) then
        (first.1 + delay first.2, result first.2) :: outlasting delay result ending rest
      else outlasting delay result ending rest := rfl

theorem outlasting_singleton (ending : Option Nat) (instant : Nat) (value : α) :
    outlasting delay result ending [(instant, value)] =
      if ending.all (instant + delay value < ·) then
        [(instant + delay value, result value)]
      else [] := rfl

theorem outlasting_concat
    (ending : Option Nat) (earlier : List (Nat × α)) (instant : Nat) (value : α) :
    outlasting delay result ending (earlier ++ [(instant, value)]) =
      outlasting delay result (some instant) earlier ++
        outlasting delay result ending [(instant, value)] := by
  induction earlier with
  | nil =>
      rfl
  | cons first rest ih =>
      have hnext : nextInstant ending (rest ++ [(instant, value)]) =
          nextInstant (some instant) rest := by
        cases rest <;> rfl
      rw [List.cons_append, outlasting_cons, outlasting_cons, hnext, ih]
      split
      · rfl
      · rfl

theorem outlasting_of_due
    {changes : List (Nat × α)} {instant before after : Nat} {value : α}
    (hlatest : changes.getLast? = some (instant, value))
    (hbefore : before ≤ instant + delay value)
    (hafter : instant + delay value < after) :
    outlasting delay result (some after) changes =
      outlasting delay result (some before) changes ++
        [(instant + delay value, result value)] := by
  have hsplit := List.dropLast_append_getLast? _ hlatest
  rw [← hsplit, outlasting_concat, outlasting_concat, outlasting_singleton,
    outlasting_singleton]
  simp [hafter, Nat.not_lt.mpr hbefore]

theorem outlasting_of_same_side
    {changes : List (Nat × α)} {instant before after : Nat} {value : α}
    (hlatest : changes.getLast? = some (instant, value))
    (hside : instant + delay value < before ↔ instant + delay value < after) :
    outlasting delay result (some after) changes =
      outlasting delay result (some before) changes := by
  have hsplit := List.dropLast_append_getLast? _ hlatest
  rw [← hsplit, outlasting_concat, outlasting_concat, outlasting_singleton,
    outlasting_singleton]
  simp [hside]

theorem lt_of_mem_outlasting
    {changes : List (Nat × α)} {ending bound : Nat} {due : Nat × β}
    (hchanges : forall change, change ∈ changes -> change.1 ≤ bound)
    (hending : ending ≤ bound)
    (hmem : due ∈ outlasting delay result (some ending) changes) :
    due.1 < bound := by
  induction changes with
  | nil =>
      cases hmem
  | cons first rest ih =>
      have hrest := ih fun change hchange => hchanges change (List.mem_cons_of_mem _ hchange)
      rw [outlasting_cons] at hmem
      split at hmem
      · rename_i hnext
        rcases List.mem_cons.mp hmem with hfirst | hlater
        · rw [hfirst]
          cases rest with
          | nil =>
              have hlt : first.1 + delay first.2 < ending := by
                simpa [nextInstant] using hnext
              exact Nat.lt_of_lt_of_le hlt hending
          | cons second later =>
              have hlt : first.1 + delay first.2 < second.1 := by
                simpa [nextInstant] using hnext
              exact Nat.lt_of_lt_of_le hlt (hchanges second (by simp))
        · exact hrest hlater
      · exact hrest hmem

theorem outlasting_some_filter
    {changes : List (Nat × α)} {ending horizon : Nat}
    (hchanges : forall change, change ∈ changes -> change.1 ≤ horizon)
    (hending : ending ≤ horizon) :
    (outlasting delay result (some ending) changes).filter (·.1 ≤ horizon) =
      outlasting delay result (some ending) changes := by
  apply List.filter_eq_self.mpr
  intro due hmem
  exact decide_eq_true (Nat.le_of_lt (lt_of_mem_outlasting hchanges hending hmem))

theorem outlasting_none_filter
    {changes : List (Nat × α)} {horizon : Nat}
    (hchanges : forall change, change ∈ changes -> change.1 ≤ horizon) :
    (outlasting delay result none changes).filter (·.1 ≤ horizon) =
      outlasting delay result (some (horizon + 1)) changes := by
  cases hlatest : changes.getLast? with
  | none =>
      rw [List.getLast?_eq_none_iff.mp hlatest]
      rfl
  | some last =>
      rcases last with ⟨instant, value⟩
      have hinstant : instant ≤ horizon :=
        hchanges (instant, value) (List.mem_of_getLast? hlatest)
      have hearlier : forall change, change ∈ changes.dropLast -> change.1 ≤ horizon :=
        fun change hchange => hchanges change (List.dropLast_subset changes hchange)
      have hsplit := List.dropLast_append_getLast? _ hlatest
      rw [← hsplit, outlasting_concat, outlasting_concat, List.filter_append,
        outlasting_some_filter hearlier hinstant, outlasting_singleton,
        outlasting_singleton]
      by_cases hdue : instant + delay value ≤ horizon
      · have hbefore : instant + delay value < horizon + 1 := Nat.lt_succ_of_le hdue
        simp [hdue, hbefore]
      · have hlate : ¬ instant + delay value < horizon + 1 := by omega
        simp only [Option.all_none, if_true, Option.all_some, hlate, decide_false,
          List.filter_cons, List.filter_nil, hdue, Bool.false_eq_true, if_false]

end Outlasting
end Prompt
end StubAssist

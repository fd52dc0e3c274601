import StubAssist.Proofs.Prompt.History

/-!
# Lawful histories

A moment is lawful after the moments before it if it shows only the answer to the
one question asked since the latest change, and asks only for the value of that
change.  A lawful history has lawful moments only, and an outcome ends it.
-/

namespace StubAssist
namespace Prompt

open History

inductive Follows (before : List Moment) (moment : Moment) : Prop where
  | change {value : Text}
      (hchange : moment.change? = some value)
      (hquestion : moment.question? = none)
      (hlist : moment.list? = none)
  | question {value : Text} {reply : Reply}
      (hchange : moment.change? = none)
      (hquestion : moment.question? = some (value, reply))
      (hlist : moment.list? = none)
      (hlatest : latestChange? before = some value)
      (hfirst : questions (sinceChange before) = [])
  | list {value : Text} {reply : Reply}
      (hchange : moment.change? = none)
      (hquestion : moment.question? = none)
      (hlist : moment.list? = some (answerUpdates reply.interfaces))
      (hlatest : latestChange? before = some value)
      (hasked : questions (sinceChange before) = [(value, reply)])
      (hfirst : lists (sinceChange before) = [])
  | quiet (hquiet : moment.IsQuiet)

namespace Follows

theorem of_question
    {before : List Moment} {moment : Moment} {value : Text} {reply : Reply}
    (hfollows : Follows before moment)
    (hquestion : moment.question? = some (value, reply)) :
    latestChange? before = some value ∧ questions (sinceChange before) = [] := by
  cases hfollows with
  | change hchange hnone hlist =>
      simp [hnone] at hquestion
  | question hchange hquestion' hlist hlatest hfirst =>
      rw [hquestion'] at hquestion
      cases hquestion
      exact ⟨hlatest, hfirst⟩
  | list hchange hnone hlist hlatest hasked hfirst =>
      simp [hnone] at hquestion
  | quiet hquiet =>
      simp [hquiet.question] at hquestion

theorem of_list
    {before : List Moment} {moment : Moment} {updates : List Update}
    (hfollows : Follows before moment) (hlist : moment.list? = some updates) :
    exists value reply,
      latestChange? before = some value ∧
      questions (sinceChange before) = [(value, reply)] ∧
      lists (sinceChange before) = [] ∧
      updates = answerUpdates reply.interfaces := by
  cases hfollows with
  | change hchange hquestion hnone =>
      simp [hnone] at hlist
  | question hchange hquestion hnone hlatest hfirst =>
      simp [hnone] at hlist
  | @list value reply hchange hquestion hlist' hlatest hasked hfirst =>
      rw [hlist'] at hlist
      cases hlist
      exact ⟨value, reply, hlatest, hasked, hfirst, rfl⟩
  | quiet hquiet =>
      simp [hquiet.list] at hlist

end Follows

inductive Lawful : List Moment -> Prop where
  | nil : Lawful []
  | concat {before : List Moment} {moment : Moment}
      (hlawful : Lawful before)
      (hrunning : forall earlier, earlier ∈ before -> earlier.effect.outcome = none)
      (hfollows : Follows before moment) :
      Lawful (before ++ [moment])

namespace Lawful

theorem follows_of_initial
    {history before : List Moment} {moment : Moment}
    (hlawful : Lawful history) (hinitial : before ++ [moment] <+: history) :
    Follows before moment ∧
      forall earlier, earlier ∈ before -> earlier.effect.outcome = none := by
  induction hlawful with
  | nil =>
      simp at hinitial
  | concat hlawful hrunning hfollows ih =>
      rcases List.prefix_concat_iff.mp hinitial with hwhole | hpart
      · have hparts := List.append_inj' hwhole rfl
        have hmoment := List.singleton_inj.mp hparts.right
        rw [hparts.left, hmoment]
        exact ⟨hfollows, hrunning⟩
      · exact ih hpart

theorem of_initial
    {history before : List Moment} (hlawful : Lawful history)
    (hinitial : before <+: history) :
    Lawful before := by
  induction hlawful with
  | nil =>
      rw [List.prefix_nil.mp hinitial]
      exact Lawful.nil
  | concat hlawful hrunning hfollows ih =>
      rcases List.prefix_concat_iff.mp hinitial with hwhole | hpart
      · rw [hwhole]
        exact Lawful.concat hlawful hrunning hfollows
      · exact ih hpart

theorem length_sinceChange_le_one
    {history : List Moment} (hlawful : Lawful history) :
    (questions (sinceChange history)).length ≤ 1 ∧
      (lists (sinceChange history)).length ≤ 1 := by
  induction hlawful with
  | nil =>
      exact ⟨Nat.zero_le 1, Nat.zero_le 1⟩
  | @concat before moment hlawful hrunning hfollows ih =>
      cases hfollows with
      | change hchange hquestion hlist =>
          rw [sinceChange_concat_of_some before hchange]
          exact ⟨Nat.zero_le 1, Nat.zero_le 1⟩
      | question hchange hquestion hlist hlatest hfirst =>
          rw [questions_sinceChange_concat before hchange,
            lists_sinceChange_concat before hchange, hquestion, hlist, hfirst]
          simpa using ih.right
      | list hchange hquestion hlist hlatest hasked hfirst =>
          rw [questions_sinceChange_concat before hchange,
            lists_sinceChange_concat before hchange, hquestion, hlist, hfirst]
          simpa using ih.left
      | quiet hquiet =>
          rw [questions_sinceChange_concat before hquiet.change,
            lists_sinceChange_concat before hquiet.change, hquiet.question, hquiet.list]
          simpa using ih

/-!
Questions and lists come in the order of their values.  The induction needs to know
that the latest value still has no question, and the latest question no list, when
the next one is due; `dropLast` leaves exactly that one out.
-/

theorem questions_sublist_dropLast
    {history : List Moment} (hlawful : Lawful history) :
    ((questions history).map Prod.fst).Sublist
      (if questions (sinceChange history) = [] then (changes history).dropLast
        else changes history) := by
  induction hlawful with
  | nil =>
      exact List.Sublist.refl []
  | @concat before moment hlawful hrunning hfollows ih =>
      have hwhole : ((questions before).map Prod.fst).Sublist (changes before) := by
        split at ih
        · exact ih.trans (List.dropLast_sublist (changes before))
        · exact ih
      cases hfollows with
      | change hchange hquestion hlist =>
          rw [sinceChange_concat_of_some before hchange, questions_concat, changes_concat,
            hquestion, hchange]
          simpa using hwhole
      | @question value reply hchange hquestion hlist hlatest hfirst =>
          rw [hfirst, if_pos rfl] at ih
          rw [questions_sinceChange_concat before hchange, questions_concat, changes_concat,
            hquestion, hchange]
          have hsplit : changes before = (changes before).dropLast ++ [value] :=
            (List.dropLast_append_getLast? value hlatest).symm
          rw [hsplit]
          simpa using ih.append_right [value]
      | list hchange hquestion hlist hlatest hasked hfirst =>
          rw [questions_sinceChange_concat before hchange, questions_concat, changes_concat,
            hquestion, hchange]
          simpa using ih
      | quiet hquiet =>
          rw [questions_sinceChange_concat before hquiet.change, questions_concat, changes_concat,
            hquiet.question, hquiet.change]
          simpa using ih

theorem lists_sublist_dropLast
    {history : List Moment} (hlawful : Lawful history) :
    (lists history).Sublist
      (if questions (sinceChange history) ≠ [] ∧ lists (sinceChange history) = [] then
        (answers history).dropLast
      else answers history) := by
  induction hlawful with
  | nil =>
      exact List.Sublist.refl []
  | @concat before moment hlawful hrunning hfollows ih =>
      have hwhole : (lists before).Sublist (answers before) := by
        split at ih
        · exact ih.trans (List.dropLast_sublist (answers before))
        · exact ih
      cases hfollows with
      | change hchange hquestion hlist =>
          rw [sinceChange_concat_of_some before hchange, lists_concat, hlist,
            answers_concat_of_none before hquestion]
          simpa using hwhole
      | @question value reply hchange hquestion hlist hlatest hfirst =>
          rw [lists_concat, hlist, Option.toList_none, List.append_nil,
            answers_concat_of_some before hquestion]
          split
          · rw [List.dropLast_concat]
            exact hwhole
          · exact hwhole.trans (List.sublist_append_left _ _)
      | @list value reply hchange hquestion hlist hlatest hasked hfirst =>
          -- the one question since the change has its answer now, which is the last of all answers
          have hcond : questions (sinceChange before) ≠ [] ∧
              lists (sinceChange before) = [] := by
            rw [hasked]
            exact ⟨List.cons_ne_nil _ _, hfirst⟩
          rw [if_pos hcond] at ih
          have hlast := questions_sinceChange_suffix before
          rw [hasked] at hlast
          rcases hlast with ⟨earlier, hsplit⟩
          have hanswers : answers before =
              (answers before).dropLast ++ [answerUpdates reply.interfaces] := by
            simp [answers, ← hsplit]
          rw [questions_sinceChange_concat before hchange,
            lists_sinceChange_concat before hchange, lists_concat, hlist, hfirst,
            answers_concat_of_none before hquestion, hanswers]
          simpa using ih.append_right [answerUpdates reply.interfaces]
      | quiet hquiet =>
          rw [questions_sinceChange_concat before hquiet.change,
            lists_sinceChange_concat before hquiet.change, lists_concat, hquiet.question,
            hquiet.list, answers_concat_of_none before hquiet.question]
          simpa using ih

theorem questions_sublist
    {history : List Moment} (hlawful : Lawful history) :
    ((questions history).map Prod.fst).Sublist (changes history) := by
  have h := hlawful.questions_sublist_dropLast
  split at h
  · exact h.trans (List.dropLast_sublist (changes history))
  · exact h

theorem lists_sublist
    {history : List Moment} (hlawful : Lawful history) :
    (lists history).Sublist (answers history) := by
  have h := hlawful.lists_sublist_dropLast
  split at h
  · exact h.trans (List.dropLast_sublist _)
  · exact h

end Lawful
end Prompt
end StubAssist

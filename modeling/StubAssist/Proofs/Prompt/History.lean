import Mathlib.Data.List.Basic
import StubAssist.Prompt.Session

/-!
# Histories of a prompt

What a reader of a session's history looks for: the values that the user changed
to, the questions that the index was asked, the lists that were shown, and how
the run ended.  A history grows at its end, so each of these comes with a lemma on
what one more moment adds.
-/

namespace StubAssist
namespace Prompt

/-!
# Moments
-/

/-- What comes from outside: an event, or the end of all events. -/
inductive Signal where
  | event (event : Event)
  | hangUp
deriving DecidableEq, Repr

def Update.isItems : Update → Bool
  | items _ => true
  | _ => false

/-- What the user is told of an answer; a failure comes before its empty list. -/
def answerUpdates : Except AssistError (List Candidate) → List Update
  | .ok items => [.items items, .state .showingResults]
  | .error error => [.queryFailed error.message, .items [], .state .showingResults]

theorem showResults_updates (state : State) (result : Except AssistError (List Candidate)) :
    (state.showResults result).2.updates = answerUpdates result := by
  cases result <;> rfl

namespace Moment

def change? (moment : Moment) : Option Text :=
  match moment.turn with
  | some (.event (.valueChanged value)) => some value
  | _ => none

def question? (moment : Moment) : Option (Text × Reply) :=
  moment.effect.query.bind fun value => moment.reply.map (value, ·)

/-- The updates of a moment that shows a list. -/
def list? (moment : Moment) : Option (List Update) :=
  if moment.effect.updates.any Update.isItems then some moment.effect.updates else none

def signal? (moment : Moment) : Option Signal :=
  match moment.turn with
  | some (.event event) => some (.event event)
  | some .closed => some .hangUp
  | _ => none

structure IsQuiet (moment : Moment) : Prop where
  change : moment.change? = none
  question : moment.question? = none
  list : moment.list? = none

end Moment

theorem Moment.list?_of_updates
    {moment : Moment} {result : Except AssistError (List Candidate)}
    (hupdates : moment.effect.updates = answerUpdates result) :
    moment.list? = some (answerUpdates result) := by
  unfold Moment.list?
  rw [hupdates]
  cases result with
  | ok items =>
      rfl
  | error error =>
      rfl

/-!
# Projections
-/

namespace History

def changes (history : List Moment) : List Text :=
  history.filterMap Moment.change?

def questions (history : List Moment) : List (Text × Reply) :=
  history.filterMap Moment.question?

def lists (history : List Moment) : List (List Update) :=
  history.filterMap Moment.list?

def answers (history : List Moment) : List (List Update) :=
  (questions history).map fun question => answerUpdates question.2.interfaces

/-- What `read` finds in the moments, each with its instant. -/
def timed {α : Type} (read : Moment -> Option α) (history : List Moment) :
    List (Nat × α) :=
  history.filterMap fun moment => (read moment).map (moment.instant, ·)

def ending? (history : List Moment) : Option Nat :=
  (history.find? fun moment => moment.effect.outcome.isSome).map Moment.instant

def latestChange? (history : List Moment) : Option Text :=
  (changes history).getLast?

/-- The moments after the most recent change; all of them if there is none. -/
def sinceChange (history : List Moment) : List Moment :=
  (history.reverse.takeWhile (fun moment => moment.change?.isNone)).reverse

@[simp] theorem questions_nil : questions [] = [] := rfl

@[simp] theorem lists_nil : lists [] = [] := rfl

theorem changes_concat (history : List Moment) (moment : Moment) :
    changes (history ++ [moment]) = changes history ++ moment.change?.toList := by
  cases h : moment.change? <;> simp [changes, h]

theorem questions_concat (history : List Moment) (moment : Moment) :
    questions (history ++ [moment]) =
      questions history ++ moment.question?.toList := by
  cases h : moment.question? <;> simp [questions, h]

theorem answers_concat_of_none
    {moment : Moment} (history : List Moment) (hquestion : moment.question? = none) :
    answers (history ++ [moment]) = answers history := by
  simp [answers, questions_concat, hquestion]

theorem answers_concat_of_some
    {moment : Moment} {value : Text} {reply : Reply} (history : List Moment)
    (hquestion : moment.question? = some (value, reply)) :
    answers (history ++ [moment]) =
      answers history ++ [answerUpdates reply.interfaces] := by
  simp [answers, questions_concat, hquestion]

theorem lists_concat (history : List Moment) (moment : Moment) :
    lists (history ++ [moment]) = lists history ++ moment.list?.toList := by
  cases h : moment.list? <;> simp [lists, h]

theorem timed_concat
    {α : Type} (read : Moment -> Option α) (history : List Moment) (moment : Moment) :
    timed read (history ++ [moment]) =
      timed read history ++ ((read moment).map (moment.instant, ·)).toList := by
  cases h : read moment <;> simp [timed, h]

theorem timed_concat_of_none
    {α : Type} {read : Moment -> Option α} {moment : Moment} (history : List Moment)
    (hread : read moment = none) :
    timed read (history ++ [moment]) = timed read history := by
  simp [timed_concat, hread]

theorem timed_concat_of_some
    {α : Type} {read : Moment -> Option α} {moment : Moment} {a : α}
    (history : List Moment) (hread : read moment = some a) :
    timed read (history ++ [moment]) = timed read history ++ [(moment.instant, a)] := by
  simp [timed_concat, hread]

theorem instant_le_of_mem_timed
    {α : Type} {read : Moment -> Option α} {history : List Moment} {bound : Nat}
    {found : Nat × α}
    (hbound : forall moment, moment ∈ history -> moment.instant ≤ bound)
    (hfound : found ∈ timed read history) :
    found.1 ≤ bound := by
  rcases List.mem_filterMap.mp hfound with ⟨moment, hmem, hread⟩
  rcases Option.map_eq_some_iff.mp hread with ⟨a, _, hpair⟩
  rw [← hpair]
  exact hbound moment hmem

theorem ending?_le
    {history : List Moment} {ending bound : Nat}
    (hbound : forall moment, moment ∈ history -> moment.instant ≤ bound)
    (hended : ending? history = some ending) :
    ending ≤ bound := by
  rcases Option.map_eq_some_iff.mp hended with ⟨moment, hfind, hinstant⟩
  rw [← hinstant]
  exact hbound moment (List.mem_of_find?_eq_some hfind)

theorem ending?_concat_of_none
    {moment : Moment} (history : List Moment) (hrunning : moment.effect.outcome = none) :
    ending? (history ++ [moment]) = ending? history := by
  simp [ending?, hrunning]

theorem ending?_concat_of_some
    {moment : Moment} {outcome : Outcome} {history : List Moment}
    (hbefore : ending? history = none)
    (hended : moment.effect.outcome = some outcome) :
    ending? (history ++ [moment]) = some moment.instant := by
  have hnone := Option.map_eq_none_iff.mp hbefore
  simp [ending?, List.find?_append, hnone, hended]

theorem latestChange?_concat_of_none
    {moment : Moment} (history : List Moment) (hchange : moment.change? = none) :
    latestChange? (history ++ [moment]) = latestChange? history := by
  simp [latestChange?, changes_concat, hchange]

theorem latestChange?_concat_of_some
    {moment : Moment} {value : Text} (history : List Moment)
    (hchange : moment.change? = some value) :
    latestChange? (history ++ [moment]) = some value := by
  simp [latestChange?, changes_concat, hchange]

theorem sinceChange_concat_of_none
    {moment : Moment} (history : List Moment) (hchange : moment.change? = none) :
    sinceChange (history ++ [moment]) = sinceChange history ++ [moment] := by
  simp [sinceChange, hchange]

theorem sinceChange_concat_of_some
    {moment : Moment} {value : Text} (history : List Moment)
    (hchange : moment.change? = some value) :
    sinceChange (history ++ [moment]) = [] := by
  simp [sinceChange, hchange]

theorem questions_sinceChange_concat
    {moment : Moment} (history : List Moment) (hchange : moment.change? = none) :
    questions (sinceChange (history ++ [moment])) =
      questions (sinceChange history) ++ moment.question?.toList := by
  rw [sinceChange_concat_of_none history hchange, questions_concat]

theorem lists_sinceChange_concat
    {moment : Moment} (history : List Moment) (hchange : moment.change? = none) :
    lists (sinceChange (history ++ [moment])) =
      lists (sinceChange history) ++ moment.list?.toList := by
  rw [sinceChange_concat_of_none history hchange, lists_concat]

theorem sinceChange_suffix (history : List Moment) :
    sinceChange history <:+ history := by
  have h := List.takeWhile_prefix (l := history.reverse)
    (fun moment => moment.change?.isNone)
  have hreversed := List.reverse_suffix.mpr h
  rw [List.reverse_reverse] at hreversed
  exact hreversed

theorem questions_sinceChange_suffix (history : List Moment) :
    questions (sinceChange history) <:+ questions history := by
  rcases sinceChange_suffix history with ⟨earlier, hsplit⟩
  exists questions earlier
  unfold questions
  rw [← List.filterMap_append, hsplit]

end History
end Prompt
end StubAssist

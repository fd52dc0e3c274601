import StubAssist.Proofs.Prompt.Supersession

/-!
# Decisions

A signal decides a run if it dismisses the prompt, ends the events, or selects an item of
the last list that was shown.  The list that the prompt keeps is always that list,
whatever became of the questions in between, so each turn has the outcome that its signal
decides and no other.
-/

namespace StubAssist
namespace Prompt

def Update.items? : Update -> Option (List Candidate)
  | items candidates => some candidates
  | _ => none

/-- What a signal decides while a list is on show. -/
def decision (shown : List Candidate) : Signal -> Option Outcome
  | .event (.valueChanged _) => none
  | .event (.select index) => shown[index]?.map .selected
  | .event .dismiss => some .cancelled
  | .hangUp => some .cancelled

/-!
# The list on show
-/

def lastItems? (updates : List Update) : Option (List Candidate) :=
  (updates.filterMap Update.items?).getLast?

theorem concat_prefix_concat_iff
    {α : Type} {whole before : List α} {x last : α} :
    before ++ [x] <+: whole ++ [last] ↔
      (before = whole ∧ x = last) ∨ before ++ [x] <+: whole := by
  rw [List.prefix_concat_iff]
  constructor
  · rintro (hlast | hbefore)
    · rcases List.append_inj' hlast rfl with ⟨hwhole, hx⟩
      exact Or.inl ⟨hwhole, List.singleton_inj.mp hx⟩
    · exact Or.inr hbefore
  · rintro (⟨hwhole, hx⟩ | hbefore)
    · rw [hwhole, hx]
      exact Or.inl rfl
    · exact Or.inr hbefore

namespace History

def shown (history : List Moment) : List Candidate :=
  (lastItems? (history.flatMap (·.effect.updates))).getD []

theorem shown_concat (history : List Moment) (moment : Moment) :
    shown (history ++ [moment]) =
      (lastItems? moment.effect.updates).getD (shown history) := by
  have hlast : lastItems? ((history ++ [moment]).flatMap (·.effect.updates)) =
      (lastItems? moment.effect.updates).or
        (lastItems? (history.flatMap (·.effect.updates))) := by
    simp [lastItems?, List.filterMap_append, List.getLast?_append]
  rw [shown, hlast, Option.getD_or]
  rfl

end History

open History

namespace Session

variable {ω : Type}

/-!
# What a turn decides and shows
-/

section Allowed

variable {session : Session ω} {turn : Turn} {next : State} {effect : Effect}

theorem outcome_of_allows
    (hallows : State.Allows session.settings.debounceMillis session.now session.state
      turn next effect) :
    effect.outcome =
      (session.moment (some turn) effect).signal?.bind (decision session.state.items) := by
  cases hallows with
  | changed value =>
      rfl
  | @selected index candidate hitem =>
      show _ = (session.state.items[index]?).map Outcome.selected
      rw [hitem]
      rfl
  | @ignored index hitem =>
      show _ = (session.state.items[index]?).map Outcome.selected
      rw [hitem]
      rfl
  | cancelled hturn =>
      rcases hturn with hturn | hturn
      · rw [hturn]
        rfl
      · rw [hturn]
        rfl
  | raised hpending =>
      rfl
  | asked hflight =>
      rfl
  | answered result hflight =>
      exact State.showResults_outcome _ _

theorem items_of_allows
    (hallows : State.Allows session.settings.debounceMillis session.now session.state
      turn next effect) :
    next.items = (lastItems? effect.updates).getD session.state.items := by
  cases hallows with
  | changed value => rfl
  | selected hitem => rfl
  | ignored hitem => rfl
  | cancelled hturn => rfl
  | raised hpending => rfl
  | asked hflight => rfl
  | answered result hflight =>
      cases result with
      | ok items => rfl
      | error error => rfl

end Allowed

/-!
# Runs keep to the list on show
-/

/-- The prompt keeps the list on show, and its outcome is what the last moment decided. -/
structure IsFaithful (session : Session ω) : Prop where
  items : session.state.items = shown session.history
  moments : forall before moment, before ++ [moment] <+: session.history ->
    moment.effect.outcome = moment.signal?.bind (decision (shown before))
  outcome : session.outcome = session.history.getLast?.bind (·.effect.outcome)

theorem isFaithful_perform
    {session : Session ω} {turn : Option Turn} {next : State} {effect : Effect}
    (hfaithful : session.IsFaithful) (hopen : session.outcome = none)
    (houtcome : effect.outcome =
      (session.moment turn effect).signal?.bind (decision session.state.items))
    (hitems : next.items = (lastItems? effect.updates).getD session.state.items) :
    (session.perform turn next effect).IsFaithful := by
  rw [hfaithful.items] at houtcome hitems
  constructor
  · rw [perform_history, shown_concat]
    exact hitems
  · intro before moment hinitial
    rw [perform_history, concat_prefix_concat_iff] at hinitial
    rcases hinitial with ⟨hbefore, hmoment⟩ | hinitial
    · rw [hbefore, hmoment]
      exact houtcome
    · exact hfaithful.moments before moment hinitial
  · rw [perform_outcome, perform_history, List.getLast?_concat, hopen]
    rfl

theorem outcome_eq_none_of_running
    {session : Session ω} (hrunning : session.isFinished = false) :
    session.outcome = none := by
  simpa [isFinished] using hrunning

theorem isFaithful_take
    {session : Session ω} (turn : Turn) (hfaithful : session.IsFaithful) :
    (session.take turn).IsFaithful := by
  rcases take_cases session turn with hsame | ⟨next, effect, hrunning, hallows, hperform⟩
  · rw [hsame]
    exact hfaithful
  · rw [hperform]
    exact isFaithful_perform hfaithful (outcome_eq_none_of_running hrunning)
      (outcome_of_allows hallows) (items_of_allows hallows)

theorem isFaithful_begin
    {session : Session ω} (haccounted : session.IsAccounted)
    (hfaithful : session.IsFaithful) :
    session.begin.IsFaithful := by
  by_cases hidle : session.state.phase = .idle
  · rcases haccounted.fresh hidle with ⟨hempty, hopen⟩
    have hitems : session.state.items = [] := by
      rw [hfaithful.items, hempty]
      rfl
    rw [begin_of_idle hidle]
    exact isFaithful_perform hfaithful hopen rfl hitems.symm
  · rw [begin_of_begun hidle]
    exact hfaithful

theorem isFaithful_step
    {session next : Session ω} (haccounted : session.IsAccounted)
    (hfaithful : session.IsFaithful) (hstep : Step session next) :
    next.IsFaithful := by
  cases course_of_step hstep with
  | outside queue isClosed updates warnings hnow =>
      exact ⟨hfaithful.items, hfaithful.moments, hfaithful.outcome⟩
  | opening =>
      exact isFaithful_begin haccounted hfaithful
  | turn queue hbegun hready =>
      have hqueued : (session.withQueue queue).IsFaithful :=
        ⟨hfaithful.items, hfaithful.moments, hfaithful.outcome⟩
      exact isFaithful_take _ hqueued

theorem isFaithful_of_reachable
    {session : Session ω} (hreachable : Reachable session) :
    session.IsFaithful := by
  rcases hreachable with ⟨settings, index, world, hreaches⟩
  induction hreaches with
  | refl =>
      constructor
      · rfl
      · intro before moment hinitial
        exact absurd (List.prefix_nil.mp hinitial) (by simp)
      · rfl
  | tail hbefore hstep ih =>
      exact isFaithful_step (isAccounted_of_reachable ⟨settings, index, world, hbefore⟩) ih
        hstep

end Session
end Prompt
end StubAssist

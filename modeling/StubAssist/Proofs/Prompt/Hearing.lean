import StubAssist.Proofs.Prompt.History
import StubAssist.Proofs.Prompt.Runs

/-!
# What the host hears

The prompt puts its updates and warnings where the host takes them when it likes.
Nothing is lost on the way and nothing comes out of order: what the host has taken and
what still waits make up all that the turns of the run told, with one warning for each
failed question.
-/

namespace StubAssist
namespace Prompt

def Update.failure? : Update -> Option Text
  | queryFailed message => some message
  | _ => none

def failures (updates : List Update) : List Text :=
  updates.filterMap Update.failure?

theorem failures_append (earlier later : List Update) :
    failures (earlier ++ later) = failures earlier ++ failures later :=
  List.filterMap_append

theorem State.Allows.warning_eq
    {debounce now : Nat} {state next : State} {turn : Turn} {effect : Effect}
    (hallows : Allows debounce now state turn next effect) :
    effect.warning.toList = failures effect.updates := by
  cases hallows with
  | changed value => rfl
  | selected hitem => rfl
  | ignored hitem => rfl
  | cancelled hturn => rfl
  | raised hpending => rfl
  | asked hflight => rfl
  | answered result hflight =>
      cases result with
      | ok items => rfl
      | error error => rfl

namespace History

def updates (history : List Moment) : List Update :=
  history.flatMap (·.effect.updates)

@[simp] theorem updates_nil : updates [] = [] := rfl

theorem updates_concat (history : List Moment) (moment : Moment) :
    updates (history ++ [moment]) = updates history ++ moment.effect.updates := by
  simp [updates]

end History

namespace Session

variable {ω : Type}

/-!
# One step
-/

/-- A step that tells these updates, and warns of the failures among them. -/
structure Tells (session next : Session ω) (told : List Update) : Prop where
  updates : next.updates = session.updates ++ told
  warnings : next.warnings = session.warnings ++ failures told
  history : History.updates next.history = History.updates session.history ++ told

theorem tells_nothing
    {session next : Session ω} (hupdates : next.updates = session.updates)
    (hwarnings : next.warnings = session.warnings)
    (hhistory : next.history = session.history) :
    Tells session next [] := by
  constructor
  · rw [hupdates, List.append_nil]
  · rw [hwarnings]
    exact (List.append_nil session.warnings).symm
  · rw [hhistory, List.append_nil]

theorem tells_perform
    (session : Session ω) (turn : Option Turn) (state : State) {effect : Effect}
    (hwarning : effect.warning.toList = failures effect.updates) :
    Tells session (session.perform turn state effect) effect.updates := by
  constructor
  · rfl
  · rw [← hwarning]
    rfl
  · rw [perform_history, History.updates_concat]
    rfl

theorem exists_tells_take (session : Session ω) (turn : Turn) :
    exists told, Tells session (session.take turn) told := by
  rcases take_cases session turn with hsame | ⟨next, effect, _, hallows, hperform⟩
  · rw [hsame]
    exact ⟨[], tells_nothing rfl rfl rfl⟩
  · rw [hperform]
    exact ⟨effect.updates, tells_perform session (some turn) next hallows.warning_eq⟩

theorem step_tells
    {session next : Session ω} (hstep : Step session next) :
    next = session.takeUpdates.2 ∨ next = session.takeWarnings.2 ∨
      exists told, Tells session next told := by
  cases hstep with
  | takeUpdates =>
      exact Or.inl rfl
  | takeWarnings =>
      exact Or.inr (Or.inl rfl)
  | send event hopen =>
      refine Or.inr (Or.inr ⟨[], ?_⟩)
      unfold send
      split <;> exact tells_nothing rfl rfl rfl
  | close =>
      exact Or.inr (Or.inr ⟨[], tells_nothing rfl rfl rfl⟩)
  | wait hinstant =>
      exact Or.inr (Or.inr ⟨[], tells_nothing rfl rfl rfl⟩)
  | begin =>
      refine Or.inr (Or.inr ?_)
      unfold begin
      split
      · exact ⟨_, tells_perform session none _ rfl⟩
      · exact ⟨[], tells_nothing rfl rfl rfl⟩
  | @event event rest hbegun hqueue =>
      rcases exists_tells_take (session.withQueue rest) (.event event) with ⟨told, htells⟩
      exact Or.inr (Or.inr ⟨told, htells.updates, htells.warnings, htells.history⟩)
  | closed hbegun hqueue hclosed =>
      exact Or.inr (Or.inr (exists_tells_take session _))
  | deadline hbegun hpending hdue =>
      exact Or.inr (Or.inr (exists_tells_take session _))
  | asking hbegun =>
      exact Or.inr (Or.inr (exists_tells_take session _))
  | answer hbegun harrival hdue =>
      exact Or.inr (Or.inr (exists_tells_take session _))

theorem exists_told_of_step
    {session next : Session ω} (hstep : Step session next)
    (hupdates : session.updates <+: next.updates) :
    exists told, next.updates = session.updates ++ told ∧
      History.updates next.history = History.updates session.history ++ told := by
  rcases step_tells hstep with hnext | hnext | ⟨told, htells⟩
  · rw [hnext] at hupdates
    rw [hnext, List.prefix_nil.mp hupdates]
    exact ⟨[], rfl, (List.append_nil _).symm⟩
  · rw [hnext]
    exact ⟨[], (List.append_nil _).symm, (List.append_nil _).symm⟩
  · exact ⟨told, htells.updates, htells.history⟩

theorem exists_failed_of_step
    {session next : Session ω} (hstep : Step session next)
    (hwarnings : session.warnings <+: next.warnings) :
    exists failed, next.warnings = session.warnings ++ failed ∧
      failures (History.updates next.history) =
        failures (History.updates session.history) ++ failed := by
  rcases step_tells hstep with hnext | hnext | ⟨told, htells⟩
  · rw [hnext]
    exact ⟨[], (List.append_nil _).symm, (List.append_nil _).symm⟩
  · rw [hnext] at hwarnings
    rw [hnext, List.prefix_nil.mp hwarnings]
    exact ⟨[], rfl, (List.append_nil _).symm⟩
  · refine ⟨failures told, htells.warnings, ?_⟩
    rw [htells.history, failures_append]

/-!
# Whole runs
-/

/-- A run of `first` in which the host takes these updates and warnings, and no others. -/
inductive Hears (first : Session ω) : List Update -> List Text -> Session ω -> Prop where
  | start : Hears first [] [] first
  | takeUpdates {taken : List Update} {warned : List Text} {session : Session ω}
      (hhears : Hears first taken warned session) :
      Hears first (taken ++ session.takeUpdates.1) warned session.takeUpdates.2
  | takeWarnings {taken : List Update} {warned : List Text} {session : Session ω}
      (hhears : Hears first taken warned session) :
      Hears first taken (warned ++ session.takeWarnings.1) session.takeWarnings.2
  | step {taken : List Update} {warned : List Text} {session next : Session ω}
      (hhears : Hears first taken warned session) (hstep : Step session next)
      (hupdates : session.updates <+: next.updates)
      (hwarnings : session.warnings <+: next.warnings) :
      Hears first taken warned next

theorem exists_hears_of_reaches
    {first session : Session ω} (hreaches : Reaches first session) :
    exists taken warned, Hears first taken warned session := by
  induction hreaches with
  | refl =>
      exact ⟨[], [], Hears.start⟩
  | tail _ hstep ih =>
      rcases ih with ⟨taken, warned, hhears⟩
      rcases step_tells hstep with hnext | hnext | ⟨told, htells⟩
      · rw [hnext]
        exact ⟨_, _, hhears.takeUpdates⟩
      · rw [hnext]
        exact ⟨_, _, hhears.takeWarnings⟩
      · refine ⟨taken, warned, hhears.step hstep ?_ ?_⟩
        · rw [htells.updates]
          exact List.prefix_append _ _
        · rw [htells.warnings]
          exact List.prefix_append _ _

/-- What was taken and what still waits is all that was told, and a warning for each failure. -/
structure IsHeard (taken : List Update) (warned : List Text) (session : Session ω) :
    Prop where
  updates : taken ++ session.updates = History.updates session.history
  warnings : warned ++ session.warnings = failures (History.updates session.history)

theorem isHeard_step
    {taken : List Update} {warned : List Text} {session next : Session ω}
    (hheard : IsHeard taken warned session) (hstep : Step session next)
    (hupdates : session.updates <+: next.updates)
    (hwarnings : session.warnings <+: next.warnings) :
    IsHeard taken warned next := by
  rcases exists_told_of_step hstep hupdates with ⟨told, htold, hhistory⟩
  rcases exists_failed_of_step hstep hwarnings with ⟨failed, hfailed, hfailures⟩
  constructor
  · rw [htold, hhistory, ← hheard.updates, List.append_assoc]
  · rw [hfailed, hfailures, ← hheard.warnings, List.append_assoc]

theorem Hears.isHeard
    {settings : PromptSettings} {index : SymbolIndex ω} {world : ω} {taken : List Update}
    {warned : List Text} {session : Session ω}
    (hhears : Hears (new settings index world) taken warned session) :
    IsHeard taken warned session := by
  induction hhears with
  | start =>
      exact ⟨rfl, rfl⟩
  | takeUpdates _ ih =>
      exact ⟨(List.append_nil _).trans ih.updates, ih.warnings⟩
  | takeWarnings _ ih =>
      exact ⟨ih.updates, (List.append_nil _).trans ih.warnings⟩
  | step _ hstep hupdates hwarnings ih =>
      exact isHeard_step ih hstep hupdates hwarnings

end Session
end Prompt
end StubAssist

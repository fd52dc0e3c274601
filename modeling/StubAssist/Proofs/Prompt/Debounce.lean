import StubAssist.Proofs.Prompt.DueTimes
import StubAssist.Proofs.Prompt.Script

/-!
# The law of the pause

A prompt that plays a script asks for the values that outlast the pause, each at
the end of it, and shows the answers for the values that outlast the pause and the
answer, each at its arrival.  The invariant says so of the history up to the present
instant and tells from the state what became of the latest value.
-/

namespace StubAssist
namespace Prompt

open History

/-!
# Histories up to an instant
-/

/--
The history handled these signals, asked all that was due before `asking` and showed
all that was due before `showing`.
-/
structure Keeps (debounce : Nat) (reply : Text -> Reply) (handled : List (Nat × Signal))
    (asking showing : Nat) (history : List Moment) : Prop where
  signals : timed Moment.signal? history = handled
  questions : timed Moment.question? history =
    dueQuestions debounce reply (some asking) (timed Moment.change? history)
  lists : timed Moment.list? history =
    dueLists debounce reply (some showing) (timed Moment.change? history)

namespace Keeps

variable {debounce : Nat} {reply : Text -> Reply} {handled : List (Nat × Signal)}
  {asking showing : Nat} {history : List Moment} {moment : Moment}

theorem concat_quiet
    (hkeeps : Keeps debounce reply handled asking showing history)
    (hquiet : moment.IsQuiet) (hsignal : moment.signal? = none) :
    Keeps debounce reply handled asking showing (history ++ [moment]) where
  signals := by
    rw [timed_concat_of_none history hsignal]
    exact hkeeps.signals
  questions := by
    rw [timed_concat_of_none history hquiet.question,
      timed_concat_of_none history hquiet.change]
    exact hkeeps.questions
  lists := by
    rw [timed_concat_of_none history hquiet.list,
      timed_concat_of_none history hquiet.change]
    exact hkeeps.lists

theorem concat_signal
    {signal : Signal} (hkeeps : Keeps debounce reply handled asking showing history)
    (hquiet : moment.IsQuiet) (hsignal : moment.signal? = some signal) :
    Keeps debounce reply (handled ++ [(moment.instant, signal)]) asking showing
      (history ++ [moment]) where
  signals := by
    rw [timed_concat_of_some history hsignal, hkeeps.signals]
  questions := by
    rw [timed_concat_of_none history hquiet.question,
      timed_concat_of_none history hquiet.change]
    exact hkeeps.questions
  lists := by
    rw [timed_concat_of_none history hquiet.list,
      timed_concat_of_none history hquiet.change]
    exact hkeeps.lists

theorem concat_change
    {signal : Signal} {value : Text}
    (hkeeps : Keeps debounce reply handled moment.instant moment.instant history)
    (hchange : moment.change? = some value) (hquestion : moment.question? = none)
    (hlist : moment.list? = none) (hsignal : moment.signal? = some signal) :
    Keeps debounce reply (handled ++ [(moment.instant, signal)])
      moment.instant moment.instant (history ++ [moment]) where
  signals := by
    rw [timed_concat_of_some history hsignal, hkeeps.signals]
  questions := by
    rw [timed_concat_of_none history hquestion, timed_concat_of_some history hchange,
      hkeeps.questions]
    unfold dueQuestions
    rw [outlasting_concat, outlasting_singleton]
    simp
  lists := by
    rw [timed_concat_of_none history hlist, timed_concat_of_some history hchange,
      hkeeps.lists]
    unfold dueLists
    rw [outlasting_concat, outlasting_singleton]
    simp

theorem concat_question
    {instant later : Nat} {value : Text}
    (hkeeps : Keeps debounce reply handled asking showing history)
    (hlatest : (timed Moment.change? history).getLast? = some (instant, value))
    (hbefore : asking ≤ instant + debounce) (hafter : instant + debounce < later)
    (hinstant : moment.instant = instant + debounce)
    (hquestion : moment.question? = some (value, reply value))
    (hchange : moment.change? = none) (hlist : moment.list? = none)
    (hsignal : moment.signal? = none) :
    Keeps debounce reply handled later showing (history ++ [moment]) where
  signals := by
    rw [timed_concat_of_none history hsignal]
    exact hkeeps.signals
  questions := by
    rw [timed_concat_of_some history hquestion, timed_concat_of_none history hchange,
      hkeeps.questions, hinstant]
    exact (outlasting_of_due hlatest hbefore hafter).symm
  lists := by
    rw [timed_concat_of_none history hlist, timed_concat_of_none history hchange]
    exact hkeeps.lists

theorem concat_list
    {instant later : Nat} {value : Text}
    (hkeeps : Keeps debounce reply handled asking showing history)
    (hlatest : (timed Moment.change? history).getLast? = some (instant, value))
    (hbefore : showing ≤ instant + (debounce + (reply value).millis))
    (hafter : instant + (debounce + (reply value).millis) < later)
    (hinstant : moment.instant = instant + (debounce + (reply value).millis))
    (hlist : moment.list? = some (answerUpdates (reply value).interfaces))
    (hchange : moment.change? = none) (hquestion : moment.question? = none)
    (hsignal : moment.signal? = none) :
    Keeps debounce reply handled asking later (history ++ [moment]) where
  signals := by
    rw [timed_concat_of_none history hsignal]
    exact hkeeps.signals
  questions := by
    rw [timed_concat_of_none history hquestion, timed_concat_of_none history hchange]
    exact hkeeps.questions
  lists := by
    rw [timed_concat_of_some history hlist, timed_concat_of_none history hchange,
      hkeeps.lists, hinstant]
    exact (outlasting_of_due hlatest hbefore hafter).symm

theorem of_no_change
    (asking' showing' : Nat)
    (hkeeps : Keeps debounce reply handled asking showing history)
    (hchanges : timed Moment.change? history = []) :
    Keeps debounce reply handled asking' showing' history where
  signals := hkeeps.signals
  questions := by
    rw [hkeeps.questions, hchanges]
    rfl
  lists := by
    rw [hkeeps.lists, hchanges]
    rfl

theorem of_asking_same_side
    {instant later : Nat} {value : Text}
    (hkeeps : Keeps debounce reply handled asking showing history)
    (hlatest : (timed Moment.change? history).getLast? = some (instant, value))
    (hside : instant + debounce < asking ↔ instant + debounce < later) :
    Keeps debounce reply handled later showing history where
  signals := hkeeps.signals
  questions := hkeeps.questions.trans (outlasting_of_same_side hlatest hside).symm
  lists := hkeeps.lists

theorem of_showing_same_side
    {instant later : Nat} {value : Text}
    (hkeeps : Keeps debounce reply handled asking showing history)
    (hlatest : (timed Moment.change? history).getLast? = some (instant, value))
    (hside : instant + (debounce + (reply value).millis) < showing ↔
      instant + (debounce + (reply value).millis) < later) :
    Keeps debounce reply handled asking later history where
  signals := hkeeps.signals
  questions := hkeeps.questions
  lists := hkeeps.lists.trans (outlasting_of_same_side hlatest hside).symm

end Keeps

namespace Session

variable {ω : Type}

/-!
# The invariant
-/

/-- What became of the latest value, as the state tells it. -/
inductive Progress (debounce : Nat) (reply : Text -> Reply) (asking showing : Nat)
    (session : Session ω) : Prop where
  | untouched
      (hchanges : timed Moment.change? session.history = [])
      (hpending : session.state.pending = none)
      (hflight : session.state.inFlight = none)
      (harrival : session.arrival = none)
  | waiting {instant : Nat} {value : Text}
      (hlatest : (timed Moment.change? session.history).getLast? = some (instant, value))
      (hpending : session.state.pending = some ⟨instant + debounce, value⟩)
      (hflight : session.state.inFlight = none)
      (harrival : session.arrival = none)
      (hnow : session.now ≤ instant + debounce)
      (hasking : asking ≤ instant + debounce)
      (hshowing : showing ≤ instant + (debounce + (reply value).millis))
  | asked {instant : Nat} {value : Text}
      (hlatest : (timed Moment.change? session.history).getLast? = some (instant, value))
      (hpending : session.state.pending = none)
      (hflight : session.state.inFlight = some ⟨value, true⟩)
      (harrival : session.arrival =
        some ⟨instant + (debounce + (reply value).millis), (reply value).interfaces⟩)
      (hnow : session.now ≤ instant + (debounce + (reply value).millis))
      (hasking : instant + debounce < asking)
      (hshowing : showing ≤ instant + (debounce + (reply value).millis))
  | shown {instant : Nat} {value : Text}
      (hlatest : (timed Moment.change? session.history).getLast? = some (instant, value))
      (hpending : session.state.pending = none)
      (hflight : session.state.inFlight = none)
      (harrival : session.arrival = none)
      (hasking : instant + debounce < asking)
      (hshowing : instant + (debounce + (reply value).millis) < showing)

theorem Progress.perform_quiet
    {debounce asking showing : Nat} {reply : Text -> Reply} {session : Session ω}
    {turn : Option Turn} {effect : Effect}
    (hprogress : Progress debounce reply asking showing session)
    (hquiet : (session.moment turn effect).IsQuiet) (hquery : effect.query = none) :
    Progress debounce reply asking showing
      (session.perform turn session.state effect) := by
  have hchanges : timed Moment.change? (session.perform turn session.state effect).history =
      timed Moment.change? session.history := by
    rw [perform_history, timed_concat_of_none _ hquiet.change]
  have harrives : (session.perform turn session.state effect).arrival =
      if session.state.inFlight.isNone then none else session.arrival := by
    rw [perform_arrival, hquery]
    rfl
  cases hprogress with
  | untouched hnone hpending hflight harrival =>
      rw [hflight] at harrives
      exact Progress.untouched (hchanges.trans hnone) hpending hflight harrives
  | waiting hlatest hpending hflight harrival hnow hasking hshowing =>
      rw [hflight] at harrives
      exact Progress.waiting ((congrArg List.getLast? hchanges).trans hlatest) hpending hflight
        harrives hnow hasking hshowing
  | asked hlatest hpending hflight harrival hnow hasking hshowing =>
      rw [hflight] at harrives
      exact Progress.asked ((congrArg List.getLast? hchanges).trans hlatest) hpending hflight
        (harrives.trans harrival) hnow hasking hshowing
  | shown hlatest hpending hflight harrival hasking hshowing =>
      rw [hflight] at harrives
      exact Progress.shown ((congrArg List.getLast? hchanges).trans hlatest) hpending hflight
        harrives hasking hshowing

theorem Progress.asking_le
    {debounce asking showing : Nat} {reply : Text -> Reply} {session : Session ω}
    {pending : Pending} (hprogress : Progress debounce reply asking showing session)
    (hpending : session.state.pending = some pending) :
    asking ≤ pending.deadline := by
  cases hprogress with
  | waiting hlatest hpending' hflight harrival hnow hasking hshowing =>
      rw [hpending'] at hpending
      cases hpending
      exact hasking
  | untouched _ hpending' => simp [hpending'] at hpending
  | asked _ hpending' => simp [hpending'] at hpending
  | shown _ hpending' => simp [hpending'] at hpending

theorem Progress.showing_le
    {debounce asking showing : Nat} {reply : Text -> Reply} {session : Session ω}
    {arrival : Arrival} (hprogress : Progress debounce reply asking showing session)
    (harrival : session.arrival = some arrival) :
    showing ≤ arrival.instant := by
  cases hprogress with
  | asked hlatest hpending hflight harrival' hnow hasking hshowing =>
      rw [harrival'] at harrival
      cases harrival
      exact hshowing
  | untouched _ _ _ harrival' => simp [harrival'] at harrival
  | waiting _ _ _ harrival' => simp [harrival'] at harrival
  | shown _ _ _ harrival' => simp [harrival'] at harrival

structure UpTo (debounce : Nat) (reply : Text -> Reply) (handled : List (Nat × Signal))
    (asking showing : Nat) (session : Session ω) : Prop where
  attentive : session.IsAttentive
  pause : session.settings.debounceMillis = debounce
  replies : forall world keyword, (session.index.ask world keyword).1 = reply keyword
  keeps : Keeps debounce reply handled asking showing session.history
  unended : ending? session.history = none
  progress : Progress debounce reply asking showing session

structure EndsAt (debounce : Nat) (reply : Text -> Reply) (handled : List (Nat × Signal))
    (ending : Nat) (session : Session ω) : Prop where
  finished : session.isFinished = true
  keeps : Keeps debounce reply handled ending ending session.history
  ended : ending? session.history = some ending

/-!
# Letting time pass
-/

theorem passDeadline_of_due
    {session : Session ω} {pending : Pending} {limit : Nat}
    (hrunning : session.isFinished = false)
    (hpending : session.state.pending = some pending)
    (hdue : pending.deadline ≤ limit) :
    session.passDeadline limit =
      ((session.movedTo (max session.now pending.deadline)).take .deadline).take
        .asking := by
  unfold passDeadline
  simp [hpending, hdue, hrunning]

theorem passDeadline_of_not_due
    {session : Session ω} {limit : Nat}
    (hnone : forall pending, session.state.pending = some pending ->
      limit < pending.deadline) :
    session.passDeadline limit = session := by
  unfold passDeadline
  split
  · rename_i pending hpending
    have hlate := Nat.not_le.mpr (hnone pending hpending)
    simp [hlate]
  · rfl

theorem passArrival_of_due
    {session : Session ω} {arrival : Arrival} {limit : Nat}
    (hrunning : session.isFinished = false)
    (harrival : session.arrival = some arrival)
    (hdue : arrival.instant ≤ limit) :
    session.passArrival limit =
      (session.movedTo (max session.now arrival.instant)).take
        (.answer arrival.result) := by
  unfold passArrival
  simp [harrival, hdue, hrunning]

theorem passArrival_of_not_due
    {session : Session ω} {limit : Nat}
    (hnone : forall arrival, session.arrival = some arrival ->
      limit < arrival.instant) :
    session.passArrival limit = session := by
  unfold passArrival
  split
  · rename_i arrival harrival
    have hlate := Nat.not_le.mpr (hnone arrival harrival)
    simp [hlate]
  · rfl

theorem IsAttentive.perform
    {session : Session ω} {turn : Option Turn} {state : State} {effect : Effect}
    (hattentive : session.IsAttentive) (hbegun : state.phase ≠ .idle)
    (houtcome : effect.outcome = none) :
    (session.perform turn state effect).IsAttentive where
  begun := hbegun
  running := by
    rw [perform_outcome, hattentive.running, houtcome]
    rfl
  opened := hattentive.opened
  handled := hattentive.handled

section Passing

variable {debounce : Nat} {reply : Text -> Reply} {handled : List (Nat × Signal)}
  {asking showing bound limit : Nat} {session : Session ω}

theorem upTo_movedTo
    {instant : Nat} (hupTo : UpTo debounce reply handled asking showing session)
    (hpending : forall pending, session.state.pending = some pending ->
      instant ≤ pending.deadline)
    (harrival : forall arrival, session.arrival = some arrival ->
      instant ≤ arrival.instant) :
    UpTo debounce reply handled asking showing (session.movedTo instant) where
  attentive := ⟨hupTo.attentive.begun, hupTo.attentive.running, hupTo.attentive.opened,
    hupTo.attentive.handled⟩
  pause := hupTo.pause
  replies := hupTo.replies
  keeps := hupTo.keeps
  unended := hupTo.unended
  progress := by
    cases hupTo.progress with
    | untouched hchanges hpending' hflight harrival' =>
        exact Progress.untouched hchanges hpending' hflight harrival'
    | waiting hlatest hpending' hflight harrival' hnow hasking hshowing =>
        exact Progress.waiting hlatest hpending' hflight harrival'
          (hpending _ hpending') hasking hshowing
    | asked hlatest hpending' hflight harrival' hnow hasking hshowing =>
        exact Progress.asked hlatest hpending' hflight harrival'
          (harrival _ harrival') hasking hshowing
    | shown hlatest hpending' hflight harrival' hasking hshowing =>
        exact Progress.shown hlatest hpending' hflight harrival' hasking hshowing

theorem upTo_ask
    {instant : Nat} {value : Text}
    (hupTo : UpTo debounce reply handled asking showing session)
    (hlatest : (timed Moment.change? session.history).getLast? = some (instant, value))
    (hpending : session.state.pending = some ⟨instant + debounce, value⟩)
    (hnow : session.now = instant + debounce)
    (hasking : asking ≤ instant + debounce) (hbound : instant + debounce < bound)
    (hshowing : showing ≤ instant + (debounce + (reply value).millis)) :
    UpTo debounce reply handled bound showing
      ((session.take .deadline).take .asking) := by
  have hraise := take_of_allows hupTo.attentive.isFinished_eq_false
    (State.Allows.raised hpending)
  have hraised : (session.take .deadline).IsAttentive := by
    rw [hraise]
    exact hupTo.attentive.perform Phase.noConfusion rfl
  have hflight : (session.take .deadline).state.inFlight = some ⟨value, false⟩ := by
    rw [hraise]
    rfl
  have hask := take_of_allows hraised.isFinished_eq_false (State.Allows.asked hflight)
  rw [hask]
  rw [hraise] at hraised ⊢
  have hquiet : (session.moment (some .deadline)
      (session.state.raise ⟨instant + debounce, value⟩).2).IsQuiet :=
    moment_isQuiet (by intro value hvalue; cases hvalue) rfl rfl
  have hlatest' := (congrArg List.getLast?
    (timed_concat_of_none session.history hquiet.change)).trans hlatest
  exact
    { attentive := hraised.perform hraised.begun rfl
      pause := hupTo.pause
      replies := hupTo.replies
      keeps := by
        apply (hupTo.keeps.concat_quiet hquiet rfl).concat_question hlatest' hasking hbound
          hnow ?_ rfl rfl rfl
        show some (value, (session.index.ask session.world value).1) = _
        rw [hupTo.replies]
      unended := by
        rw [perform_history, ending?_concat_of_none _ rfl, perform_history,
          ending?_concat_of_none _ rfl]
        exact hupTo.unended
      progress := by
        refine Progress.asked ?_ rfl rfl ?_ ?_ hbound hshowing
        · rw [perform_history, timed_concat_of_none _ rfl]
          exact hlatest'
        · show some (⟨session.now + (session.index.ask session.world value).1.millis,
            (session.index.ask session.world value).1.interfaces⟩ : Arrival) = _
          rw [hupTo.replies, hnow, Nat.add_assoc]
        · rw [perform_now, perform_now, hnow, ← Nat.add_assoc]
          exact Nat.le_add_right _ _ }

theorem upTo_answer
    {instant : Nat} {value : Text}
    (hupTo : UpTo debounce reply handled asking showing session)
    (hlatest : (timed Moment.change? session.history).getLast? = some (instant, value))
    (hpending : session.state.pending = none)
    (hflight : session.state.inFlight = some ⟨value, true⟩)
    (hnow : session.now = instant + (debounce + (reply value).millis))
    (hasking : instant + debounce < asking)
    (hshowing : showing ≤ instant + (debounce + (reply value).millis))
    (hbound : instant + (debounce + (reply value).millis) < bound) :
    UpTo debounce reply handled asking bound
      (session.take (.answer (reply value).interfaces)) := by
  have hanswer := take_of_allows hupTo.attentive.isFinished_eq_false
    (State.Allows.answered (reply value).interfaces hflight)
  have hbegun : (session.state.showResults (reply value).interfaces).1.phase ≠ .idle := by
    rw [State.showResults_phase]
    exact Phase.noConfusion
  have hrunning := State.showResults_outcome session.state (reply value).interfaces
  have hsettled := State.showResults_inFlight session.state (reply value).interfaces
  rw [hanswer]
  exact
    { attentive := hupTo.attentive.perform hbegun hrunning
      pause := hupTo.pause
      replies := hupTo.replies
      keeps := by
        apply hupTo.keeps.concat_list hlatest hshowing hbound hnow
          (Moment.list?_of_updates (showResults_updates _ _)) rfl ?_ rfl
        simp [Moment.question?, moment]
      unended := by
        rw [perform_history, ending?_concat_of_none _ hrunning]
        exact hupTo.unended
      progress := by
        refine Progress.shown ?_ ((State.showResults_pending _ _).trans hpending) hsettled
          ?_ hasking hbound
        · rw [perform_history, timed_concat_of_none _ rfl]
          exact hlatest
        · rw [perform_arrival, hsettled]
          rfl }

theorem upTo_passDeadline
    (hupTo : UpTo debounce reply handled asking showing session)
    (hbound : asking ≤ bound)
    (hdue : forall pending, session.state.pending = some pending ->
      (pending.deadline ≤ limit ↔ pending.deadline < bound)) :
    UpTo debounce reply handled bound showing (session.passDeadline limit) := by
  cases hupTo.progress with
  | untouched hchanges hpending hflight harrival =>
      rw [passDeadline_of_not_due (by simp [hpending])]
      exact { hupTo with
        keeps := hupTo.keeps.of_no_change bound showing hchanges
        progress := Progress.untouched hchanges hpending hflight harrival }
  | @waiting instant value hlatest hpending hflight harrival hnow hasking hshowing =>
      have hside := hdue _ hpending
      -- the deadline has passed with the limit exactly if it comes before the new bound
      by_cases hpast : instant + debounce ≤ limit
      · have hrunning := hupTo.attentive.isFinished_eq_false
        have hmax : max session.now (instant + debounce) = instant + debounce :=
          Nat.max_eq_right hnow
        have hmoved : UpTo debounce reply handled asking showing
            (session.movedTo (instant + debounce)) := by
          apply upTo_movedTo hupTo
          · intro pending hsome
            rw [hpending] at hsome
            cases hsome
            exact Nat.le_refl (instant + debounce)
          · intro arrival hsome
            rw [harrival] at hsome
            cases hsome
        rw [passDeadline_of_due hrunning hpending hpast, hmax]
        exact upTo_ask hmoved hlatest hpending rfl hasking (hside.mp hpast) hshowing
      · have hlate : bound ≤ instant + debounce :=
          Nat.not_lt.mp fun h => hpast (hside.mpr h)
        have hsame : session.passDeadline limit = session := by
          apply passDeadline_of_not_due
          intro pending hsome
          rw [hpending] at hsome
          cases hsome
          exact Nat.not_le.mp hpast
        rw [hsame]
        exact { hupTo with
          keeps := hupTo.keeps.of_asking_same_side hlatest
            (iff_of_false (Nat.not_lt.mpr hasking) (Nat.not_lt.mpr hlate))
          progress := Progress.waiting hlatest hpending hflight harrival hnow hlate hshowing }
  | asked hlatest hpending hflight harrival hnow hasking hshowing =>
      -- what was asked before the old bound was asked before the new one
      have hlater := Nat.lt_of_lt_of_le hasking hbound
      rw [passDeadline_of_not_due (by simp [hpending])]
      exact { hupTo with
        keeps := hupTo.keeps.of_asking_same_side hlatest (iff_of_true hasking hlater)
        progress := Progress.asked hlatest hpending hflight harrival hnow hlater hshowing }
  | shown hlatest hpending hflight harrival hasking hshowing =>
      have hlater := Nat.lt_of_lt_of_le hasking hbound
      rw [passDeadline_of_not_due (by simp [hpending])]
      exact { hupTo with
        keeps := hupTo.keeps.of_asking_same_side hlatest (iff_of_true hasking hlater)
        progress := Progress.shown hlatest hpending hflight harrival hlater hshowing }

theorem upTo_passArrival
    (hupTo : UpTo debounce reply handled bound showing session)
    (hbound : showing ≤ bound)
    (hdue : forall arrival, session.arrival = some arrival ->
      (arrival.instant ≤ limit ↔ arrival.instant < bound)) :
    UpTo debounce reply handled bound bound (session.passArrival limit) := by
  cases hupTo.progress with
  | untouched hchanges hpending hflight harrival =>
      rw [passArrival_of_not_due (by simp [harrival])]
      exact { hupTo with
        keeps := hupTo.keeps.of_no_change bound bound hchanges
        progress := Progress.untouched hchanges hpending hflight harrival }
  | @waiting instant value hlatest hpending hflight harrival hnow hasking hshowing =>
      have hlate : bound ≤ instant + (debounce + (reply value).millis) := by omega
      rw [passArrival_of_not_due (by simp [harrival])]
      exact { hupTo with
        keeps := hupTo.keeps.of_showing_same_side hlatest
          (iff_of_false (Nat.not_lt.mpr hshowing) (Nat.not_lt.mpr hlate))
        progress := Progress.waiting hlatest hpending hflight harrival hnow hasking hlate }
  | @asked instant value hlatest hpending hflight harrival hnow hasking hshowing =>
      have hside := hdue _ harrival
      -- an answer comes with the limit exactly if it is due before the new bound
      by_cases hpast : instant + (debounce + (reply value).millis) ≤ limit
      · have hrunning := hupTo.attentive.isFinished_eq_false
        have hmoved : UpTo debounce reply handled bound showing
            (session.movedTo (instant + (debounce + (reply value).millis))) := by
          apply upTo_movedTo hupTo
          · intro pending hsome
            rw [hpending] at hsome
            cases hsome
          · intro arrival hsome
            rw [harrival] at hsome
            cases hsome
            exact Nat.le_refl _
        rw [passArrival_of_due hrunning harrival hpast, Nat.max_eq_right hnow]
        exact upTo_answer hmoved hlatest hpending hflight rfl hasking hshowing
          (hside.mp hpast)
      · have hlate : bound ≤ instant + (debounce + (reply value).millis) :=
          Nat.not_lt.mp fun h => hpast (hside.mpr h)
        have hsame : session.passArrival limit = session := by
          apply passArrival_of_not_due
          intro arrival hsome
          rw [harrival] at hsome
          cases hsome
          exact Nat.not_le.mp hpast
        rw [hsame]
        exact { hupTo with
          keeps := hupTo.keeps.of_showing_same_side hlatest
            (iff_of_false (Nat.not_lt.mpr hshowing) (Nat.not_lt.mpr hlate))
          progress := Progress.asked hlatest hpending hflight harrival hnow hasking hlate }
  | shown hlatest hpending hflight harrival hasking hshowing =>
      have hlater := Nat.lt_of_lt_of_le hshowing hbound
      rw [passArrival_of_not_due (by simp [harrival])]
      exact { hupTo with
        keeps := hupTo.keeps.of_showing_same_side hlatest (iff_of_true hshowing hlater)
        progress := Progress.shown hlatest hpending hflight harrival hasking hlater }

theorem upTo_runUntil
    (hupTo : UpTo debounce reply handled asking asking session)
    (hasking : asking ≤ bound) (hlimit : limit ≤ bound)
    (hdeadline : forall pending, session.state.pending = some pending ->
      (pending.deadline ≤ limit ↔ pending.deadline < bound))
    (harrival : forall arrival, (session.passDeadline limit).arrival = some arrival ->
      (arrival.instant ≤ limit ↔ arrival.instant < bound)) :
    UpTo debounce reply handled bound bound (session.runUntil limit) := by
  have hasked := upTo_passDeadline hupTo hasking hdeadline
  have hshown := upTo_passArrival hasked hasking harrival
  rw [runUntil_of_isAttentive hupTo.attentive]
  apply upTo_movedTo hshown
  · intro pending hpending
    exact Nat.le_trans hlimit (hshown.progress.asking_le hpending)
  · intro arrival harrival
    exact Nat.le_trans hlimit (hshown.progress.showing_le harrival)

/-!
# Handling a signal
-/

theorem upTo_change
    (hupTo : UpTo debounce reply handled session.now session.now session) (value : Text) :
    UpTo debounce reply (handled ++ [(session.now, .event (.valueChanged value))])
      session.now session.now (session.take (.event (.valueChanged value))) := by
  have hchange := take_of_allows hupTo.attentive.isFinished_eq_false
    (State.Allows.changed value)
  have hmoment : (session.moment (some (.event (.valueChanged value)))
      (session.state.change session.now session.settings.debounceMillis value).2).change? =
        some value := rfl
  rw [hchange]
  exact
    { attentive := hupTo.attentive.perform Phase.noConfusion rfl
      pause := hupTo.pause
      replies := hupTo.replies
      keeps := Keeps.concat_change hupTo.keeps hmoment rfl rfl rfl
      unended := by
        rw [perform_history, ending?_concat_of_none _ rfl]
        exact hupTo.unended
      progress := by
        have hlatest := congrArg List.getLast? (timed_concat_of_some session.history hmoment)
        rw [List.getLast?_concat] at hlatest
        have hpending := congrArg (fun pause => some (Pending.mk (session.now + pause) value))
          hupTo.pause
        exact @Progress.waiting _ debounce reply _ _ _ session.now value hlatest hpending
          rfl rfl (Nat.le_add_right _ _) (Nat.le_add_right _ _) (Nat.le_add_right _ _) }

theorem upTo_ignored
    {index : Nat} (hupTo : UpTo debounce reply handled asking showing session)
    (hitem : session.state.items[index]? = none) :
    UpTo debounce reply (handled ++ [(session.now, .event (.select index))])
      asking showing (session.take (.event (.select index))) := by
  have hignored := take_of_allows hupTo.attentive.isFinished_eq_false
    (State.Allows.ignored hitem)
  have hquiet : (session.moment (some (.event (.select index))) Effect.none).IsQuiet :=
    moment_isQuiet (by intro value hvalue; cases hvalue) rfl rfl
  rw [hignored]
  exact
    { attentive := hupTo.attentive.perform hupTo.attentive.begun rfl
      pause := hupTo.pause
      replies := hupTo.replies
      keeps := hupTo.keeps.concat_signal hquiet rfl
      unended := by
        rw [perform_history, ending?_concat_of_none _ rfl]
        exact hupTo.unended
      progress := hupTo.progress.perform_quiet hquiet rfl }

theorem endsAt_of_outcome
    {turn : Turn} {state : State} {effect : Effect} {outcome : Outcome} {signal : Signal}
    (hupTo : UpTo debounce reply handled session.now session.now session)
    (houtcome : effect.outcome = some outcome)
    (hquiet : (session.moment (some turn) effect).IsQuiet)
    (hsignal : (session.moment (some turn) effect).signal? = some signal) :
    EndsAt debounce reply (handled ++ [(session.now, signal)]) session.now
      (session.perform (some turn) state effect) where
  finished := by
    unfold isFinished
    rw [perform_outcome, hupTo.attentive.running, houtcome]
    rfl
  keeps := hupTo.keeps.concat_signal hquiet hsignal
  ended := ending?_concat_of_some hupTo.unended houtcome

theorem upTo_receive
    (hupTo : UpTo debounce reply handled session.now session.now session)
    (signal : Signal) :
    UpTo debounce reply (handled ++ [(session.now, signal)]) session.now session.now
        (session.receive signal) ∨
      EndsAt debounce reply (handled ++ [(session.now, signal)]) session.now
        (session.receive signal) := by
  have hrunning := hupTo.attentive.isFinished_eq_false
  cases signal with
  | event event =>
      rw [receive_event_of_isAttentive hupTo.attentive]
      cases event with
      | valueChanged value =>
          exact Or.inl (upTo_change hupTo value)
      | select index =>
          cases hitem : session.state.items[index]? with
          | none =>
              exact Or.inl (upTo_ignored hupTo hitem)
          | some candidate =>
              rw [take_of_allows hrunning (State.Allows.selected hitem)]
              exact Or.inr (endsAt_of_outcome hupTo rfl
                (moment_isQuiet (by intro value hvalue; cases hvalue) rfl rfl) rfl)
      | dismiss =>
          rw [take_of_allows hrunning (State.Allows.cancelled (Or.inl rfl))]
          exact Or.inr (endsAt_of_outcome hupTo rfl
            (moment_isQuiet (by intro value hvalue; cases hvalue) rfl rfl) rfl)
  | hangUp =>
      have hrunning' : session.close.isFinished = false := hrunning
      have hquiet : (session.moment (some .closed) session.state.cancel.2).IsQuiet :=
        moment_isQuiet (by intro value hvalue; cases hvalue) rfl rfl
      have hended : EndsAt debounce reply (handled ++ [(session.now, .hangUp)]) session.now
          (session.perform (some .closed) session.state.cancel.1 session.state.cancel.2) :=
        endsAt_of_outcome hupTo rfl hquiet rfl
      rw [receive_hangUp_of_isAttentive hupTo.attentive,
        take_of_allows hrunning' (State.Allows.cancelled (Or.inr rfl))]
      exact Or.inr ⟨hended.finished, hended.keeps, hended.ended⟩

/-- A tie is not due, so what is due by an instant is due before it. -/
theorem upTo_runUntil_of_untied
    {instant : Nat}
    (hupTo : UpTo debounce reply handled session.now session.now session)
    (hinstant : session.now ≤ instant) (huntied : ¬ session.FallsDue instant) :
    UpTo debounce reply handled instant instant (session.runUntil instant) := by
  have hrunning := hupTo.attentive.isFinished_eq_false
  apply upTo_runUntil hupTo hinstant (Nat.le_refl instant)
  · intro pending hpending
    have hne : pending.deadline ≠ instant := fun htie =>
      huntied ⟨hrunning, Or.inl ⟨pending, hpending, htie⟩⟩
    exact ⟨fun hle => Nat.lt_of_le_of_ne hle hne, Nat.le_of_lt⟩
  · intro arrival harrival
    have hne : arrival.instant ≠ instant := fun htie =>
      huntied ⟨hrunning, Or.inr ⟨arrival, harrival, htie⟩⟩
    exact ⟨fun hle => Nat.lt_of_le_of_ne hle hne, Nat.le_of_lt⟩

/-!
# Playing a script
-/

theorem EndsAt.of_reaches
    {ending : Nat} {next : Session ω}
    (hends : EndsAt debounce reply handled ending session)
    (hreachable : Reachable session) (hreaches : Reaches session next) :
    EndsAt debounce reply handled ending next := by
  rcases reaches_of_isFinished hreachable hends.finished hreaches with ⟨hfinished, hhistory⟩
  constructor
  · exact hfinished
  · rw [hhistory]
    exact hends.keeps
  · rw [hhistory]
    exact hends.ended

theorem upTo_play
    {script : List (Nat × Signal)}
    (hupTo : UpTo debounce reply handled session.now session.now session)
    (hreachable : Reachable session) (htimely : session.IsTimely script)
    (huntied : session.Untied script) :
    UpTo debounce reply (handled ++ script) (session.play script).now
        (session.play script).now (session.play script) ∨
      exists rest ending, rest <+: script ∧
        EndsAt debounce reply (handled ++ rest) ending (session.play script) := by
  induction script generalizing session handled with
  | nil =>
      rw [List.append_nil]
      exact Or.inl hupTo
  | cons due rest ih =>
      rcases due with ⟨instant, signal⟩
      rcases isTimely_cons htimely with ⟨hinstant, hrest⟩
      rcases huntied with ⟨hfree, huntied⟩
      have hopen : session.StaysOpen := fun _ => hupTo.attentive.opened
      rcases reaches_deliver signal hreachable hinstant hopen with ⟨hdeliver, hopen'⟩
      have hnext := hreachable.trans hdeliver
      have hrun : UpTo debounce reply handled (session.runUntil instant).now
          (session.runUntil instant).now (session.runUntil instant) :=
        upTo_runUntil_of_untied hupTo hinstant hfree
      rcases upTo_receive hrun signal with hgoes | hends
      · have hnow : (session.deliver instant signal).now = instant := receive_now _ signal
        have hdelivered : UpTo debounce reply (handled ++ [(instant, signal)])
            (session.deliver instant signal).now (session.deliver instant signal).now
            (session.deliver instant signal) := by
          rw [hnow]
          exact hgoes
        rcases ih hdelivered hnext hrest huntied with hplayed | ⟨part, ending, hpart, hends⟩
        · rw [List.append_assoc] at hplayed
          exact Or.inl hplayed
        · rw [List.append_assoc] at hends
          exact Or.inr ⟨(instant, signal) :: part, ending,
            List.cons_prefix_cons.mpr ⟨rfl, hpart⟩, hends⟩
      · have hplay := reaches_play hnext hrest hopen'
        exact Or.inr ⟨[(instant, signal)], instant,
          List.cons_prefix_cons.mpr ⟨rfl, List.nil_prefix⟩,
          EndsAt.of_reaches hends hnext hplay⟩

end Passing

/-!
# The law
-/

/--
What the history of a script shows by `horizon`, and when: the questions and the
lists are those that fall due, and the run handles the whole script unless it ends.
-/
structure ObeysPause (debounce : Nat) (reply : Text -> Reply)
    (script : List (Nat × Signal)) (horizon : Nat) (history : List Moment) : Prop where
  signals : timed Moment.signal? history <+: script
  complete : ending? history = none -> timed Moment.signal? history = script
  questions : timed Moment.question? history =
    (dueQuestions debounce reply (ending? history)
      (timed Moment.change? history)).filter (·.1 ≤ horizon)
  lists : timed Moment.list? history =
    (dueLists debounce reply (ending? history)
      (timed Moment.change? history)).filter (·.1 ≤ horizon)

theorem UpTo.obeysPause
    {debounce horizon : Nat} {reply : Text -> Reply} {script : List (Nat × Signal)}
    {session : Session ω}
    (hupTo : UpTo debounce reply script (horizon + 1) (horizon + 1) session)
    (hpast : forall moment, moment ∈ session.history -> moment.instant ≤ horizon) :
    ObeysPause debounce reply script horizon session.history := by
  have hchanges : forall change, change ∈ timed Moment.change? session.history ->
      change.1 ≤ horizon := fun change hmem => instant_le_of_mem_timed hpast hmem
  constructor
  · simp only [hupTo.keeps.signals, List.prefix_rfl]
  · intro _
    exact hupTo.keeps.signals
  · rw [hupTo.unended]
    exact hupTo.keeps.questions.trans (outlasting_none_filter hchanges).symm
  · rw [hupTo.unended]
    exact hupTo.keeps.lists.trans (outlasting_none_filter hchanges).symm

theorem EndsAt.obeysPause
    {debounce ending horizon : Nat} {reply : Text -> Reply}
    {script handled : List (Nat × Signal)} {session : Session ω}
    (hends : EndsAt debounce reply handled ending session)
    (hhandled : handled <+: script)
    (hpast : forall moment, moment ∈ session.history -> moment.instant ≤ horizon) :
    ObeysPause debounce reply script horizon session.history := by
  have hchanges : forall change, change ∈ timed Moment.change? session.history ->
      change.1 ≤ horizon := fun change hmem => instant_le_of_mem_timed hpast hmem
  have hending := ending?_le hpast hends.ended
  constructor
  · rw [hends.keeps.signals]
    exact hhandled
  · intro hnone
    rw [hends.ended] at hnone
    cases hnone
  · rw [hends.ended]
    exact hends.keeps.questions.trans (outlasting_some_filter hchanges hending).symm
  · rw [hends.ended]
    exact hends.keeps.lists.trans (outlasting_some_filter hchanges hending).symm

section Opening

variable (settings : PromptSettings) (index : SymbolIndex ω) (world : ω)

theorem reachable_begin : Reachable (new settings index world).begin :=
  ⟨settings, index, world, Relation.ReflTransGen.single Step.begin⟩

theorem upTo_begin
    {reply : Text -> Reply}
    (hreply : forall world keyword, (index.ask world keyword).1 = reply keyword) :
    UpTo settings.debounceMillis reply [] 0 0 (new settings index world).begin where
  attentive := ⟨Phase.noConfusion, rfl, rfl, rfl⟩
  pause := rfl
  replies := hreply
  keeps := ⟨rfl, rfl, rfl⟩
  unended := rfl
  progress := Progress.untouched rfl rfl rfl rfl

theorem play_begin (script : List (Nat × Signal)) (horizon : Nat) :
    ((new settings index world).begin.play script).runUntil horizon =
      ((new settings index world).play script).runUntil horizon := by
  cases script with
  | nil =>
      rfl
  | cons due rest =>
      rfl

theorem untied_begin
    {script : List (Nat × Signal)} (huntied : (new settings index world).Untied script) :
    (new settings index world).begin.Untied script := by
  cases script with
  | nil =>
      exact trivial
  | cons due rest =>
      rcases due with ⟨instant, signal⟩
      rcases huntied with ⟨_, hrest⟩
      constructor
      · rintro ⟨_, ⟨pending, hpending, _⟩ | ⟨arrival, harrival, _⟩⟩
        · cases hpending
        · cases harrival
      · exact hrest

end Opening

/--
The index is asked for exactly the values that outlast the pause, once each and at
the end of it; and exactly for the values that outlast the pause and the answer a
list is shown, once each and at the arrival, with what the index replied.
-/
theorem play_obeysPause
    {settings : PromptSettings} {index : SymbolIndex ω} {world : ω}
    {reply : Text -> Reply} {script : List (Nat × Signal)} {horizon : Nat}
    (hreply : forall world keyword, (index.ask world keyword).1 = reply keyword)
    (hordered : (script.map Prod.fst).Pairwise (· ≤ ·))
    (hhorizon : forall due, due ∈ script -> due.1 ≤ horizon)
    (huntied : (new settings index world).Untied script) :
    ObeysPause settings.debounceMillis reply script horizon
      (((new settings index world).play script).runUntil horizon).history := by
  have hopened := upTo_begin settings index world hreply
  have hreachable := reachable_begin settings index world
  have htimely : (new settings index world).begin.IsTimely script :=
    List.pairwise_cons.mpr ⟨fun instant _ => Nat.zero_le instant, hordered⟩
  have hplay := reaches_play hreachable htimely fun _ => rfl
  have hnow : ((new settings index world).begin.play script).now ≤ horizon :=
    play_now_le (Nat.zero_le horizon) hhorizon
  have hrun := reaches_runUntil hnow
  have hplayed := hreachable.trans hplay
  have hpast := instant_le_now_of_reachable (hplayed.trans hrun)
  rw [← play_begin]
  rcases upTo_play hopened hreachable htimely (untied_begin settings index world huntied)
    with hgoes | ⟨handled, ending, hhandled, hends⟩
  · have hlast := upTo_runUntil hgoes (Nat.le_succ_of_le hnow) (Nat.le_succ horizon)
      (fun _ _ => Nat.lt_succ_iff.symm) (fun _ _ => Nat.lt_succ_iff.symm)
    exact hlast.obeysPause hpast
  · exact (EndsAt.of_reaches hends hplayed hrun).obeysPause hhandled hpast

/--
`R` is overtaken by `Re`, which is asked for and answered with a failure; `W` is asked
for, but the prompt is dismissed before its answer.
-/
def hurried : List (Nat × Signal) :=
  [(0, .event (.valueChanged ['R'])), (100, .event (.valueChanged ['R', 'e'])),
    (1000, .event (.valueChanged ['W'])), (1302, .event .dismiss)]

def outOfOrder : SymbolIndex Unit :=
  ⟨fun world _ => (⟨5, .error (.symbolQuery [])⟩, world)⟩

theorem hurried_obeysPause :
    (new ⟨300, []⟩ outOfOrder ()).Untied hurried ∧
      ObeysPause 300 (fun _ => ⟨5, .error (.symbolQuery [])⟩) hurried 2000
        (((new ⟨300, []⟩ outOfOrder ()).play hurried).runUntil 2000).history ∧
      (timed Moment.question?
          (((new ⟨300, []⟩ outOfOrder ()).play hurried).runUntil 2000).history).map
        (fun asked => (asked.1, asked.2.1)) = [(400, ['R', 'e']), (1300, ['W'])] ∧
      (timed Moment.list?
          (((new ⟨300, []⟩ outOfOrder ()).play hurried).runUntil 2000).history).map
        Prod.fst = [405] := by
  have huntied : (new ⟨300, []⟩ outOfOrder ()).Untied hurried := by decide
  have hlaw : ObeysPause 300 (fun _ => ⟨5, .error (.symbolQuery [])⟩) hurried 2000
      (((new ⟨300, []⟩ outOfOrder ()).play hurried).runUntil 2000).history :=
    play_obeysPause (fun _ _ => rfl) (by decide) (by decide) huntied
  exact ⟨huntied, hlaw, rfl, rfl⟩

end Session
end Prompt
end StubAssist

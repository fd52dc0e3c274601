import StubAssist.Proofs.Prompt.Debounce
import StubAssist.Proofs.Prompt.Deliveries

/-!
# Ignored selections

A selection outside the list on show leaves one moment in the history and nothing else.
Two facts carry this over whole scripts: what a session does never depends on its
history, and letting time pass may be interrupted anywhere, since deadlines and answers
fall due at instants of their own.
-/

namespace StubAssist
namespace Prompt

open History

namespace Session

variable {ω : Type}

/-!
# Nothing due
-/

theorem passDeadline_of_isFinished
    {session : Session ω} (limit : Nat) (hfinished : session.isFinished = true) :
    session.passDeadline limit = session := by
  unfold passDeadline
  split
  · rw [hfinished, Bool.not_true, Bool.and_false]
    rfl
  · rfl

theorem passArrival_of_isFinished
    {session : Session ω} (limit : Nat) (hfinished : session.isFinished = true) :
    session.passArrival limit = session := by
  unfold passArrival
  split
  · rw [hfinished, Bool.not_true, Bool.and_false]
    rfl
  · rfl

theorem due_cases
    {α : Type} (isFinished : Bool) (waiting : Option α) (instantOf : α -> Nat) (limit : Nat) :
    (exists due, isFinished = false ∧ waiting = some due ∧ instantOf due ≤ limit) ∨
      isFinished = true ∨
      forall due, waiting = some due -> limit < instantOf due := by
  cases isFinished with
  | true =>
      exact Or.inr (Or.inl rfl)
  | false =>
      by_cases hdue : exists due, waiting = some due ∧ instantOf due ≤ limit
      · rcases hdue with ⟨due, hwaiting, hle⟩
        exact Or.inl ⟨due, rfl, hwaiting, hle⟩
      · refine Or.inr (Or.inr ?_)
        intro due hwaiting
        exact Nat.not_le.mp fun hle => hdue ⟨due, hwaiting, hle⟩

theorem passDeadline_cases (session : Session ω) (limit : Nat) :
    (exists pending,
      session.isFinished = false ∧ session.state.pending = some pending ∧
        pending.deadline ≤ limit) ∨
      session.isFinished = true ∨
      forall pending, session.state.pending = some pending -> limit < pending.deadline :=
  due_cases session.isFinished session.state.pending Pending.deadline limit

theorem passArrival_cases (session : Session ω) (limit : Nat) :
    (exists arrival,
      session.isFinished = false ∧ session.arrival = some arrival ∧
        arrival.instant ≤ limit) ∨
      session.isFinished = true ∨
      forall arrival, session.arrival = some arrival -> limit < arrival.instant :=
  due_cases session.isFinished session.arrival Arrival.instant limit

/-!
# The past does not matter
-/

def withPast (session : Session ω) (past : List Moment) : Session ω :=
  { session with history := past ++ session.history }

section WithPast

variable (session : Session ω) (past : List Moment)

theorem perform_withPast (turn : Option Turn) (state : State) (effect : Effect) :
    (session.withPast past).perform turn state effect =
      (session.perform turn state effect).withPast past := by
  have hhistory : (past ++ session.history) ++ [session.moment turn effect] =
      past ++ (session.history ++ [session.moment turn effect]) :=
    List.append_assoc _ _ _
  exact congrArg
    (fun history => { session.perform turn state effect with history := history }) hhistory

theorem take_withPast (turn : Turn) :
    (session.withPast past).take turn = (session.take turn).withPast past := by
  cases hfinished : session.isFinished with
  | true =>
      rw [take_of_isFinished turn hfinished]
      exact take_of_isFinished turn hfinished
  | false =>
      cases hturn : session.state.turn session.settings.debounceMillis session.now turn with
      | none =>
          rw [take_of_turn_none hturn]
          exact take_of_turn_none hturn
      | some next =>
          rw [take_of_turn_some hfinished hturn, ← perform_withPast]
          exact take_of_turn_some hfinished hturn

theorem begin_withPast :
    (session.withPast past).begin = session.begin.withPast past := by
  by_cases hidle : session.state.phase = .idle
  · rw [begin_of_idle hidle, ← perform_withPast]
    exact begin_of_idle hidle
  · rw [begin_of_begun hidle]
    exact begin_of_begun hidle

theorem takeEvents_withPast (events : List Event) :
    (session.withPast past).takeEvents events =
      (session.takeEvents events).withPast past := by
  induction events generalizing session with
  | nil =>
      rfl
  | cons event rest ih =>
      rw [takeEvents_cons, takeEvents_cons, take_withPast, ih]

theorem handleEvents_withPast :
    (session.withPast past).handleEvents = session.handleEvents.withPast past := by
  have hevents : ((session.withPast past).begin.withQueue []).takeEvents session.queue =
      ((session.begin.withQueue []).takeEvents session.queue).withPast past := by
    rw [begin_withPast]
    exact takeEvents_withPast (session.begin.withQueue []) past session.queue
  rw [handleEvents_eq, handleEvents_eq]
  show (if session.isClosed then
      (((session.withPast past).begin.withQueue []).takeEvents session.queue).take .closed
    else ((session.withPast past).begin.withQueue []).takeEvents session.queue) = _
  rw [hevents, take_withPast]
  split <;> rfl

theorem passDeadline_withPast (limit : Nat) :
    (session.withPast past).passDeadline limit =
      (session.passDeadline limit).withPast past := by
  rcases passDeadline_cases session limit with
    ⟨pending, hrunning, hpending, hdue⟩ | hfinished | hnone
  · rw [passDeadline_of_due hrunning hpending hdue, ← take_withPast, ← take_withPast]
    exact @passDeadline_of_due _ (session.withPast past) _ _ hrunning hpending hdue
  · rw [passDeadline_of_isFinished limit hfinished]
    exact passDeadline_of_isFinished limit hfinished
  · rw [passDeadline_of_not_due hnone]
    exact passDeadline_of_not_due hnone

theorem passArrival_withPast (limit : Nat) :
    (session.withPast past).passArrival limit =
      (session.passArrival limit).withPast past := by
  rcases passArrival_cases session limit with
    ⟨arrival, hrunning, harrival, hdue⟩ | hfinished | hnone
  · rw [passArrival_of_due hrunning harrival hdue, ← take_withPast]
    exact @passArrival_of_due _ (session.withPast past) _ _ hrunning harrival hdue
  · rw [passArrival_of_isFinished limit hfinished]
    exact passArrival_of_isFinished limit hfinished
  · rw [passArrival_of_not_due hnone]
    exact passArrival_of_not_due hnone

theorem runUntil_withPast (instant : Nat) :
    (session.withPast past).runUntil instant =
      (session.runUntil instant).withPast past := by
  unfold runUntil
  rw [handleEvents_withPast, passDeadline_withPast, passArrival_withPast]
  rfl

theorem receive_withPast (signal : Signal) :
    (session.withPast past).receive signal = (session.receive signal).withPast past := by
  cases signal with
  | event event =>
      have hsend : ((session.withPast past).send event).2 =
          (session.send event).2.withPast past := by
        show (if session.isFinished then (false, session.withPast past) else _).2 = _
        unfold send
        split <;> rfl
      show ((session.withPast past).send event).2.handleEvents =
        (session.send event).2.handleEvents.withPast past
      rw [hsend, handleEvents_withPast]
  | hangUp =>
      exact handleEvents_withPast session.close past

theorem play_withPast (script : List (Nat × Signal)) :
    (session.withPast past).play script = (session.play script).withPast past := by
  induction script generalizing session with
  | nil =>
      rfl
  | cons due rest ih =>
      rcases due with ⟨instant, signal⟩
      show (((session.withPast past).runUntil instant).receive signal).play rest = _
      rw [runUntil_withPast, receive_withPast, ih]
      rfl

end WithPast

/-!
# What is under way
-/

/-- An answer is on its way only to the question that the index was asked last. -/
def ExpectsArrival (session : Session ω) : Prop :=
  forall arrival, session.arrival = some arrival ->
    exists value, session.state.inFlight = some ⟨value, true⟩

theorem expectsArrival_perform_of_none
    {session : Session ω} (turn : Option Turn) {state : State} (effect : Effect)
    (hflight : state.inFlight = none) :
    (session.perform turn state effect).ExpectsArrival := by
  intro arrival harrival
  rw [perform_arrival, hflight] at harrival
  cases harrival

theorem expectsArrival_perform_of_same
    {session : Session ω} (turn : Option Turn) {state : State} {effect : Effect}
    (hexpects : session.ExpectsArrival) (hquery : effect.query = none)
    (hflight : state.inFlight = session.state.inFlight) :
    (session.perform turn state effect).ExpectsArrival := by
  intro arrival harrival
  rw [perform_arrival, hflight, hquery] at harrival
  rw [perform_state, hflight]
  split at harrival
  · cases harrival
  · exact hexpects arrival harrival

theorem expectsArrival_take
    {session : Session ω} (turn : Turn) (haccounted : session.IsAccounted)
    (hexpects : session.ExpectsArrival) :
    (session.take turn).ExpectsArrival := by
  rcases take_cases session turn with hsame | ⟨next, effect, hrunning, hallows, hperform⟩
  · rw [hsame]
    exact hexpects
  rw [hperform]
  cases hallows with
  | changed value =>
      exact expectsArrival_perform_of_none _ _ rfl
  | selected hitem =>
      exact expectsArrival_perform_of_same _ hexpects rfl rfl
  | ignored hitem =>
      exact expectsArrival_perform_of_same _ hexpects rfl rfl
  | cancelled hturn =>
      exact expectsArrival_perform_of_same _ hexpects rfl rfl
  | raised hpending =>
      -- while a value waits there is no question, and so no answer on its way
      intro arrival harrival
      rcases hexpects arrival harrival with ⟨value, hflight⟩
      have hstanding := haccounted.standing (outcome_eq_none_of_running hrunning)
      rcases hstanding.of_asked hflight with ⟨_, _, _, hnone, _⟩
      rw [hnone] at hpending
      cases hpending
  | @asked value hflight =>
      intro arrival _
      exact ⟨value, rfl⟩
  | answered result hflight =>
      exact expectsArrival_perform_of_none _ _ (State.showResults_inFlight _ _)

theorem expectsArrival_of_reachable
    {session : Session ω} (hreachable : Reachable session) :
    session.ExpectsArrival := by
  rcases hreachable with ⟨settings, index, world, hreaches⟩
  induction hreaches with
  | refl =>
      intro arrival hnone
      cases hnone
  | @tail earlier next hbefore hstep ih =>
      have haccounted := isAccounted_of_reachable ⟨settings, index, world, hbefore⟩
      cases course_of_step hstep with
      | outside queue isClosed updates warnings hnow =>
          exact ih
      | opening =>
          by_cases hidle : earlier.state.phase = .idle
          · rw [begin_of_idle hidle]
            exact expectsArrival_perform_of_none _ _ rfl
          · rw [begin_of_begun hidle]
            exact ih
      | turn queue hbegun hready =>
          have hqueued : (earlier.withQueue queue).IsAccounted := haccounted
          exact expectsArrival_take _ hqueued ih

theorem arrival_eq_none_of_pending
    {session : Session ω} {pending : Pending} (hreachable : Reachable session)
    (hrunning : session.isFinished = false)
    (hpending : session.state.pending = some pending) :
    session.arrival = none := by
  cases harrival : session.arrival with
  | none =>
      rfl
  | some arrival =>
      rcases expectsArrival_of_reachable hreachable arrival harrival with ⟨value, hflight⟩
      have hstanding := (isAccounted_of_reachable hreachable).standing
        (outcome_eq_none_of_running hrunning)
      rcases hstanding.of_asked hflight with ⟨_, _, _, hnone, _⟩
      rw [hnone] at hpending
      cases hpending

/-!
# Interrupting the passing of time
-/

/-- All that was sent is handled, and a session that was closed has ended. -/
structure IsHandled (session : Session ω) : Prop where
  begun : session.state.phase ≠ .idle
  queue : session.queue = []
  ended : session.isClosed = true -> session.isFinished = true

theorem isHandled_handleEvents (session : Session ω) :
    session.handleEvents.IsHandled := by
  constructor
  · exact handleEvents_phase_ne_idle session
  · rw [handleEvents_eq]
    split
    · rw [take_queue, takeEvents_queue]
      rfl
    · rw [takeEvents_queue]
      rfl
  · intro hclosed
    rw [handleEvents_isClosed] at hclosed
    exact handleEvents_isFinished_of_isClosed hclosed

theorem handleEvents_of_isHandled
    {session : Session ω} (hhandled : session.IsHandled) :
    session.handleEvents = session := by
  have hqueue : session.withQueue [] = session := by
    rw [← hhandled.queue, withQueue_queue_self]
  rw [handleEvents_eq, begin_of_begun hhandled.begun, hhandled.queue, hqueue]
  split
  · rename_i hclosed
    exact take_of_isFinished _ (hhandled.ended hclosed)
  · rfl

theorem isFinished_take_of_isFinished
    {session : Session ω} (turn : Turn) (hfinished : session.isFinished = true) :
    (session.take turn).isFinished = true := by
  rw [take_of_isFinished turn hfinished]
  exact hfinished

theorem IsHandled.take
    {session : Session ω} (hhandled : session.IsHandled) (turn : Turn) :
    (session.take turn).IsHandled := by
  constructor
  · exact take_phase_ne_idle turn hhandled.begun
  · rw [take_queue]
    exact hhandled.queue
  · intro hclosed
    rw [take_isClosed] at hclosed
    exact isFinished_take_of_isFinished turn (hhandled.ended hclosed)

theorem IsHandled.movedTo
    {session : Session ω} (hhandled : session.IsHandled) (instant : Nat) :
    (session.movedTo instant).IsHandled :=
  ⟨hhandled.begun, hhandled.queue, hhandled.ended⟩

theorem IsHandled.passDeadline
    {session : Session ω} (hhandled : session.IsHandled) (limit : Nat) :
    (session.passDeadline limit).IsHandled := by
  rcases passDeadline_cases session limit with
    ⟨pending, hrunning, hpending, hdue⟩ | hfinished | hnone
  · rw [passDeadline_of_due hrunning hpending hdue]
    exact ((hhandled.movedTo _).take _).take _
  · rw [passDeadline_of_isFinished limit hfinished]
    exact hhandled
  · rw [passDeadline_of_not_due hnone]
    exact hhandled

theorem IsHandled.passArrival
    {session : Session ω} (hhandled : session.IsHandled) (limit : Nat) :
    (session.passArrival limit).IsHandled := by
  rcases passArrival_cases session limit with
    ⟨arrival, hrunning, harrival, hdue⟩ | hfinished | hnone
  · rw [passArrival_of_due hrunning harrival hdue]
    exact (hhandled.movedTo _).take _
  · rw [passArrival_of_isFinished limit hfinished]
    exact hhandled
  · rw [passArrival_of_not_due hnone]
    exact hhandled

theorem isHandled_runUntil (session : Session ω) (instant : Nat) :
    (session.runUntil instant).IsHandled :=
  (((isHandled_handleEvents session).passDeadline instant).passArrival instant).movedTo instant

theorem take_pending_eq_none
    {session : Session ω} {turn : Turn} (hpending : session.state.pending = none)
    (hturn : forall value, turn ≠ .event (.valueChanged value)) :
    (session.take turn).state.pending = none := by
  rcases take_cases session turn with hsame | ⟨next, effect, _, hallows, hperform⟩
  · rw [hsame]
    exact hpending
  rw [hperform, perform_state]
  cases hallows with
  | changed value =>
      exact absurd rfl (hturn value)
  | selected hitem =>
      exact hpending
  | ignored hitem =>
      exact hpending
  | cancelled hturn =>
      exact hpending
  | raised hsome =>
      rfl
  | asked hflight =>
      exact hpending
  | answered result hflight =>
      rw [State.showResults_pending]
      exact hpending

theorem take_deadline_pending
    {session : Session ω} {pending : Pending} (hrunning : session.isFinished = false)
    (hpending : session.state.pending = some pending) :
    (session.take .deadline).state.pending = none := by
  rw [take_of_allows hrunning (State.Allows.raised hpending)]
  rfl

theorem passArrival_pending_eq_none
    {session : Session ω} (limit : Nat) (hpending : session.state.pending = none) :
    (session.passArrival limit).state.pending = none := by
  rcases passArrival_cases session limit with
    ⟨arrival, hrunning, harrival, hdue⟩ | hfinished | hnone
  · rw [passArrival_of_due hrunning harrival hdue]
    exact take_pending_eq_none hpending fun _ hturn => nomatch hturn
  · rw [passArrival_of_isFinished limit hfinished]
    exact hpending
  · rw [passArrival_of_not_due hnone]
    exact hpending

theorem passDeadline_of_pending_none
    {session : Session ω} (limit : Nat) (hpending : session.state.pending = none) :
    session.passDeadline limit = session := by
  apply passDeadline_of_not_due
  intro pending hsome
  rw [hpending] at hsome
  cases hsome

theorem passArrival_of_arrival_none
    {session : Session ω} (limit : Nat) (harrival : session.arrival = none) :
    session.passArrival limit = session := by
  apply passArrival_of_not_due
  intro arrival hsome
  rw [harrival] at hsome
  cases hsome

theorem take_answer_arrival
    {session : Session ω} {arrival : Arrival} (hexpects : session.ExpectsArrival)
    (hrunning : session.isFinished = false)
    (harrival : session.arrival = some arrival) :
    (session.take (.answer arrival.result)).arrival = none := by
  rcases hexpects arrival harrival with ⟨value, hflight⟩
  rw [take_of_allows hrunning (State.Allows.answered arrival.result hflight),
    perform_arrival, State.showResults_inFlight]
  rfl

theorem passArrival_interrupted
    {session : Session ω} {early late : Nat} (hexpects : session.ExpectsArrival)
    (hnow : session.now ≤ early) (hle : early ≤ late) :
    (((session.passArrival early).movedTo early).passArrival late).movedTo late =
      (session.passArrival late).movedTo late := by
  rcases passArrival_cases session early with
    ⟨arrival, hrunning, harrival, hdue⟩ | hfinished | hnone
  · rw [passArrival_of_due hrunning harrival hdue,
      passArrival_of_due hrunning harrival (Nat.le_trans hdue hle)]
    have hdone : (((session.movedTo (max session.now arrival.instant)).take
        (.answer arrival.result)).movedTo early).arrival = none :=
      @take_answer_arrival _ (session.movedTo (max session.now arrival.instant)) _
        hexpects hrunning harrival
    rw [passArrival_of_arrival_none late hdone]
    rfl
  · rw [passArrival_of_isFinished early hfinished, passArrival_of_isFinished late hfinished]
    have hmoved : (session.movedTo early).isFinished = true := hfinished
    rw [passArrival_of_isFinished late hmoved]
    rfl
  · rw [passArrival_of_not_due hnone]
    rcases passArrival_cases session late with
      ⟨arrival, hrunning, harrival, hdue⟩ | hfinished | hlater
    · have hearly := Nat.le_of_lt (hnone arrival harrival)
      have hmoved : (session.movedTo early).passArrival late =
          ((session.movedTo early).movedTo (max early arrival.instant)).take
            (.answer arrival.result) :=
        @passArrival_of_due _ (session.movedTo early) _ _ hrunning harrival hdue
      rw [hmoved, passArrival_of_due hrunning harrival hdue, Nat.max_eq_right hearly,
        Nat.max_eq_right (Nat.le_trans hnow hearly)]
      rfl
    · have hmoved : (session.movedTo early).isFinished = true := hfinished
      rw [passArrival_of_isFinished late hfinished, passArrival_of_isFinished late hmoved]
      rfl
    · rw [passArrival_of_not_due hlater,
        @passArrival_of_not_due _ (session.movedTo early) _ hlater]
      rfl

theorem passDeadline_interrupted
    {session : Session ω} {early late : Nat} (hreachable : Reachable session)
    (hbegun : session.state.phase ≠ .idle) (hnow : session.now ≤ early)
    (hle : early ≤ late) :
    (((((session.passDeadline early).passArrival early).movedTo early).passDeadline
        late).passArrival late).movedTo late =
      ((session.passDeadline late).passArrival late).movedTo late := by
  -- once no value waits, only the answer can still be due
  have hwithout (middle : Session ω) (hmiddle : Reachable middle)
      (hmiddleNow : middle.now ≤ early) (hpending : middle.state.pending = none) :
      ((((middle.passArrival early).movedTo early).passDeadline late).passArrival
          late).movedTo late =
        (middle.passArrival late).movedTo late := by
    have hstill : ((middle.passArrival early).movedTo early).state.pending = none :=
      passArrival_pending_eq_none early hpending
    rw [passDeadline_of_pending_none late hstill]
    exact passArrival_interrupted (expectsArrival_of_reachable hmiddle) hmiddleNow hle
  rcases passDeadline_cases session early with
    ⟨pending, hrunning, hpending, hdue⟩ | hfinished | hnone
  · have hsame : session.passDeadline late = session.passDeadline early := by
      rw [passDeadline_of_due hrunning hpending (Nat.le_trans hdue hle),
        passDeadline_of_due hrunning hpending hdue]
    have hraised : (session.passDeadline early).state.pending = none := by
      rw [passDeadline_of_due hrunning hpending hdue]
      refine take_pending_eq_none ?_ ?_
      · exact @take_deadline_pending _ (session.movedTo (max session.now pending.deadline)) _
          hrunning hpending
      · intro value hturn
        cases hturn
    rw [hsame]
    exact hwithout _ (hreachable.trans (reaches_passDeadline early hbegun))
      (passDeadline_now_le hnow) hraised
  · have hmoved : (session.movedTo early).isFinished = true := hfinished
    rw [passDeadline_of_isFinished early hfinished, passArrival_of_isFinished early hfinished,
      passDeadline_of_isFinished late hmoved, passArrival_of_isFinished late hmoved,
      passDeadline_of_isFinished late hfinished, passArrival_of_isFinished late hfinished]
    rfl
  · rw [passDeadline_of_not_due hnone]
    cases hpending : session.state.pending with
    | none =>
        rw [passDeadline_of_pending_none late hpending]
        exact hwithout session hreachable hnow hpending
    | some pending =>
        cases hfinished : session.isFinished with
        | true =>
            have hmoved : (session.movedTo early).isFinished = true := hfinished
            rw [passArrival_of_isFinished early hfinished,
              passDeadline_of_isFinished late hmoved, passArrival_of_isFinished late hmoved,
              passDeadline_of_isFinished late hfinished,
              passArrival_of_isFinished late hfinished]
            rfl
        | false =>
            have harrival := arrival_eq_none_of_pending hreachable hfinished hpending
            have hearly := Nat.le_of_lt (hnone pending hpending)
            rw [passArrival_of_arrival_none early harrival]
            by_cases hdue : pending.deadline ≤ late
            · have hmoved : (session.movedTo early).passDeadline late =
                  (((session.movedTo early).movedTo (max early pending.deadline)).take
                    .deadline).take .asking :=
                @passDeadline_of_due _ (session.movedTo early) _ _ hfinished hpending hdue
              rw [hmoved, passDeadline_of_due hfinished hpending hdue,
                Nat.max_eq_right hearly, Nat.max_eq_right (Nat.le_trans hnow hearly)]
              rfl
            · have hlater (waiting : Pending)
                  (hwaiting : session.state.pending = some waiting) :
                  late < waiting.deadline := by
                rw [hpending] at hwaiting
                cases hwaiting
                exact Nat.not_le.mp hdue
              have hstill : (session.movedTo early).arrival = none := harrival
              rw [passDeadline_of_not_due hlater,
                @passDeadline_of_not_due _ (session.movedTo early) _ hlater,
                passArrival_of_arrival_none late harrival,
                passArrival_of_arrival_none late hstill]
              rfl

theorem runUntil_runUntil
    {session : Session ω} {early late : Nat} (hreachable : Reachable session)
    (hnow : session.now ≤ early) (hle : early ≤ late) :
    (session.runUntil early).runUntil late = session.runUntil late := by
  have hhandled := handleEvents_of_isHandled (isHandled_runUntil session early)
  have hevents := hreachable.trans (reaches_handleEvents session)
  rw [← handleEvents_now] at hnow
  show (((session.runUntil early).handleEvents.passDeadline late).passArrival late).movedTo
    late = _
  rw [hhandled]
  exact passDeadline_interrupted hevents (handleEvents_phase_ne_idle session) hnow hle

/-!
# One more moment
-/

theorem play_append
    (session : Session ω) (script more : List (Nat × Signal)) :
    session.play (script ++ more) = (session.play script).play more := by
  induction script generalizing session with
  | nil =>
      rfl
  | cons due rest ih =>
      exact ih (session.deliver due.1 due.2)

theorem runUntil_play
    {session : Session ω} {instant horizon : Nat} {script : List (Nat × Signal)}
    (hreachable : Reachable session) (hnow : session.now ≤ instant)
    (hlater : forall due, due ∈ script -> instant ≤ due.1) (hhorizon : instant ≤ horizon) :
    ((session.runUntil instant).play script).runUntil horizon =
      (session.play script).runUntil horizon := by
  cases script with
  | nil =>
      exact runUntil_runUntil hreachable hnow hhorizon
  | cons due rest =>
      rcases due with ⟨next, signal⟩
      have hnext := hlater (next, signal) List.mem_cons_self
      show ((((session.runUntil instant).runUntil next).receive signal).play rest).runUntil
        horizon = _
      rw [runUntil_runUntil hreachable hnow hnext]
      rfl

def ignoredMoment (instant selected : Nat) : Moment :=
  ⟨instant, some (.event (.select selected)), .none, none⟩

def withMoment (session : Session ω) (moment : Moment) : Session ω :=
  { session with history := session.history ++ [moment] }

theorem take_ignored
    {session : Session ω} {selected : Nat} (hexpects : session.ExpectsArrival)
    (hrunning : session.isFinished = false)
    (hitem : session.state.items[selected]? = none) :
    session.take (.event (.select selected)) =
      session.withMoment (ignoredMoment session.now selected) := by
  rw [take_of_allows hrunning (State.Allows.ignored hitem)]
  have harrival : (if session.state.inFlight.isNone then none else session.arrival) =
      session.arrival := by
    cases harrival : session.arrival with
    | none =>
        exact ite_self none
    | some arrival =>
        rcases hexpects arrival harrival with ⟨value, hflight⟩
        rw [hflight]
        rfl
  have houtcome : (session.outcome <|> none) = session.outcome := by
    cases session.outcome <;> rfl
  show ({ session with
    arrival := if session.state.inFlight.isNone then none else session.arrival
    outcome := session.outcome <|> none
    history := session.history ++ [ignoredMoment session.now selected]
    updates := session.updates ++ []
    warnings := session.warnings ++ [] } : Session ω) = _
  rw [harrival, houtcome, List.append_nil, List.append_nil]
  rfl

theorem receive_event_of_isHandled
    {session : Session ω} (event : Event) (hhandled : session.IsHandled) :
    session.receive (.event event) = session.take (.event event) := by
  cases hfinished : session.isFinished with
  | true =>
      have hsend : (session.send event).2 = session := by
        unfold send
        rw [if_pos hfinished]
      show (session.send event).2.handleEvents = session.take (.event event)
      rw [hsend, handleEvents_of_isHandled hhandled, take_of_isFinished _ hfinished]
  | false =>
      apply receive_event_of_isAttentive
      constructor
      · exact hhandled.begun
      · exact outcome_eq_none_of_running hfinished
      · cases hclosed : session.isClosed with
        | false =>
            rfl
        | true =>
            rw [hhandled.ended hclosed] at hfinished
            cases hfinished
      · exact hhandled.queue

theorem exists_later_of_withMoment
    (session : Session ω) (moment : Moment) (script : List (Nat × Signal)) (horizon : Nat) :
    exists later,
      ((session.play script).runUntil horizon).history = session.history ++ later ∧
        ((session.withMoment moment).play script).runUntil horizon =
          { (session.play script).runUntil horizon with
            history := session.history ++ moment :: later } := by
  let fresh : Session ω := { session with history := [] }
  have hpast (past : List Moment) :
      ((fresh.withPast past).play script).runUntil horizon =
        ((fresh.play script).runUntil horizon).withPast past := by
    rw [play_withPast, runUntil_withPast]
  have hwithout : session = fresh.withPast session.history := by
    show session = { session with history := session.history ++ [] }
    rw [List.append_nil]
  have hwith : session.withMoment moment =
      fresh.withPast (session.history ++ [moment]) := by
    show _ = { session with history := (session.history ++ [moment]) ++ [] }
    rw [List.append_nil]
    rfl
  have hplain : (session.play script).runUntil horizon =
      ((fresh.play script).runUntil horizon).withPast session.history := by
    rw [← hpast, ← hwithout]
  refine ⟨((fresh.play script).runUntil horizon).history, ?_, ?_⟩
  · rw [hplain]
    rfl
  · rw [hplain, hwith, hpast]
    unfold withPast
    rw [List.append_assoc]
    rfl

/-!
# Inert selections
-/

end Session

namespace History

def told (history : List Moment) : List (Nat × Update) :=
  history.flatMap fun moment => moment.effect.updates.map (moment.instant, ·)

theorem told_ignored (history later : List Moment) (instant selected : Nat) :
    told (history ++ Session.ignoredMoment instant selected :: later) =
      told (history ++ later) := by
  simp [told, Session.ignoredMoment, Effect.none]

theorem timed_ignored
    {α : Type} {read : Moment -> Option α} (history later : List Moment)
    {instant selected : Nat}
    (hread : read (Session.ignoredMoment instant selected) = none) :
    timed read (history ++ Session.ignoredMoment instant selected :: later) =
      timed read (history ++ later) := by
  simp [timed, hread]

end History

namespace Session

/--
Nothing but the history tells the second session from the first, and both histories have
the same updates, questions, warnings and outcome at the same instants.
-/
structure DiffersUnseen (session other : Session ω) : Prop where
  updates : told other.history = told session.history
  questions : timed Moment.question? other.history = timed Moment.question? session.history
  warnings : timed (·.effect.warning) other.history =
    timed (·.effect.warning) session.history
  outcomes : timed (·.effect.outcome) other.history =
    timed (·.effect.outcome) session.history
  rest : other = { session with history := other.history }

theorem differsUnseen_refl (session : Session ω) : session.DiffersUnseen session :=
  ⟨rfl, rfl, rfl, rfl, rfl⟩

theorem differsUnseen_of_ignored
    {session : Session ω} {history later : List Moment} (instant selected : Nat)
    (hhistory : session.history = history ++ later) :
    session.DiffersUnseen
      { session with history := history ++ ignoredMoment instant selected :: later } := by
  constructor
  · rw [hhistory]
    exact told_ignored history later instant selected
  · rw [hhistory]
    exact timed_ignored history later rfl
  · rw [hhistory]
    exact timed_ignored history later rfl
  · rw [hhistory]
    exact timed_ignored history later rfl
  · rfl

theorem differsUnseen_of_receive
    {session : Session ω} {selected : Nat} (hreachable : Reachable session)
    (hhandled : session.IsHandled) (hshown : (shown session.history).length ≤ selected)
    (script : List (Nat × Signal)) (horizon : Nat) :
    DiffersUnseen ((session.play script).runUntil horizon)
      (((session.receive (.event (.select selected))).play script).runUntil horizon) := by
  have hitem : session.state.items[selected]? = none := by
    rw [(isFaithful_of_reachable hreachable).items]
    exact List.getElem?_eq_none hshown
  rw [receive_event_of_isHandled _ hhandled]
  cases hfinished : session.isFinished with
  | true =>
      rw [take_of_isFinished _ hfinished]
      exact differsUnseen_refl _
  | false =>
      rw [take_ignored (expectsArrival_of_reachable hreachable) hfinished hitem]
      rcases exists_later_of_withMoment session (ignoredMoment session.now selected) script
        horizon with ⟨later, hhistory, hdisturbed⟩
      rw [hdisturbed]
      exact differsUnseen_of_ignored session.now selected hhistory

/--
A selection outside the list on show, handled at any point of a script, changes nothing
that can be seen of the run from then on: the pause goes on, and so does the question.
What falls due at the instant of the selection has passed before it.
-/
theorem play_ignoring
    {settings : PromptSettings} {index : SymbolIndex ω} {world : ω}
    {before after : List (Nat × Signal)} {instant selected horizon : Nat}
    (hordered : ((before ++ (instant, .event (.select selected)) :: after).map
      Prod.fst).Pairwise (· ≤ ·))
    (hhorizon : forall due, due ∈ before ++ (instant, .event (.select selected)) :: after ->
      due.1 ≤ horizon)
    (hshown : (shown (((new settings index world).play before).runUntil
      instant).history).length ≤ selected) :
    DiffersUnseen
      (((new settings index world).play (before ++ after)).runUntil horizon)
      (((new settings index world).play
        (before ++ (instant, .event (.select selected)) :: after)).runUntil horizon) := by
  rw [List.map_append, List.map_cons, List.pairwise_append, List.pairwise_cons] at hordered
  rcases hordered with ⟨hbefore, ⟨hafter, _⟩, hacross⟩
  have hstart : Reachable (new settings index world) :=
    ⟨settings, index, world, Relation.ReflTransGen.refl⟩
  have htimely : (new settings index world).IsTimely before :=
    List.pairwise_cons.mpr ⟨fun _ _ => Nat.zero_le _, hbefore⟩
  have hplayed := hstart.trans (reaches_play hstart htimely fun _ => rfl)
  have hnow : ((new settings index world).play before).now ≤ instant := by
    apply play_now_le (Nat.zero_le instant)
    intro due hdue
    exact hacross due.1 (List.mem_map_of_mem hdue) instant List.mem_cons_self
  have hinstant : instant ≤ horizon :=
    hhorizon _ (List.mem_append_right before List.mem_cons_self)
  have hlater : forall due, due ∈ after -> instant ≤ due.1 := fun due hdue =>
    hafter due.1 (List.mem_map_of_mem hdue)
  rw [play_append, play_append, ← runUntil_play hplayed hnow hlater hinstant]
  exact differsUnseen_of_receive (hplayed.trans (reaches_runUntil hnow))
    (isHandled_runUntil _ instant) hshown after horizon

def patient : List (Nat × Signal) :=
  [(0, .event (.valueChanged ['R'])), (400, .event (.select 0))]

/--
The selection falls into the pause of `R`, when nothing is on show yet; the question still
comes at its time, and so does the list from which the same index is picked later.
-/
theorem patient_ignoring :
    (shown (((new ⟨300, []⟩ readers ()).play [(0, .event (.valueChanged ['R']))]).runUntil
        100).history).length ≤ 0 ∧
      DiffersUnseen (((new ⟨300, []⟩ readers ()).play patient).runUntil 500)
        (((new ⟨300, []⟩ readers ()).play
          [(0, .event (.valueChanged ['R'])), (100, .event (.select 0)),
            (400, .event (.select 0))]).runUntil 500) ∧
      (timed Moment.question?
          (((new ⟨300, []⟩ readers ()).play patient).runUntil 500).history).map
        (fun asked => (asked.1, asked.2.1)) = [(300, ['R'])] ∧
      (((new ⟨300, []⟩ readers ()).play patient).runUntil 500).outcome =
        some (.selected ⟨"Reader", none⟩) := by
  have hshown : (shown (((new ⟨300, []⟩ readers ()).play
      [(0, .event (.valueChanged ['R']))]).runUntil 100).history).length ≤ 0 := by
    decide
  have hunseen : DiffersUnseen
      (((new ⟨300, []⟩ readers ()).play
        ([(0, .event (.valueChanged ['R']))] ++ [(400, .event (.select 0))])).runUntil 500)
      (((new ⟨300, []⟩ readers ()).play
        ([(0, .event (.valueChanged ['R']))] ++ (100, .event (.select 0)) ::
          [(400, .event (.select 0))])).runUntil 500) :=
    play_ignoring (by decide) (by decide) hshown
  exact ⟨hshown, hunseen, rfl, rfl⟩

end Session
end Prompt
end StubAssist

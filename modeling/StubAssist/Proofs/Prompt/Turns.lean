import StubAssist.Prompt.Session

/-!
# Turns of a session

Says once what a turn of the prompt can do, and what `perform`, `take` and `begin`
do to each part of a session.  A finished session takes no turn, and a turn that
the prompt does not allow changes nothing; any other turn adds one moment to the
history.
-/

namespace StubAssist
namespace Prompt

/-!
# What an answer does
-/

namespace State

section ShowResults

variable (state : State) (result : Except AssistError (List Candidate))

@[simp] theorem showResults_phase :
    (state.showResults result).1.phase = .showingResults := by
  cases result <;> rfl

@[simp] theorem showResults_pending :
    (state.showResults result).1.pending = state.pending := by
  cases result <;> rfl

@[simp] theorem showResults_inFlight :
    (state.showResults result).1.inFlight = none := by
  cases result <;> rfl

@[simp] theorem showResults_query :
    (state.showResults result).2.query = none := by
  cases result <;> rfl

@[simp] theorem showResults_outcome :
    (state.showResults result).2.outcome = none := by
  cases result <;> rfl

end ShowResults

/-!
# What a turn can do
-/

/-- A turn that `state` allows, with the state and the effect it leads to. -/
inductive Allows (debounce now : Nat) (state : State) :
    Turn -> State -> Effect -> Prop where
  | changed (value : Text) :
      Allows debounce now state (.event (.valueChanged value))
        (state.change now debounce value).1 (state.change now debounce value).2
  | selected {index : Nat} {candidate : Candidate}
      (hitem : state.items[index]? = some candidate) :
      Allows debounce now state (.event (.select index))
        (state.finish .selected (.selected candidate)).1
        (state.finish .selected (.selected candidate)).2
  | ignored {index : Nat} (hitem : state.items[index]? = none) :
      Allows debounce now state (.event (.select index)) state .none
  | cancelled {turn : Turn} (hturn : turn = .event .dismiss ∨ turn = .closed) :
      Allows debounce now state turn state.cancel.1 state.cancel.2
  | raised {pending : Pending} (hpending : state.pending = some pending) :
      Allows debounce now state .deadline
        (state.raise pending).1 (state.raise pending).2
  | asked {value : Text} (hflight : state.inFlight = some ⟨value, false⟩) :
      Allows debounce now state .asking
        { state with inFlight := some ⟨value, true⟩ }
        { Effect.none with query := some value }
  | answered {value : Text} (result : Except AssistError (List Candidate))
      (hflight : state.inFlight = some ⟨value, true⟩) :
      Allows debounce now state (.answer result)
        (state.showResults result).1 (state.showResults result).2

theorem allows_of_turn
    {debounce now : Nat} {state next : State} {turn : Turn} {effect : Effect}
    (hturn : state.turn debounce now turn = some (next, effect)) :
    Allows debounce now state turn next effect := by
  cases turn with
  | event event =>
      cases event with
      | valueChanged value =>
          cases hturn
          exact Allows.changed value
      | select index =>
          simp only [State.turn, State.select, Option.some.injEq] at hturn
          cases hitem : state.items[index]? with
          | none =>
              rw [hitem] at hturn
              cases hturn
              exact Allows.ignored hitem
          | some candidate =>
              rw [hitem] at hturn
              cases hturn
              exact Allows.selected hitem
      | dismiss =>
          cases hturn
          exact Allows.cancelled (Or.inl rfl)
  | closed =>
      cases hturn
      exact Allows.cancelled (Or.inr rfl)
  | deadline =>
      simp only [State.turn, Option.map_eq_some_iff] at hturn
      rcases hturn with ⟨pending, hpending, hraise⟩
      cases hraise
      exact Allows.raised hpending
  | asking =>
      simp only [State.turn, Option.bind_eq_some_iff] at hturn
      rcases hturn with ⟨⟨value, isAsked⟩, hflight, hask⟩
      cases isAsked with
      | false =>
          cases hask
          exact Allows.asked hflight
      | true =>
          cases hask
  | answer result =>
      simp only [State.turn, Option.map_eq_some_iff, Option.filter_eq_some_iff] at hturn
      rcases hturn with ⟨⟨value, isAsked⟩, ⟨hflight, hasked⟩, hresults⟩
      cases hasked
      have hnext : (state.showResults result).1 = next := congrArg Prod.fst hresults
      have heffect : (state.showResults result).2 = effect := congrArg Prod.snd hresults
      rw [← hnext, ← heffect]
      exact Allows.answered result hflight

theorem turn_of_allows
    {debounce now : Nat} {state next : State} {turn : Turn} {effect : Effect}
    (hallows : Allows debounce now state turn next effect) :
    state.turn debounce now turn = some (next, effect) := by
  cases hallows with
  | changed value =>
      rfl
  | selected hitem =>
      simp only [State.turn, State.select, hitem]
  | ignored hitem =>
      simp only [State.turn, State.select, hitem]
  | cancelled hturn =>
      rcases hturn with hturn | hturn
      · rw [hturn]
        rfl
      · rw [hturn]
        rfl
  | raised hpending =>
      simp only [State.turn, hpending, Option.map_some]
  | asked hflight =>
      simp only [State.turn, hflight, Option.bind_some, State.ask]
      rfl
  | answered result hflight =>
      simp only [State.turn, hflight, Option.filter_some, if_true, Option.map_some]

theorem Allows.phase_ne_idle
    {debounce now : Nat} {state next : State} {turn : Turn} {effect : Effect}
    (hallows : Allows debounce now state turn next effect)
    (hbegun : state.phase ≠ .idle) :
    next.phase ≠ .idle := by
  cases hallows with
  | ignored hitem =>
      exact hbegun
  | asked hflight =>
      exact hbegun
  | answered result hflight =>
      rw [showResults_phase]
      exact Phase.noConfusion
  | changed value =>
      exact Phase.noConfusion
  | selected hitem =>
      exact Phase.noConfusion
  | cancelled hturn =>
      exact Phase.noConfusion
  | raised hpending =>
      exact Phase.noConfusion

end State

namespace Session

variable {ω : Type}

/-!
# Performing an effect
-/

section Perform

variable (session : Session ω) (turn : Option Turn) (state : State) (effect : Effect)

@[simp] theorem perform_state :
    (session.perform turn state effect).state = state := rfl

@[simp] theorem perform_now :
    (session.perform turn state effect).now = session.now := rfl

@[simp] theorem perform_queue :
    (session.perform turn state effect).queue = session.queue := rfl

@[simp] theorem perform_isClosed :
    (session.perform turn state effect).isClosed = session.isClosed := rfl

@[simp] theorem perform_outcome :
    (session.perform turn state effect).outcome =
      (session.outcome <|> effect.outcome) := rfl

@[simp] theorem perform_history :
    (session.perform turn state effect).history =
      session.history ++ [session.moment turn effect] := rfl

@[simp] theorem perform_arrival :
    (session.perform turn state effect).arrival =
      if state.inFlight.isNone then none
      else ((session.consult effect.query).1.map session.arrivalOf <|>
        session.arrival) := rfl

theorem perform_withQueue (queue : List Event) :
    (session.withQueue queue).perform turn state effect =
      (session.perform turn state effect).withQueue queue := rfl

end Perform

/-!
# Replacing the queue and the clock
-/

section WithQueue

variable (session : Session ω) (queue : List Event)

@[simp] theorem withQueue_queue_self :
    session.withQueue session.queue = session := rfl

@[simp] theorem withQueue_isClosed :
    (session.withQueue queue).isClosed = session.isClosed := rfl

@[simp] theorem withQueue_now :
    (session.withQueue queue).now = session.now := rfl

end WithQueue

section MovedTo

variable (session : Session ω) (instant : Nat)

@[simp] theorem movedTo_now :
    (session.movedTo instant).now = instant := rfl

end MovedTo

/-!
# Taking a turn
-/

theorem take_of_isFinished
    {session : Session ω} (turn : Turn) (hfinished : session.isFinished = true) :
    session.take turn = session := by
  unfold take
  rw [if_pos hfinished]

theorem take_of_turn_none
    {session : Session ω} {turn : Turn}
    (hturn : session.state.turn session.settings.debounceMillis session.now turn =
      none) :
    session.take turn = session := by
  unfold take
  rw [hturn]
  exact ite_self session

theorem take_of_turn_some
    {session : Session ω} {turn : Turn} {state : State} {effect : Effect}
    (hrunning : session.isFinished = false)
    (hturn : session.state.turn session.settings.debounceMillis session.now turn =
      some (state, effect)) :
    session.take turn = session.perform (some turn) state effect := by
  unfold take
  rw [hrunning, hturn]
  rfl

theorem take_of_allows
    {session : Session ω} {turn : Turn} {state : State} {effect : Effect}
    (hrunning : session.isFinished = false)
    (hallows : State.Allows session.settings.debounceMillis session.now session.state
      turn state effect) :
    session.take turn = session.perform (some turn) state effect :=
  take_of_turn_some hrunning (State.turn_of_allows hallows)

theorem take_cases (session : Session ω) (turn : Turn) :
    session.take turn = session ∨
      exists state effect,
        session.isFinished = false ∧
        State.Allows session.settings.debounceMillis session.now session.state
          turn state effect ∧
        session.take turn = session.perform (some turn) state effect := by
  cases hfinished : session.isFinished with
  | true =>
      exact Or.inl (take_of_isFinished turn hfinished)
  | false =>
      cases hturn : session.state.turn session.settings.debounceMillis session.now turn with
      | none =>
          exact Or.inl (take_of_turn_none hturn)
      | some next =>
          cases next with
          | mk state effect =>
              exact Or.inr
                ⟨state, effect, rfl, State.allows_of_turn hturn,
                  take_of_turn_some hfinished hturn⟩

theorem take_withQueue (session : Session ω) (turn : Turn) (queue : List Event) :
    (session.withQueue queue).take turn = (session.take turn).withQueue queue := by
  cases hfinished : session.isFinished with
  | true =>
      rw [take_of_isFinished turn hfinished]
      exact take_of_isFinished turn hfinished
  | false =>
      cases hturn : session.state.turn session.settings.debounceMillis session.now turn with
      | none =>
          rw [take_of_turn_none hturn]
          exact take_of_turn_none hturn
      | some next =>
          rw [take_of_turn_some hfinished hturn, ← perform_withQueue]
          exact take_of_turn_some hfinished hturn

@[simp] theorem take_now (session : Session ω) (turn : Turn) :
    (session.take turn).now = session.now := by
  rcases take_cases session turn with h | ⟨state, effect, _, _, h⟩
  · rw [h]
  · rw [h, perform_now]

@[simp] theorem take_queue (session : Session ω) (turn : Turn) :
    (session.take turn).queue = session.queue := by
  rcases take_cases session turn with h | ⟨state, effect, _, _, h⟩
  · rw [h]
  · rw [h, perform_queue]

@[simp] theorem take_isClosed (session : Session ω) (turn : Turn) :
    (session.take turn).isClosed = session.isClosed := by
  rcases take_cases session turn with h | ⟨state, effect, _, _, h⟩
  · rw [h]
  · rw [h, perform_isClosed]

theorem take_closed_isFinished (session : Session ω) :
    (session.take .closed).isFinished = true := by
  cases hfinished : session.isFinished with
  | true =>
      rw [take_of_isFinished .closed hfinished]
      exact hfinished
  | false =>
      rw [take_of_allows hfinished (State.Allows.cancelled (Or.inr rfl))]
      unfold isFinished
      rw [perform_outcome]
      cases session.outcome <;> rfl

theorem take_phase_ne_idle
    {session : Session ω} (turn : Turn) (hbegun : session.state.phase ≠ .idle) :
    (session.take turn).state.phase ≠ .idle := by
  rcases take_cases session turn with h | ⟨state, effect, _, hallows, h⟩
  · rw [h]
    exact hbegun
  · rw [h, perform_state]
    exact hallows.phase_ne_idle hbegun

/-!
# Opening
-/

theorem begin_of_begun
    {session : Session ω} (hbegun : session.state.phase ≠ .idle) :
    session.begin = session := by
  unfold begin
  rw [if_neg hbegun]

theorem begin_of_idle
    {session : Session ω} (hidle : session.state.phase = .idle) :
    session.begin =
      session.perform none (State.start session.settings.placeholder).1
        (State.start session.settings.placeholder).2 := by
  unfold begin
  rw [if_pos hidle]

theorem begin_phase_ne_idle (session : Session ω) :
    session.begin.state.phase ≠ .idle := by
  by_cases hidle : session.state.phase = .idle
  · rw [begin_of_idle hidle]
    exact Phase.noConfusion
  · rw [begin_of_begun hidle]
    exact hidle

@[simp] theorem begin_queue (session : Session ω) :
    session.begin.queue = session.queue := by
  unfold begin
  split <;> rfl

@[simp] theorem begin_isClosed (session : Session ω) :
    session.begin.isClosed = session.isClosed := by
  unfold begin
  split <;> rfl

@[simp] theorem begin_now (session : Session ω) :
    session.begin.now = session.now := by
  unfold begin
  split <;> rfl

/-!
# Handling events
-/

theorem takeEvents_cons (session : Session ω) (event : Event) (events : List Event) :
    session.takeEvents (event :: events) =
      (session.take (.event event)).takeEvents events := rfl

@[simp] theorem takeEvents_queue (session : Session ω) (events : List Event) :
    (session.takeEvents events).queue = session.queue := by
  induction events generalizing session with
  | nil =>
      rfl
  | cons event rest ih =>
      rw [takeEvents_cons, ih, take_queue]

@[simp] theorem takeEvents_isClosed (session : Session ω) (events : List Event) :
    (session.takeEvents events).isClosed = session.isClosed := by
  induction events generalizing session with
  | nil =>
      rfl
  | cons event rest ih =>
      rw [takeEvents_cons, ih, take_isClosed]

@[simp] theorem takeEvents_now (session : Session ω) (events : List Event) :
    (session.takeEvents events).now = session.now := by
  induction events generalizing session with
  | nil =>
      rfl
  | cons event rest ih =>
      rw [takeEvents_cons, ih, take_now]

theorem takeEvents_phase_ne_idle
    {session : Session ω} (events : List Event) (hbegun : session.state.phase ≠ .idle) :
    (session.takeEvents events).state.phase ≠ .idle := by
  induction events generalizing session with
  | nil =>
      exact hbegun
  | cons event rest ih =>
      rw [takeEvents_cons]
      exact ih (take_phase_ne_idle _ hbegun)

theorem handleEvents_eq (session : Session ω) :
    session.handleEvents =
      if session.isClosed then
        ((session.begin.withQueue []).takeEvents session.queue).take .closed
      else (session.begin.withQueue []).takeEvents session.queue := rfl

theorem handleEvents_phase_ne_idle (session : Session ω) :
    session.handleEvents.state.phase ≠ .idle := by
  have hbegun := begin_phase_ne_idle session
  have hevents := takeEvents_phase_ne_idle session.queue
    (show (session.begin.withQueue []).state.phase ≠ .idle from hbegun)
  rw [handleEvents_eq]
  split
  · exact take_phase_ne_idle _ hevents
  · exact hevents

@[simp] theorem handleEvents_now (session : Session ω) :
    session.handleEvents.now = session.now := by
  rw [handleEvents_eq]
  split
  · rw [take_now, takeEvents_now, withQueue_now, begin_now]
  · rw [takeEvents_now, withQueue_now, begin_now]

@[simp] theorem handleEvents_isClosed (session : Session ω) :
    session.handleEvents.isClosed = session.isClosed := by
  rw [handleEvents_eq]
  split
  · rw [take_isClosed, takeEvents_isClosed, withQueue_isClosed, begin_isClosed]
  · rw [takeEvents_isClosed, withQueue_isClosed, begin_isClosed]

theorem handleEvents_isFinished_of_isClosed
    {session : Session ω} (hclosed : session.isClosed = true) :
    session.handleEvents.isFinished = true := by
  rw [handleEvents_eq, if_pos hclosed]
  exact take_closed_isFinished _

end Session
end Prompt
end StubAssist

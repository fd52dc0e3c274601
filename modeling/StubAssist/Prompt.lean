import StubAssist.Settings
import StubAssist.SymbolIndex

/-!
# The interface prompt

The user types, the prompt waits until the typing pauses, asks the symbol index
for the last value and shows the interfaces of its answer.  A new value replaces
the one that is waiting and abandons the question that is under way.

One turn of the prompt handles one thing that happened: an event from the user,
the end of the pause, or the answer of the index.  A question that the pause has
raised is put to the index in a turn of its own, so a new value may still come
before that.  Which turn comes next when several are ready is not decided here, so
a run is any sequence of turns that the prompt allows.
-/

namespace StubAssist
namespace Prompt

inductive Phase where
  | idle
  | awaitingInput
  | debouncing
  | querying
  | showingResults
  | selected
  | cancelled
deriving DecidableEq, Repr

inductive Event where
  | valueChanged (value : Text)
  | select (index : Nat)
  | dismiss
deriving DecidableEq, Repr

inductive Update where
  | state (phase : Phase)
  | placeholder (text : Text)
  | busy (isBusy : Bool)
  | items (candidates : List Candidate)
  /-- The last question failed; an empty list follows. -/
  | queryFailed (message : Text)
deriving DecidableEq, Repr

inductive Outcome where
  | selected (candidate : Candidate)
  | cancelled
deriving DecidableEq, Repr

structure Pending where
  deadline : Nat
  value : Text
deriving DecidableEq, Repr

/-- The question under way, which the index may not have been asked yet. -/
structure Question where
  value : Text
  isAsked : Bool
deriving DecidableEq, Repr

structure State where
  phase : Phase
  items : List Candidate
  pending : Option Pending
  inFlight : Option Question
deriving DecidableEq, Repr

inductive Turn where
  | event (event : Event)
  /-- No event can come any more. -/
  | closed
  | deadline
  | asking
  | answer (result : Except AssistError (List Candidate))

structure Effect where
  updates : List Update
  query : Option Text
  warning : Option Text
  outcome : Option Outcome
deriving DecidableEq, Repr

namespace Effect

def none : Effect := ⟨[], .none, .none, .none⟩

def ofUpdates (updates : List Update) : Effect :=
  { none with updates := updates }

end Effect

namespace State

def idle : State := ⟨.idle, [], none, none⟩

def start (placeholder : Text) : State × Effect :=
  ({ idle with phase := .awaitingInput },
    .ofUpdates [.placeholder placeholder, .state .awaitingInput])

/-- A new value waits for its own pause; a question under way is abandoned. -/
def change (state : State) (now debounce : Nat) (value : Text) : State × Effect :=
  ({ state with
      phase := .debouncing
      pending := some ⟨now + debounce, value⟩
      inFlight := none },
    .ofUpdates [.busy true, .state .debouncing, .busy false])

def finish (state : State) (phase : Phase) (outcome : Outcome) : State × Effect :=
  ({ state with phase := phase },
    { Effect.ofUpdates [.state phase] with outcome := some outcome })

/-- Picking an item that is not on show does nothing. -/
def select (state : State) (index : Nat) : State × Effect :=
  match state.items[index]? with
  | some candidate => state.finish .selected (.selected candidate)
  | none => (state, .none)

def cancel (state : State) : State × Effect :=
  state.finish .cancelled .cancelled

def raise (state : State) (pending : Pending) : State × Effect :=
  ({ state with
      phase := .querying
      pending := none
      inFlight := some ⟨pending.value, false⟩ },
    .ofUpdates [.state .querying])

def ask (state : State) (question : Question) : Option (State × Effect) :=
  if question.isAsked then none
  else
    some ({ state with inFlight := some { question with isAsked := true } },
      { Effect.none with query := some question.value })

/-- An answer replaces the list; a failed question leaves an empty one. -/
def showResults (state : State) : Except AssistError (List Candidate) → State × Effect
  | .ok items =>
      ({ state with phase := .showingResults, items := items, inFlight := none },
        .ofUpdates [.items items, .state .showingResults])
  | .error error =>
      ({ state with phase := .showingResults, items := [], inFlight := none },
        { Effect.ofUpdates
            [.queryFailed error.message, .items [], .state .showingResults] with
          warning := some error.message })

/--
One turn at the instant `now`.  The end of a pause, a question to the index and
its answer are possible only when the prompt waits for them.
-/
def turn (debounce now : Nat) (state : State) : Turn → Option (State × Effect)
  | .event (.valueChanged value) => some (state.change now debounce value)
  | .event (.select index) => some (state.select index)
  | .event .dismiss => some state.cancel
  | .closed => some state.cancel
  | .deadline => state.pending.map state.raise
  | .asking => state.inFlight.bind state.ask
  | .answer result =>
      (state.inFlight.filter (·.isAsked)).map fun _ => state.showResults result

end State
end Prompt
end StubAssist

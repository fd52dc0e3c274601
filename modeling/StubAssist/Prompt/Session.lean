import StubAssist.Prompt
import StubAssist.Notification

/-!
# Prompt sessions

A prompt on a clock.  The host sends events and lets time pass; the prompt runs
while time passes.  At each instant it handles the events that were sent before,
in order, and then whatever falls due: the end of a pause, then the answer to the
question that this raises.
-/

namespace StubAssist
namespace Prompt

structure Arrival where
  instant : Nat
  result : Except AssistError (List Candidate)

structure Moment where
  instant : Nat
  /-- The turn; none when the prompt opens. -/
  turn : Option Turn
  effect : Effect
  reply : Option Reply

structure Session (ω : Type) where
  settings : PromptSettings
  index : SymbolIndex ω
  world : ω
  now : Nat
  state : State
  arrival : Option Arrival
  queue : List Event
  isClosed : Bool
  outcome : Option Outcome
  history : List Moment
  /-- Updates that the host has not taken, the earliest first. -/
  updates : List Update
  warnings : List Text

namespace Session

variable {ω : Type}

def new (settings : PromptSettings) (index : SymbolIndex ω) (world : ω) : Session ω where
  settings := settings
  index := index
  world := world
  now := 0
  state := .idle
  arrival := none
  queue := []
  isClosed := false
  outcome := none
  history := []
  updates := []
  warnings := []

def isFinished (session : Session ω) : Bool :=
  session.outcome.isSome

/-- Whether the prompt takes one more event, and the session in which it has it. -/
def send (session : Session ω) (event : Event) : Bool × Session ω :=
  if session.isFinished then (false, session)
  else (true, { session with queue := session.queue ++ [event] })

def close (session : Session ω) : Session ω :=
  { session with isClosed := true }

def takeUpdates (session : Session ω) : List Update × Session ω :=
  (session.updates, { session with updates := [] })

def takeWarnings (session : Session ω) : List Text × Session ω :=
  (session.warnings, { session with warnings := [] })

/-!
# Turns
-/

def consult (session : Session ω) : Option Text → Option Reply × ω
  | none => (none, session.world)
  | some value =>
      let (reply, world) := session.index.ask session.world value
      (some reply, world)

def arrivalOf (session : Session ω) (reply : Reply) : Arrival :=
  ⟨session.now + reply.millis, reply.interfaces⟩

def moment (session : Session ω) (turn : Option Turn) (effect : Effect) : Moment :=
  ⟨session.now, turn, effect, (session.consult effect.query).1⟩

/--
Carries out what a turn does to the outside.  A change of value abandons the
answer on its way, which is the case whenever no question is under way.
-/
def perform (session : Session ω) (turn : Option Turn) (state : State) (effect : Effect) :
    Session ω :=
  let (reply, world) := session.consult effect.query
  { session with
    world := world
    state := state
    arrival :=
      if state.inFlight.isNone then none
      else reply.map session.arrivalOf <|> session.arrival
    outcome := session.outcome <|> effect.outcome
    history := session.history ++ [session.moment turn effect]
    updates := session.updates ++ effect.updates
    warnings := session.warnings ++ effect.warning.toList }

/-- One turn at the present instant, if the prompt still runs and allows it. -/
def take (session : Session ω) (turn : Turn) : Session ω :=
  if session.isFinished then session
  else
    match session.state.turn session.settings.debounceMillis session.now turn with
    | none => session
    | some (state, effect) => session.perform (some turn) state effect

def begin (session : Session ω) : Session ω :=
  if session.state.phase = .idle then
    let (state, effect) := State.start session.settings.placeholder
    session.perform none state effect
  else session

def withQueue (session : Session ω) (queue : List Event) : Session ω :=
  { session with queue := queue }

def takeEvents (session : Session ω) (events : List Event) : Session ω :=
  events.foldl (fun session event => session.take (.event event)) session

/-- Handles the events sent so far, and after them that there will be no more. -/
def handleEvents (session : Session ω) : Session ω :=
  let handled := (session.begin.withQueue []).takeEvents session.queue
  if session.isClosed then handled.take .closed else handled

def movedTo (session : Session ω) (instant : Nat) : Session ω :=
  { session with now := instant }

/-- Lets the pause end if that is due by `limit`, and puts the question. -/
def passDeadline (session : Session ω) (limit : Nat) : Session ω :=
  match session.state.pending with
  | some pending =>
      if pending.deadline ≤ limit && !session.isFinished then
        ((session.movedTo (max session.now pending.deadline)).take .deadline).take .asking
      else session
  | none => session

def passArrival (session : Session ω) (limit : Nat) : Session ω :=
  match session.arrival with
  | some arrival =>
      if arrival.instant ≤ limit && !session.isFinished then
        (session.movedTo (max session.now arrival.instant)).take (.answer arrival.result)
      else session
  | none => session

def settle (session : Session ω) : Session ω :=
  let session := session.handleEvents
  (session.passDeadline session.now).passArrival session.now

def runUntil (session : Session ω) (instant : Nat) : Session ω :=
  ((session.handleEvents.passDeadline instant).passArrival instant).movedTo instant

/-!
# Waiting for a list
-/

inductive Awaited where
  | items (candidates : List Candidate)
  | closed
  | timedOut
deriving DecidableEq, Repr

def firstItems? : List Update → Option (List Candidate × List Update)
  | [] => none
  | .items candidates :: rest => some (candidates, rest)
  | _ :: rest => firstItems? rest

/-- Waits at most `patience` for a list; the updates before it are lost. -/
def awaitItems (session : Session ω) (patience : Nat) : Awaited × Session ω :=
  let limit := session.now + patience
  let session := (session.handleEvents.passDeadline limit).passArrival limit
  match firstItems? session.updates with
  | some (candidates, rest) => (.items candidates, { session with updates := rest })
  | none =>
      let session := { session with updates := [] }
      if session.isFinished then (.closed, session)
      else (.timedOut, session.movedTo limit)

def finish (session : Session ω) : Outcome × Session ω :=
  let session := session.close.handleEvents
  (session.outcome.getD .cancelled, session)

end Session
end Prompt
end StubAssist

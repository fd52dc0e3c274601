import StubAssist.Proofs.Prompt.Supersession

/-!
# Scripts

A script says at which instants which signals reach a prompt.  Playing it lets time
pass from signal to signal, and each signal is handled at its own instant.  Playing
a script is a run, so all that holds of runs holds of it.
-/

namespace StubAssist
namespace Prompt
namespace Session

variable {ω : Type}

def receive (session : Session ω) : Signal -> Session ω
  | .event event => (session.send event).2.handleEvents
  | .hangUp => session.close.handleEvents

def deliver (session : Session ω) (instant : Nat) (signal : Signal) : Session ω :=
  (session.runUntil instant).receive signal

def play (session : Session ω) : List (Nat × Signal) -> Session ω
  | [] => session
  | (instant, signal) :: rest => (session.deliver instant signal).play rest

/-- Whether a pause ends or an answer arrives at `instant`, if no signal comes before. -/
def FallsDue (session : Session ω) (instant : Nat) : Prop :=
  session.isFinished = false ∧
    ((exists pending, pending ∈ session.state.pending ∧ pending.deadline = instant) ∨
      exists arrival, arrival ∈ (session.passDeadline instant).arrival ∧
        arrival.instant = instant)

instance (session : Session ω) (instant : Nat) : Decidable (session.FallsDue instant) :=
  inferInstanceAs (Decidable (_ ∧ (_ ∨ _)))

def Untied (session : Session ω) : List (Nat × Signal) -> Prop
  | [] => True
  | (instant, signal) :: rest =>
      ¬ session.FallsDue instant ∧ (session.deliver instant signal).Untied rest

instance decidableUntied (session : Session ω) (script : List (Nat × Signal)) :
    Decidable (session.Untied script) :=
  match script with
  | [] => inferInstanceAs (Decidable True)
  | (instant, signal) :: rest =>
      have := decidableUntied (session.deliver instant signal) rest
      inferInstanceAs (Decidable (_ ∧ _))

/-!
# Playing is a run
-/

@[simp] theorem receive_now (session : Session ω) (signal : Signal) :
    (session.receive signal).now = session.now := by
  cases signal with
  | event event =>
      unfold receive
      rw [handleEvents_now]
      unfold send
      split <;> rfl
  | hangUp =>
      unfold receive
      rw [handleEvents_now]
      rfl

/-- Hanging up ends a run, so the host may send as long as it goes on. -/
abbrev StaysOpen (session : Session ω) : Prop :=
  session.isFinished = false -> session.isClosed = false

theorem passDeadline_isClosed (session : Session ω) (limit : Nat) :
    (session.passDeadline limit).isClosed = session.isClosed := by
  unfold passDeadline
  split
  · split
    · rw [take_isClosed, take_isClosed]
      rfl
    · rfl
  · rfl

theorem passArrival_isClosed (session : Session ω) (limit : Nat) :
    (session.passArrival limit).isClosed = session.isClosed := by
  unfold passArrival
  split
  · split
    · rw [take_isClosed]
      rfl
    · rfl
  · rfl

theorem runUntil_isClosed (session : Session ω) (instant : Nat) :
    (session.runUntil instant).isClosed = session.isClosed := by
  show ((session.handleEvents.passDeadline instant).passArrival instant).isClosed = _
  rw [passArrival_isClosed, passDeadline_isClosed, handleEvents_isClosed]

theorem reaches_receive
    {session : Session ω} (signal : Signal)
    (hopen : session.StaysOpen) :
    Reaches session (session.receive signal) := by
  cases signal with
  | event event =>
      cases hfinished : session.isFinished with
      | true =>
          have hsend : (session.send event).2 = session := by
            unfold send
            rw [if_pos hfinished]
          show Reaches session (session.send event).2.handleEvents
          rw [hsend]
          exact reaches_handleEvents session
      | false =>
          exact (Relation.ReflTransGen.single (Step.send event (hopen hfinished))).trans
            (reaches_handleEvents _)
  | hangUp =>
      exact (Relation.ReflTransGen.single Step.close).trans (reaches_handleEvents _)

theorem staysOpen_receive
    {session : Session ω} (signal : Signal) (hreachable : Reachable session)
    (hopen : session.StaysOpen) :
    (session.receive signal).StaysOpen := by
  intro hrunning
  have hbefore := isFinished_eq_false_of_reaches hreachable
    (reaches_receive signal hopen) hrunning
  cases signal with
  | event event =>
      show (session.send event).2.handleEvents.isClosed = false
      rw [handleEvents_isClosed, ← hopen hbefore]
      unfold send
      split <;> rfl
  | hangUp =>
      have hended : (session.receive .hangUp).isFinished = true :=
        handleEvents_isFinished_of_isClosed rfl
      rw [hended] at hrunning
      cases hrunning

theorem staysOpen_runUntil
    {session : Session ω} {instant : Nat} (hreachable : Reachable session)
    (hinstant : session.now ≤ instant) (hopen : session.StaysOpen) :
    (session.runUntil instant).StaysOpen := by
  intro hrunning
  have hbefore := isFinished_eq_false_of_reaches hreachable
    (reaches_runUntil hinstant) hrunning
  rw [runUntil_isClosed]
  exact hopen hbefore

theorem reaches_deliver
    {session : Session ω} {instant : Nat} (signal : Signal)
    (hreachable : Reachable session) (hinstant : session.now ≤ instant)
    (hopen : session.StaysOpen) :
    Reaches session (session.deliver instant signal) ∧
      (session.deliver instant signal).StaysOpen := by
  have hrun := reaches_runUntil hinstant
  have hrunOpen := staysOpen_runUntil hreachable hinstant hopen
  exact ⟨hrun.trans (reaches_receive signal hrunOpen),
    staysOpen_receive signal (hreachable.trans hrun) hrunOpen⟩

def IsTimely (session : Session ω) (script : List (Nat × Signal)) : Prop :=
  (session.now :: script.map Prod.fst).Pairwise (· ≤ ·)

theorem isTimely_cons
    {session : Session ω} {instant : Nat} {signal : Signal} {rest : List (Nat × Signal)}
    (htimely : session.IsTimely ((instant, signal) :: rest)) :
    session.now ≤ instant ∧ (session.deliver instant signal).IsTimely rest := by
  have hpairwise := List.pairwise_cons.mp htimely
  constructor
  · exact hpairwise.left instant (by simp)
  · have hnow : (session.deliver instant signal).now = instant := receive_now _ signal
    unfold IsTimely
    rw [hnow]
    exact hpairwise.right

theorem reaches_play
    {session : Session ω} {script : List (Nat × Signal)}
    (hreachable : Reachable session) (htimely : session.IsTimely script)
    (hopen : session.StaysOpen) :
    Reaches session (session.play script) := by
  induction script generalizing session with
  | nil =>
      exact Relation.ReflTransGen.refl
  | cons due rest ih =>
      rcases due with ⟨instant, signal⟩
      rcases isTimely_cons htimely with ⟨hinstant, hrest⟩
      rcases reaches_deliver signal hreachable hinstant hopen with ⟨hdeliver, hopen'⟩
      exact hdeliver.trans (ih (hreachable.trans hdeliver) hrest hopen')

theorem play_now_le
    {session : Session ω} {script : List (Nat × Signal)} {horizon : Nat}
    (hnow : session.now ≤ horizon)
    (hhorizon : forall due, due ∈ script -> due.1 ≤ horizon) :
    (session.play script).now ≤ horizon := by
  induction script generalizing session with
  | nil =>
      exact hnow
  | cons due rest ih =>
      rcases due with ⟨instant, signal⟩
      have hdeliver : (session.deliver instant signal).now = instant := receive_now _ signal
      apply ih
      · rw [hdeliver]
        exact hhorizon (instant, signal) (by simp)
      · intro later hlater
        exact hhorizon later (List.mem_cons_of_mem _ hlater)

/-!
# An attentive prompt

Between two signals of a script a prompt has handled all that came.  Then handling
one more is one turn, and letting time pass is the end of the pause and the answer.
-/

structure IsAttentive (session : Session ω) : Prop where
  begun : session.state.phase ≠ .idle
  running : session.outcome = none
  opened : session.isClosed = false
  handled : session.queue = []

theorem IsAttentive.isFinished_eq_false
    {session : Session ω} (hattentive : session.IsAttentive) :
    session.isFinished = false := by
  unfold isFinished
  rw [hattentive.running]
  rfl

theorem handleEvents_of_isAttentive
    {session : Session ω} (hattentive : session.IsAttentive) :
    session.handleEvents = session := by
  rw [handleEvents_eq, begin_of_begun hattentive.begun, hattentive.opened,
    hattentive.handled]
  show session.withQueue [] = session
  rw [← hattentive.handled, withQueue_queue_self]

theorem receive_event_of_isAttentive
    {session : Session ω} (hattentive : session.IsAttentive) (event : Event) :
    session.receive (.event event) = session.take (.event event) := by
  have hsend : (session.send event).2 = session.withQueue [event] := by
    unfold send
    rw [hattentive.isFinished_eq_false, hattentive.handled]
    rfl
  have hbegun : (session.withQueue [event]).state.phase ≠ .idle := hattentive.begun
  have hopened : (session.withQueue [event]).isClosed = false := hattentive.opened
  have hhandled : (session.take (.event event)).queue = [] := by
    rw [take_queue, hattentive.handled]
  show (session.send event).2.handleEvents = session.take (.event event)
  rw [hsend, handleEvents_eq, begin_of_begun hbegun, hopened]
  show (session.withQueue []).take (.event event) = session.take (.event event)
  rw [take_withQueue, ← hhandled, withQueue_queue_self]

theorem receive_hangUp_of_isAttentive
    {session : Session ω} (hattentive : session.IsAttentive) :
    session.receive .hangUp = session.close.take .closed := by
  have hbegun : session.close.state.phase ≠ .idle := hattentive.begun
  have hclosed : session.close.isClosed = true := rfl
  have hhandled : session.close.queue = [] := hattentive.handled
  show session.close.handleEvents = session.close.take .closed
  rw [handleEvents_eq, begin_of_begun hbegun, hclosed, hhandled]
  show (session.close.withQueue []).take .closed = session.close.take .closed
  rw [← hhandled, withQueue_queue_self]

theorem runUntil_of_isAttentive
    {session : Session ω} (hattentive : session.IsAttentive) (instant : Nat) :
    session.runUntil instant =
      ((session.passDeadline instant).passArrival instant).movedTo instant := by
  unfold runUntil
  rw [handleEvents_of_isAttentive hattentive]

end Session
end Prompt
end StubAssist

import Mathlib.Logic.Relation
import StubAssist.Proofs.Prompt.Turns

/-!
# Runs of a session

A run is any sequence of steps: the host sends events, stops sending or reads what
it was told, time passes, and the prompt takes a turn that is ready.  When several
turns are ready at once, each of them is a step, and nothing makes the prompt take
one in time.  Handling events and letting time pass are runs of this kind, so what
holds of every run holds of them.
-/

namespace StubAssist
namespace Prompt
namespace Session

variable {ω : Type}

/--
One step of a session.  The earliest event comes first, the end of the events is
seen after the last one, and a deadline or an answer is ready from its instant on.
-/
inductive Step : Session ω -> Session ω -> Prop where
  | send {session : Session ω} (event : Event) (hopen : session.isClosed = false) :
      Step session (session.send event).2
  | close {session : Session ω} :
      Step session session.close
  | takeUpdates {session : Session ω} :
      Step session session.takeUpdates.2
  | takeWarnings {session : Session ω} :
      Step session session.takeWarnings.2
  | wait {session : Session ω} {instant : Nat} (hinstant : session.now ≤ instant) :
      Step session (session.movedTo instant)
  | begin {session : Session ω} :
      Step session session.begin
  | event {session : Session ω} {event : Event} {rest : List Event}
      (hbegun : session.state.phase ≠ .idle)
      (hqueue : session.queue = event :: rest) :
      Step session ((session.withQueue rest).take (.event event))
  | closed {session : Session ω}
      (hbegun : session.state.phase ≠ .idle)
      (hqueue : session.queue = [])
      (hclosed : session.isClosed = true) :
      Step session (session.take .closed)
  | deadline {session : Session ω} {pending : Pending}
      (hbegun : session.state.phase ≠ .idle)
      (hpending : session.state.pending = some pending)
      (hdue : pending.deadline ≤ session.now) :
      Step session (session.take .deadline)
  | asking {session : Session ω}
      (hbegun : session.state.phase ≠ .idle) :
      Step session (session.take .asking)
  | answer {session : Session ω} {arrival : Arrival}
      (hbegun : session.state.phase ≠ .idle)
      (harrival : session.arrival = some arrival)
      (hdue : arrival.instant ≤ session.now) :
      Step session (session.take (.answer arrival.result))

abbrev Reaches : Session ω -> Session ω -> Prop :=
  Relation.ReflTransGen Step

def Reachable (session : Session ω) : Prop :=
  exists settings index world, Reaches (new settings index world) session

theorem Reachable.trans
    {session next : Session ω} (hreachable : Reachable session)
    (hreaches : Reaches session next) :
    Reachable next := by
  rcases hreachable with ⟨settings, index, world, hstart⟩
  exact ⟨settings, index, world, hstart.trans hreaches⟩

/-!
# What a step comes to
-/

/--
A step is a matter of the host or the clock, which the prompt does not notice, or the
opening, or a turn.
-/
inductive Course (session : Session ω) : Session ω -> Prop where
  | outside (queue : List Event) (isClosed : Bool) {now : Nat} (updates : List Update)
      (warnings : List Text) (hnow : session.now ≤ now) :
      Course session { session with
        queue := queue, isClosed := isClosed, now := now, updates := updates,
        warnings := warnings }
  | opening : Course session session.begin
  | turn (queue : List Event) {turn : Turn} (hbegun : session.state.phase ≠ .idle)
      (hready : forall result, turn = .answer result ->
        exists instant, session.arrival = some ⟨instant, result⟩) :
      Course session ((session.withQueue queue).take turn)

theorem course_of_step
    {session next : Session ω} (hstep : Step session next) :
    Course session next := by
  have hnow := Nat.le_refl session.now
  cases hstep with
  | send event hopen =>
      unfold send
      split
      · exact Course.outside _ _ _ _ hnow
      · exact Course.outside _ _ _ _ hnow
  | close => exact Course.outside _ _ _ _ hnow
  | takeUpdates => exact Course.outside _ _ _ _ hnow
  | takeWarnings => exact Course.outside _ _ _ _ hnow
  | wait hinstant => exact Course.outside _ _ _ _ hinstant
  | begin => exact Course.opening
  | event hbegun hqueue => exact Course.turn _ hbegun (fun _ hturn => nomatch hturn)
  | closed hbegun hqueue hclosed =>
      exact Course.turn session.queue hbegun (fun _ hturn => nomatch hturn)
  | deadline hbegun hpending hdue =>
      exact Course.turn session.queue hbegun (fun _ hturn => nomatch hturn)
  | asking hbegun =>
      exact Course.turn session.queue hbegun (fun _ hturn => nomatch hturn)
  | @answer arrival hbegun harrival hdue =>
      refine Course.turn session.queue hbegun ?_
      intro result hturn
      cases hturn
      exact ⟨arrival.instant, harrival⟩

/-!
# The clock of a run

Time does not go back, and a step adds at most the moment of the present instant.
-/

theorem take_history_cases (session : Session ω) (turn : Turn) :
    (session.take turn).history = session.history ∨
      exists moment, moment.instant = session.now ∧
        (session.take turn).history = session.history ++ [moment] := by
  rcases take_cases session turn with hsame | ⟨state, effect, _, _, hperform⟩
  · rw [hsame]
    exact Or.inl rfl
  · rw [hperform]
    exact Or.inr ⟨session.moment (some turn) effect, rfl, rfl⟩

theorem step_history
    {session next : Session ω} (hstep : Step session next) :
    session.now ≤ next.now ∧
      (next.history = session.history ∨
        exists moment, moment.instant = session.now ∧
          next.history = session.history ++ [moment]) := by
  cases course_of_step hstep with
  | outside queue isClosed updates warnings hnow =>
      exact ⟨hnow, Or.inl rfl⟩
  | opening =>
      unfold begin
      split
      · exact ⟨Nat.le_refl session.now, Or.inr ⟨_, rfl, rfl⟩⟩
      · exact ⟨Nat.le_refl session.now, Or.inl rfl⟩
  | turn queue hbegun hready =>
      rw [take_now]
      exact ⟨Nat.le_refl session.now, take_history_cases (session.withQueue queue) _⟩

theorem instant_le_now_of_reachable
    {session : Session ω} (hreachable : Reachable session) :
    forall moment, moment ∈ session.history -> moment.instant ≤ session.now := by
  rcases hreachable with ⟨settings, index, world, hreaches⟩
  induction hreaches with
  | refl =>
      intro moment hmem
      cases hmem
  | tail _ hstep ih =>
      rcases step_history hstep with ⟨hnow, hsame | ⟨latest, hlatest, hconcat⟩⟩
      · intro moment hmem
        rw [hsame] at hmem
        exact Nat.le_trans (ih moment hmem) hnow
      · intro moment hmem
        rw [hconcat] at hmem
        rcases List.mem_append.mp hmem with hbefore | hlast
        · exact Nat.le_trans (ih moment hbefore) hnow
        · rw [List.mem_singleton.mp hlast, hlatest]
          exact hnow

/-!
# Handling events is a run
-/

theorem reaches_takeEvents
    (session : Session ω) (events : List Event)
    (hbegun : session.state.phase ≠ .idle) :
    Reaches (session.withQueue events) ((session.withQueue []).takeEvents events) := by
  induction events generalizing session with
  | nil =>
      exact Relation.ReflTransGen.refl
  | cons event rest ih =>
      have hstep : Step (session.withQueue (event :: rest))
          ((session.withQueue rest).take (.event event)) := by
        have hqueue : (session.withQueue (event :: rest)).queue = event :: rest := rfl
        exact Step.event hbegun hqueue
      have hrest := ih (session.take (.event event)) (take_phase_ne_idle _ hbegun)
      rw [← take_withQueue] at hrest
      rw [takeEvents_cons, take_withQueue]
      exact Relation.ReflTransGen.head hstep hrest

theorem reaches_handleEvents (session : Session ω) :
    Reaches session session.handleEvents := by
  have hbegun := begin_phase_ne_idle session
  have hbegin : Reaches session session.begin := Relation.ReflTransGen.single Step.begin
  have hevents := reaches_takeEvents session.begin session.begin.queue hbegun
  rw [withQueue_queue_self, begin_queue] at hevents
  rw [handleEvents_eq]
  cases hclosed : session.isClosed with
  | true =>
      have hphase := takeEvents_phase_ne_idle session.queue
        (show (session.begin.withQueue []).state.phase ≠ .idle from hbegun)
      have hqueue := takeEvents_queue (session.begin.withQueue []) session.queue
      have hended : ((session.begin.withQueue []).takeEvents session.queue).isClosed =
          true := by
        rw [takeEvents_isClosed, withQueue_isClosed, begin_isClosed, hclosed]
      exact (hbegin.trans hevents).tail (Step.closed hphase hqueue hended)
  | false =>
      exact hbegin.trans hevents

/-!
# Letting time pass is a run
-/

theorem reaches_movedTo
    {session : Session ω} {instant : Nat} (hinstant : session.now ≤ instant) :
    Reaches session (session.movedTo instant) :=
  Relation.ReflTransGen.single (Step.wait hinstant)

theorem reaches_passDeadline
    {session : Session ω} (limit : Nat) (hbegun : session.state.phase ≠ .idle) :
    Reaches session (session.passDeadline limit) := by
  unfold passDeadline
  split
  · rename_i pending hpending
    split
    · have hmoved := reaches_movedTo (Nat.le_max_left session.now pending.deadline)
      have hdeadline : Step (session.movedTo (max session.now pending.deadline))
          ((session.movedTo (max session.now pending.deadline)).take .deadline) :=
        Step.deadline hbegun hpending (Nat.le_max_right session.now pending.deadline)
      exact (hmoved.tail hdeadline).tail (Step.asking (take_phase_ne_idle _ hbegun))
    · exact Relation.ReflTransGen.refl
  · exact Relation.ReflTransGen.refl

theorem reaches_passArrival
    {session : Session ω} (limit : Nat) (hbegun : session.state.phase ≠ .idle) :
    Reaches session (session.passArrival limit) := by
  unfold passArrival
  split
  · rename_i arrival harrival
    split
    · have hmoved := reaches_movedTo (Nat.le_max_left session.now arrival.instant)
      have hanswer : Step (session.movedTo (max session.now arrival.instant))
          ((session.movedTo (max session.now arrival.instant)).take
            (.answer arrival.result)) :=
        Step.answer hbegun harrival (Nat.le_max_right session.now arrival.instant)
      exact hmoved.tail hanswer
    · exact Relation.ReflTransGen.refl
  · exact Relation.ReflTransGen.refl

theorem passDeadline_phase_ne_idle
    {session : Session ω} (limit : Nat) (hbegun : session.state.phase ≠ .idle) :
    (session.passDeadline limit).state.phase ≠ .idle := by
  unfold passDeadline
  split
  · split
    · exact take_phase_ne_idle _ (take_phase_ne_idle _ hbegun)
    · exact hbegun
  · exact hbegun

theorem passDeadline_now_le
    {session : Session ω} {limit : Nat} (hnow : session.now ≤ limit) :
    (session.passDeadline limit).now ≤ limit := by
  unfold passDeadline
  split
  · split
    · rename_i hdue
      simp only [Bool.and_eq_true, decide_eq_true_eq] at hdue
      rw [take_now, take_now, movedTo_now]
      exact Nat.max_le.mpr ⟨hnow, hdue.left⟩
    · exact hnow
  · exact hnow

theorem passArrival_now_le
    {session : Session ω} {limit : Nat} (hnow : session.now ≤ limit) :
    (session.passArrival limit).now ≤ limit := by
  unfold passArrival
  split
  · split
    · rename_i hdue
      simp only [Bool.and_eq_true, decide_eq_true_eq] at hdue
      rw [take_now, movedTo_now]
      exact Nat.max_le.mpr ⟨hnow, hdue.left⟩
    · exact hnow
  · exact hnow

theorem reaches_runUntil
    {session : Session ω} {instant : Nat} (hinstant : session.now ≤ instant) :
    Reaches session (session.runUntil instant) := by
  have hevents := reaches_handleEvents session
  have hbegun := handleEvents_phase_ne_idle session
  have hdeadline := reaches_passDeadline instant hbegun
  have harrival := reaches_passArrival instant (passDeadline_phase_ne_idle instant hbegun)
  have hnow : ((session.handleEvents.passDeadline instant).passArrival instant).now ≤
      instant := by
    apply passArrival_now_le
    apply passDeadline_now_le
    rw [handleEvents_now]
    exact hinstant
  exact ((hevents.trans hdeadline).trans harrival).trans (reaches_movedTo hnow)

end Session
end Prompt
end StubAssist

import StubAssist.Proofs.Prompt.Decisions

/-!
# Deliveries

A run together with the events that the host has sent in it.  What was handled and what
still waits make up what was sent, in the same order, as long as the run goes on, and
the end of the events is seen only when nothing waits.  With what a signal decides, this
says how a run ends: by the first signal that decides, as that signal decides, and
not before.
-/

namespace StubAssist
namespace Prompt

open History

def Moment.event? (moment : Moment) : Option Event :=
  match moment.signal? with
  | some (.event event) => some event
  | _ => none

namespace History

def received (history : List Moment) : List Event :=
  history.filterMap Moment.event?

theorem received_concat (history : List Moment) (moment : Moment) :
    received (history ++ [moment]) = received history ++ moment.event?.toList := by
  cases h : moment.event? <;> simp [received, h]

end History

namespace Session

variable {ω : Type}

/-!
# What the host sends
-/

/-- A run of `first` in which the host sends the events of the list, and no others. -/
inductive Run (first : Session ω) : List Event -> Session ω -> Prop where
  | start : Run first [] first
  | send {sent : List Event} {session : Session ω} (event : Event)
      (hrun : Run first sent session) (hopen : session.isClosed = false)
      (hrunning : session.isFinished = false) :
      Run first (sent ++ [event]) (session.send event).2
  | step {sent : List Event} {session next : Session ω}
      (hrun : Run first sent session) (hstep : Step session next)
      (hqueue : next.queue <:+ session.queue) :
      Run first sent next

theorem Run.reaches
    {first session : Session ω} {sent : List Event} (hrun : Run first sent session) :
    Reaches first session := by
  induction hrun with
  | start =>
      exact Relation.ReflTransGen.refl
  | send event _ hopen _ ih =>
      exact ih.tail (Step.send event hopen)
  | step _ hstep _ ih =>
      exact ih.tail hstep

theorem step_queue
    {session next : Session ω} (hstep : Step session next) :
    next.queue <:+ session.queue ∨
      exists event,
        session.isClosed = false ∧ session.isFinished = false ∧
          next = (session.send event).2 := by
  cases hstep with
  | send event hopen =>
      cases hfinished : session.isFinished with
      | true =>
          unfold send
          rw [if_pos hfinished]
          exact Or.inl List.suffix_rfl
      | false =>
          exact Or.inr ⟨event, hopen, rfl, rfl⟩
  | close => exact Or.inl List.suffix_rfl
  | takeUpdates => exact Or.inl List.suffix_rfl
  | takeWarnings => exact Or.inl List.suffix_rfl
  | wait hinstant => exact Or.inl List.suffix_rfl
  | begin =>
      rw [begin_queue]
      exact Or.inl List.suffix_rfl
  | @event event rest hbegun hqueue =>
      rw [take_queue, hqueue]
      exact Or.inl (List.suffix_cons event rest)
  | closed hbegun hqueue hclosed =>
      rw [take_queue]
      exact Or.inl List.suffix_rfl
  | deadline hbegun hpending hdue =>
      rw [take_queue]
      exact Or.inl List.suffix_rfl
  | asking hbegun =>
      rw [take_queue]
      exact Or.inl List.suffix_rfl
  | answer hbegun harrival hdue =>
      rw [take_queue]
      exact Or.inl List.suffix_rfl

theorem exists_run_of_reaches
    {first session : Session ω} (hreaches : Reaches first session) :
    exists sent, Run first sent session := by
  induction hreaches with
  | refl =>
      exact ⟨[], Run.start⟩
  | tail _ hstep ih =>
      rcases ih with ⟨sent, hrun⟩
      rcases step_queue hstep with hqueue | ⟨event, hopen, hrunning, hnext⟩
      · exact ⟨sent, hrun.step hstep hqueue⟩
      · rw [hnext]
        exact ⟨sent ++ [event], hrun.send event hopen hrunning⟩

/-!
# In order and complete
-/

/-- What was sent is handled in order, and all of it before the end is seen. -/
structure Delivers (sent : List Event) (session : Session ω) : Prop where
  handled : received session.history <+: sent
  waiting : session.isFinished = false -> received session.history ++ session.queue = sent
  drained : forall before moment, before ++ [moment] <+: session.history ->
    moment.signal? = some .hangUp -> received before = sent

theorem delivers_perform
    {sent : List Event} {session : Session ω} {turn : Option Turn} {next : State}
    {effect : Effect}
    (hbefore : forall before moment, before ++ [moment] <+: session.history ->
      moment.signal? = some .hangUp -> received before = sent)
    (hrest : received session.history ++
      (session.moment turn effect).event?.toList ++ session.queue = sent)
    (hdrained : (session.moment turn effect).signal? = some .hangUp ->
      received session.history = sent) :
    Delivers sent (session.perform turn next effect) := by
  constructor
  · rw [perform_history, received_concat]
    exact ⟨session.queue, hrest⟩
  · intro _
    rw [perform_history, received_concat]
    exact hrest
  · intro before moment hinitial hsignal
    rw [perform_history, concat_prefix_concat_iff] at hinitial
    rcases hinitial with ⟨hlast, hmoment⟩ | hinitial
    · rw [hmoment] at hsignal
      rw [hlast]
      exact hdrained hsignal
    · exact hbefore before moment hinitial hsignal

theorem delivers_take
    {sent : List Event} {session : Session ω} {turn : Turn}
    (hdelivers : Delivers sent session) (hturn : forall event, turn ≠ .event event)
    (hclosed : turn = .closed -> session.queue = []) :
    Delivers sent (session.take turn) := by
  rcases take_cases session turn with hsame | ⟨next, effect, hrunning, _, hperform⟩
  · rw [hsame]
    exact hdelivers
  · have hwaiting := hdelivers.waiting hrunning
    have hevent : (session.moment (some turn) effect).event? = none := by
      cases turn with
      | event event => exact absurd rfl (hturn event)
      | closed => rfl
      | deadline => rfl
      | asking => rfl
      | answer result => rfl
    rw [hperform]
    apply delivers_perform hdelivers.drained
    · rw [hevent]
      simpa using hwaiting
    · intro hsignal
      cases turn with
      | event event => exact absurd rfl (hturn event)
      | closed =>
          rw [hclosed rfl, List.append_nil] at hwaiting
          exact hwaiting
      | deadline => cases hsignal
      | asking => cases hsignal
      | answer result => cases hsignal

theorem exists_turn_of_event
    (state : State) (debounce now : Nat) (event : Event) :
    exists next effect, state.turn debounce now (.event event) = some (next, effect) := by
  cases event with
  | valueChanged value => exact ⟨_, _, rfl⟩
  | select index => exact ⟨_, _, rfl⟩
  | dismiss => exact ⟨_, _, rfl⟩

theorem delivers_event
    {sent rest : List Event} {session : Session ω} {event : Event}
    (hdelivers : Delivers sent session) (hqueue : session.queue = event :: rest) :
    Delivers sent ((session.withQueue rest).take (.event event)) := by
  cases hfinished : session.isFinished with
  | true =>
      have hsame : (session.withQueue rest).take (.event event) = session.withQueue rest :=
        take_of_isFinished _ hfinished
      rw [hsame]
      refine ⟨hdelivers.handled, ?_, hdelivers.drained⟩
      intro hrunning
      exact absurd (hfinished.symm.trans hrunning) Bool.noConfusion
  | false =>
      rcases exists_turn_of_event session.state session.settings.debounceMillis session.now
        event with ⟨next, effect, hturn⟩
      have hperform : (session.withQueue rest).take (.event event) =
          (session.withQueue rest).perform (some (.event event)) next effect :=
        take_of_turn_some hfinished hturn
      have hwaiting := hdelivers.waiting hfinished
      rw [hqueue, List.append_cons] at hwaiting
      rw [hperform]
      apply delivers_perform
      · exact hdelivers.drained
      · exact hwaiting
      · intro hsignal
        cases hsignal

theorem delivers_begin
    {sent : List Event} {session : Session ω} (hdelivers : Delivers sent session)
    (haccounted : session.IsAccounted) :
    Delivers sent session.begin := by
  by_cases hidle : session.state.phase = .idle
  · have hrunning : session.isFinished = false := by
      rw [isFinished, (haccounted.fresh hidle).right]
      rfl
    rw [begin_of_idle hidle]
    apply delivers_perform hdelivers.drained
    · show received session.history ++ [] ++ session.queue = sent
      rw [List.append_nil]
      exact hdelivers.waiting hrunning
    · intro hsignal
      cases hsignal
  · rw [begin_of_begun hidle]
    exact hdelivers

theorem delivers_step
    {sent : List Event} {session next : Session ω} (hdelivers : Delivers sent session)
    (haccounted : session.IsAccounted) (hstep : Step session next)
    (hqueue : next.queue <:+ session.queue) :
    Delivers sent next := by
  have hsame : forall isClosed now updates warnings,
      Delivers sent { session with
        isClosed := isClosed, now := now, updates := updates, warnings := warnings } :=
    fun _ _ _ _ => ⟨hdelivers.handled, hdelivers.waiting, hdelivers.drained⟩
  cases hstep with
  | send event hopen =>
      unfold send at hqueue ⊢
      split
      · exact hdelivers
      · rename_i hrunning
        -- the queue would grow by what is sent
        rw [if_neg hrunning] at hqueue
        have hlength := hqueue.length_le
        rw [List.length_append] at hlength
        exact absurd hlength (Nat.not_succ_le_self _)
  | close =>
      exact hsame _ _ _ _
  | takeUpdates =>
      exact hsame _ _ _ _
  | takeWarnings =>
      exact hsame _ _ _ _
  | wait hinstant =>
      exact hsame _ _ _ _
  | begin =>
      exact delivers_begin hdelivers haccounted
  | event hbegun hevents =>
      exact delivers_event hdelivers hevents
  | closed hbegun hempty hclosed =>
      exact delivers_take hdelivers (fun _ h => nomatch h) (fun _ => hempty)
  | deadline hbegun hpending hdue =>
      exact delivers_take hdelivers (fun _ h => nomatch h) (fun h => nomatch h)
  | asking hbegun =>
      exact delivers_take hdelivers (fun _ h => nomatch h) (fun h => nomatch h)
  | answer hbegun harrival hdue =>
      exact delivers_take hdelivers (fun _ h => nomatch h) (fun h => nomatch h)

theorem delivers_send
    {sent : List Event} {session : Session ω} (event : Event)
    (hdelivers : Delivers sent session) (hreachable : Reachable session)
    (hrunning : session.isFinished = false) :
    Delivers (sent ++ [event]) (session.send event).2 := by
  have hsend : (session.send event).2 = session.withQueue (session.queue ++ [event]) := by
    unfold send
    rw [hrunning]
    rfl
  rw [hsend]
  constructor
  · exact hdelivers.handled.trans (List.prefix_append sent [event])
  · intro _
    show received session.history ++ (session.queue ++ [event]) = sent ++ [event]
    rw [← List.append_assoc, hdelivers.waiting hrunning]
  · intro before moment hinitial hsignal
    have hopen := outcome_eq_none_of_running hrunning
    have hmem : moment ∈ session.history := hinitial.subset (by simp)
    have hnone := (isAccounted_of_reachable hreachable).running hopen moment hmem
    have hmoment := (isFaithful_of_reachable hreachable).moments before moment hinitial
    rw [hnone, hsignal] at hmoment
    cases hmoment

theorem Run.delivers
    {settings : PromptSettings} {index : SymbolIndex ω} {world : ω} {sent : List Event}
    {session : Session ω} (hrun : Run (new settings index world) sent session) :
    Delivers sent session := by
  induction hrun with
  | start =>
      constructor
      · exact List.prefix_rfl
      · intro _
        rfl
      · intro before moment hinitial
        exact absurd (List.prefix_nil.mp hinitial) (by simp)
  | send event hrun hopen hrunning ih =>
      exact delivers_send event ih ⟨settings, index, world, hrun.reaches⟩ hrunning
  | step hrun hstep hqueue ih =>
      exact delivers_step ih
        (isAccounted_of_reachable ⟨settings, index, world, hrun.reaches⟩) hstep hqueue

/-!
# How a run ends
-/

/-- The first signal that decides ends the run, and the run ends in no other way. -/
structure EndsAsDecided (session : Session ω) : Prop where
  decides : forall before moment signal outcome,
    before ++ [moment] <+: session.history -> moment.signal? = some signal ->
      decision (shown before) signal = some outcome ->
        session.history = before ++ [moment] ∧ session.outcome = some outcome
  ends : forall outcome, session.outcome = some outcome ->
    exists before moment signal,
      session.history = before ++ [moment] ∧ moment.signal? = some signal ∧
        decision (shown before) signal = some outcome
  final : session.isFinished = true -> forall next, Reaches session next ->
    next.history = session.history ∧ next.outcome = session.outcome
  closes : session.isClosed = true -> session.handleEvents.isFinished = true

theorem eq_concat_of_outcome
    {session : Session ω} {before : List Moment} {moment : Moment}
    (hreachable : Reachable session) (hinitial : before ++ [moment] <+: session.history)
    (houtcome : moment.effect.outcome ≠ none) :
    session.history = before ++ [moment] := by
  rcases hinitial with ⟨after, hhistory⟩
  rcases List.eq_nil_or_concat after with hnil | ⟨between, last, hlast⟩
  · rw [hnil, List.append_nil] at hhistory
    exact hhistory.symm
  · rw [hlast, List.concat_eq_append, ← List.append_assoc] at hhistory
    have hlawful := (isAccounted_of_reachable hreachable).lawful
    rw [← hhistory] at hlawful
    have hfollows := hlawful.follows_of_initial List.prefix_rfl
    exact absurd (hfollows.right moment (by simp)) houtcome

theorem endsAsDecided_of_reachable
    {session : Session ω} (hreachable : Reachable session) :
    session.EndsAsDecided := by
  have hfaithful := isFaithful_of_reachable hreachable
  constructor
  · intro before moment signal outcome hinitial hsignal hdecision
    have hmoment := hfaithful.moments before moment hinitial
    rw [hsignal, Option.bind_some, hdecision] at hmoment
    have hlast := eq_concat_of_outcome hreachable hinitial (by simp [hmoment])
    have houtcome := hfaithful.outcome
    rw [hlast, List.getLast?_concat, Option.bind_some, hmoment] at houtcome
    exact ⟨hlast, houtcome⟩
  · intro outcome houtcome
    have hlast := hfaithful.outcome
    rw [houtcome] at hlast
    rcases Option.bind_eq_some_iff.mp hlast.symm with ⟨moment, hmoment, hdone⟩
    rcases List.getLast?_eq_some_iff.mp hmoment with ⟨before, hhistory⟩
    have hdecided := hfaithful.moments before moment (hhistory ▸ List.prefix_rfl)
    rw [hdone] at hdecided
    rcases Option.bind_eq_some_iff.mp hdecided.symm with ⟨signal, hsignal, hdecision⟩
    exact ⟨before, moment, signal, hhistory, hsignal, hdecision⟩
  · intro hfinished next hreaches
    have hhistory := (reaches_of_isFinished hreachable hfinished hreaches).right
    have hnext := (isFaithful_of_reachable (hreachable.trans hreaches)).outcome
    rw [hhistory, ← hfaithful.outcome] at hnext
    exact ⟨hhistory, hnext⟩
  · exact handleEvents_isFinished_of_isClosed

/--
A run ends as the user decides on what is shown, and whatever the host has sent in it
is handled in order and none of it missed.
-/
theorem run_endsAsDecided
    {settings : PromptSettings} {index : SymbolIndex ω} {world : ω} {session : Session ω}
    (hreaches : Reaches (new settings index world) session) :
    session.EndsAsDecided ∧
      (exists sent, Run (new settings index world) sent session) ∧
        forall sent, Run (new settings index world) sent session ->
          Delivers sent session := by
  have hreachable : Reachable session := ⟨settings, index, world, hreaches⟩
  exact ⟨endsAsDecided_of_reachable hreachable, exists_run_of_reaches hreaches,
    fun _ hrun => hrun.delivers⟩

def readers : SymbolIndex Unit :=
  ⟨fun _ _ => (⟨5, .ok [⟨"Reader", .interface, .ofLines 0 0, none⟩]⟩, ())⟩

/-- A list is on show, the user types on, selects from that list and hangs up. -/
def picked : Session Unit :=
  let opened := (new ⟨300, []⟩ readers ()).begin
  let typed := ((opened.send (.valueChanged "R")).2.withQueue []).take
    (.event (.valueChanged "R"))
  let asked := ((typed.movedTo 300).take .deadline).take .asking
  let listed := (asked.movedTo 305).take (.answer (.ok [⟨"Reader", none⟩]))
  let typedOn := ((listed.send (.valueChanged "Re")).2.withQueue []).take
    (.event (.valueChanged "Re"))
  ((typedOn.send (.select 0)).2.close.withQueue []).take (.event (.select 0))

theorem run_picked :
    Run (new ⟨300, []⟩ readers ())
      [.valueChanged "R", .valueChanged "Re", .select 0] picked := by
  have hstart : Run (new ⟨300, []⟩ readers ()) [] (new ⟨300, []⟩ readers ()) := Run.start
  have hopened := hstart.step Step.begin List.suffix_rfl
  have hsent := hopened.send (.valueChanged "R") rfl rfl
  have htyped := hsent.step (Step.event (by decide) rfl) List.nil_suffix
  have hpaused := htyped.step (@Step.wait _ _ 300 (by decide)) List.suffix_rfl
  have hraised := hpaused.step (Step.deadline (by decide) rfl (Nat.le_refl 300))
    List.suffix_rfl
  have hasked := hraised.step (Step.asking (by decide)) List.suffix_rfl
  have hwaited := hasked.step (@Step.wait _ _ 305 (by decide)) List.suffix_rfl
  have hlisted := hwaited.step
    (@Step.answer _ _ ⟨305, .ok [⟨"Reader", none⟩]⟩ (by decide) rfl (Nat.le_refl 305))
    List.suffix_rfl
  have hsentOn := hlisted.send (.valueChanged "Re") rfl rfl
  have htypedOn := hsentOn.step (Step.event (by decide) rfl) List.nil_suffix
  have hselected := htypedOn.send (.select 0) rfl rfl
  have hclosed := hselected.step Step.close List.suffix_rfl
  have hpicked := hclosed.step (Step.event (by decide) rfl) List.nil_suffix
  exact hpicked

theorem picked_endsAsDecided :
    picked.EndsAsDecided ∧
      Delivers [.valueChanged "R", .valueChanged "Re", .select 0] picked ∧
      picked.state.pending.isSome = true ∧
      picked.outcome = some (.selected ⟨"Reader", none⟩) := by
  rcases run_endsAsDecided run_picked.reaches with ⟨hends, _, hdelivers⟩
  exact ⟨hends, hdelivers _ run_picked, rfl, rfl⟩

end Session
end Prompt
end StubAssist

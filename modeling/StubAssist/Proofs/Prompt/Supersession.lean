import StubAssist.Proofs.Prompt.LawfulHistory
import StubAssist.Proofs.Prompt.Runs

/-!
# Superseded values

Events, the ends of pauses and answers may come in any order, and of several that
are ready any may be handled first.  However they come, a list on show answers the
question that was asked for the latest value: nothing that belongs to an earlier
value is shown, nothing is asked or shown twice for one value, and the end of the
run ends all of it.
-/

namespace StubAssist
namespace Prompt

open History

/-!
# Where the latest value stands

The prompt's state tells what became of the latest value, and the history since
its change tells the same.
-/

inductive Standing (history : List Moment) (state : State) (arrival : Option Arrival) :
    Prop where
  | waiting {value : Text} {deadline : Nat}
      (hlatest : latestChange? history = some value)
      (hpending : state.pending = some ⟨deadline, value⟩)
      (hflight : state.inFlight = none)
      (hquestions : questions (sinceChange history) = [])
      (hlists : lists (sinceChange history) = [])
  | raised {value : Text}
      (hlatest : latestChange? history = some value)
      (hpending : state.pending = none)
      (hflight : state.inFlight = some ⟨value, false⟩)
      (hquestions : questions (sinceChange history) = [])
      (hlists : lists (sinceChange history) = [])
  | asked {value : Text} {reply : Reply} {instant : Nat}
      (hlatest : latestChange? history = some value)
      (hpending : state.pending = none)
      (hflight : state.inFlight = some ⟨value, true⟩)
      (harrival : arrival = some ⟨instant, reply.interfaces⟩)
      (hquestions : questions (sinceChange history) = [(value, reply)])
      (hlists : lists (sinceChange history) = [])
  | settled
      (hpending : state.pending = none)
      (hflight : state.inFlight = none)

/-- The history is lawful, and while there is no outcome it can go on. -/
structure Accounted (history : List Moment) (state : State) (arrival : Option Arrival)
    (outcome : Option Outcome) : Prop where
  lawful : Lawful history
  fresh : state.phase = .idle -> history = [] ∧ outcome = none
  running : outcome = none ->
    forall earlier, earlier ∈ history -> earlier.effect.outcome = none
  standing : outcome = none -> Standing history state arrival

namespace Standing

variable {history : List Moment} {state next : State} {arrival : Option Arrival}

theorem of_pending
    {pending : Pending} (hstanding : Standing history state arrival)
    (hpending : state.pending = some pending) :
    latestChange? history = some pending.value ∧
      questions (sinceChange history) = [] ∧ lists (sinceChange history) = [] := by
  cases hstanding with
  | waiting hlatest hwaiting hflight hquestions hlists =>
      rw [hwaiting] at hpending
      cases hpending
      exact ⟨hlatest, hquestions, hlists⟩
  | raised _ hnone => simp [hnone] at hpending
  | asked _ hnone => simp [hnone] at hpending
  | settled hnone => simp [hnone] at hpending

theorem of_unasked
    {value : Text} (hstanding : Standing history state arrival)
    (hflight : state.inFlight = some ⟨value, false⟩) :
    latestChange? history = some value ∧ state.pending = none ∧
      questions (sinceChange history) = [] ∧ lists (sinceChange history) = [] := by
  cases hstanding with
  | raised hlatest hpending hraised hquestions hlists =>
      rw [hraised] at hflight
      cases hflight
      exact ⟨hlatest, hpending, hquestions, hlists⟩
  | waiting _ _ hnone => simp [hnone] at hflight
  | asked _ _ hasked => simp [hasked] at hflight
  | settled _ hnone => simp [hnone] at hflight

theorem of_asked
    {value : Text} (hstanding : Standing history state arrival)
    (hflight : state.inFlight = some ⟨value, true⟩) :
    exists reply instant,
      latestChange? history = some value ∧ state.pending = none ∧
        arrival = some ⟨instant, reply.interfaces⟩ ∧
        questions (sinceChange history) = [(value, reply)] ∧
        lists (sinceChange history) = [] := by
  cases hstanding with
  | @asked value' reply instant hlatest hpending hasked harrival hquestions hlists =>
      rw [hasked] at hflight
      cases hflight
      exact ⟨reply, instant, hlatest, hpending, harrival, hquestions, hlists⟩
  | waiting _ _ hnone => simp [hnone] at hflight
  | raised _ _ hraised => simp [hraised] at hflight
  | settled _ hnone => simp [hnone] at hflight

theorem concat_quiet
    {moment : Moment} (hstanding : Standing history state arrival)
    (hquiet : moment.IsQuiet) (hpending : next.pending = state.pending)
    (hflight : next.inFlight = state.inFlight) :
    Standing (history ++ [moment]) next
      (if next.inFlight.isNone then none else arrival) := by
  have hlatest := latestChange?_concat_of_none history hquiet.change
  have hquestions : questions (sinceChange (history ++ [moment])) =
      questions (sinceChange history) := by
    rw [questions_sinceChange_concat history hquiet.change, hquiet.question]
    exact List.append_nil _
  have hlists : lists (sinceChange (history ++ [moment])) =
      lists (sinceChange history) := by
    rw [lists_sinceChange_concat history hquiet.change, hquiet.list]
    exact List.append_nil _
  cases hstanding with
  | waiting hlatest' hpending' hflight' hquestions' hlists' =>
      exact Standing.waiting (hlatest.trans hlatest') (hpending.trans hpending')
        (hflight.trans hflight') (hquestions.trans hquestions') (hlists.trans hlists')
  | raised hlatest' hpending' hflight' hquestions' hlists' =>
      exact Standing.raised (hlatest.trans hlatest') (hpending.trans hpending')
        (hflight.trans hflight') (hquestions.trans hquestions') (hlists.trans hlists')
  | asked hlatest' hpending' hflight' harrival hquestions' hlists' =>
      have hflight'' := hflight.trans hflight'
      rw [hflight'']
      exact Standing.asked (hlatest.trans hlatest') (hpending.trans hpending') hflight''
        harrival (hquestions.trans hquestions') (hlists.trans hlists')
  | settled hpending' hflight' =>
      exact Standing.settled (hpending.trans hpending') (hflight.trans hflight')

theorem concat_raised
    {moment : Moment} {pending : Pending} (hstanding : Standing history state arrival)
    (hpending : state.pending = some pending) (hquiet : moment.IsQuiet) :
    Standing (history ++ [moment]) (state.raise pending).1 arrival := by
  rcases hstanding.of_pending hpending with ⟨hlatest, hquestions, hlists⟩
  apply Standing.raised ((latestChange?_concat_of_none _ hquiet.change).trans hlatest) rfl rfl
  · rw [questions_sinceChange_concat _ hquiet.change, hquestions, hquiet.question]
    rfl
  · rw [lists_sinceChange_concat _ hquiet.change, hlists, hquiet.list]
    rfl

end Standing

theorem Accounted.concat
    {history : List Moment} {state next : State} {arrival arrival' : Option Arrival}
    {moment : Moment} (haccounted : Accounted history state arrival none)
    (hfollows : Follows history moment) (hbegun : next.phase ≠ .idle)
    (hstanding : moment.effect.outcome = none ->
      Standing (history ++ [moment]) next arrival') :
    Accounted (history ++ [moment]) next arrival' moment.effect.outcome where
  lawful := Lawful.concat haccounted.lawful (haccounted.running rfl) hfollows
  fresh := fun hidle => absurd hidle hbegun
  running := by
    intro hopen earlier hmem
    rcases List.mem_append.mp hmem with hbefore | hlast
    · exact haccounted.running rfl earlier hbefore
    · rw [List.mem_singleton.mp hlast]
      exact hopen
  standing := hstanding

/-!
# Turns keep the account
-/

namespace Session

variable {ω : Type}

theorem moment_isQuiet
    {session : Session ω} {turn : Option Turn} {effect : Effect}
    (hturn : forall value, turn ≠ some (.event (.valueChanged value)))
    (hquery : effect.query = none)
    (hupdates : effect.updates.any Update.isItems = false) :
    (session.moment turn effect).IsQuiet where
  change := by
    unfold Moment.change? moment
    split
    · rename_i value hvalue
      exact absurd hvalue (hturn value)
    · rfl
  question := by
    unfold Moment.question? moment
    rw [hquery]
    rfl
  list := by
    unfold Moment.list? moment
    rw [hupdates]
    rfl

abbrev IsAccounted (session : Session ω) : Prop :=
  Accounted session.history session.state session.arrival session.outcome

theorem isAccounted_take
    {session : Session ω} {turn : Turn} (haccounted : session.IsAccounted)
    (hbegun : session.state.phase ≠ .idle)
    (hanswer : forall result, turn = .answer result ->
      exists instant, session.arrival = some ⟨instant, result⟩) :
    (session.take turn).IsAccounted := by
  rcases take_cases session turn with hsame | ⟨next, effect, hrunning, hallows, hperform⟩
  · rw [hsame]
    exact haccounted
  have hopen : session.outcome = none := by
    simpa [isFinished] using hrunning
  have hnext := hallows.phase_ne_idle hbegun
  unfold IsAccounted at haccounted
  rw [hopen] at haccounted
  have hstanding := haccounted.standing rfl
  have houtcome : (session.perform (some turn) next effect).outcome =
      (session.moment (some turn) effect).effect.outcome := by
    rw [perform_outcome, hopen]
    rfl
  rw [hperform]
  unfold IsAccounted
  rw [houtcome, perform_history, perform_state, perform_arrival]
  -- one case for each turn: what it adds to the history, and where that leaves the latest value
  cases hallows with
  | changed value =>
      apply haccounted.concat (Follows.change rfl rfl rfl) hnext
      intro _
      exact Standing.waiting (latestChange?_concat_of_some _ rfl) rfl rfl
        (by rw [sinceChange_concat_of_some _ rfl]; rfl)
        (by rw [sinceChange_concat_of_some _ rfl]; rfl)
  | selected hitem =>
      apply haccounted.concat (Follows.quiet (moment_isQuiet ?_ rfl rfl)) hnext
      · intro hnone
        cases hnone
      · intro value hvalue
        cases hvalue
  | @ignored index hitem =>
      have hquiet : (session.moment (some (.event (.select index))) Effect.none).IsQuiet :=
        moment_isQuiet (by intro value hvalue; cases hvalue) rfl rfl
      apply haccounted.concat (Follows.quiet hquiet) hnext
      intro _
      exact hstanding.concat_quiet hquiet rfl rfl
  | cancelled hturn =>
      apply haccounted.concat (Follows.quiet (moment_isQuiet ?_ rfl rfl)) hnext
      · intro hnone
        cases hnone
      · intro value hvalue
        rcases hturn with hturn | hturn
        · rw [hturn] at hvalue
          cases hvalue
        · rw [hturn] at hvalue
          cases hvalue
  | @raised pending hpending =>
      have hquiet : (session.moment (some .deadline) (session.state.raise pending).2).IsQuiet :=
        moment_isQuiet (by intro value hvalue; cases hvalue) rfl rfl
      apply haccounted.concat (Follows.quiet hquiet) hnext
      intro _
      exact hstanding.concat_raised hpending hquiet
  | @asked value hflight =>
      rcases hstanding.of_unasked hflight with ⟨hlatest, hpending, hquestions, hlists⟩
      apply haccounted.concat (Follows.question rfl rfl rfl hlatest hquestions) hnext
      intro _
      have hreply : session.arrivalOf (session.index.ask session.world value).1 =
          ⟨session.now + (session.index.ask session.world value).1.millis,
            (session.index.ask session.world value).1.interfaces⟩ := rfl
      refine Standing.asked ((latestChange?_concat_of_none _ rfl).trans hlatest)
        hpending rfl (congrArg some hreply) ?_ ?_
      · rw [questions_sinceChange_concat _ rfl, hquestions]
        rfl
      · rw [lists_sinceChange_concat _ rfl, hlists]
        rfl
  | @answered value result hflight =>
      rcases hstanding.of_asked hflight with
        ⟨reply, instant, hlatest, hpending, harrival, hquestions, hlists⟩
      rcases hanswer result rfl with ⟨instant', harrival'⟩
      -- what arrives is the reply to the question that the account has under way
      rw [harrival] at harrival'
      cases harrival'
      have hquestion : (session.moment (some (.answer reply.interfaces))
          (session.state.showResults reply.interfaces).2).question? = none := by
        simp [Moment.question?, moment]
      apply haccounted.concat (Follows.list rfl hquestion
        (Moment.list?_of_updates (showResults_updates _ _)) hlatest hquestions hlists)
        hnext
      intro _
      exact Standing.settled ((State.showResults_pending _ _).trans hpending)
        (State.showResults_inFlight _ _)

theorem isAccounted_begin
    {session : Session ω} (haccounted : session.IsAccounted) :
    session.begin.IsAccounted := by
  by_cases hidle : session.state.phase = .idle
  · rcases haccounted.fresh hidle with ⟨hempty, hopen⟩
    have hquiet : (session.moment none
        (State.start session.settings.placeholder).2).IsQuiet :=
      moment_isQuiet (by intro value hvalue; cases hvalue) rfl rfl
    have hstart : Accounted session.history session.state session.arrival none := by
      rw [← hopen]
      exact haccounted
    have houtcome : (session.perform none (State.start session.settings.placeholder).1
        (State.start session.settings.placeholder).2).outcome = none := by
      rw [perform_outcome, hopen]
      rfl
    rw [begin_of_idle hidle]
    unfold IsAccounted
    rw [houtcome, perform_history, perform_state]
    apply hstart.concat (Follows.quiet hquiet)
    · exact Phase.noConfusion
    · intro _
      exact Standing.settled rfl rfl
  · rw [begin_of_begun hidle]
    exact haccounted

theorem isAccounted_step
    {session next : Session ω} (haccounted : session.IsAccounted)
    (hstep : Step session next) :
    next.IsAccounted := by
  cases course_of_step hstep with
  | outside queue isClosed updates warnings hnow =>
      exact haccounted
  | opening =>
      exact isAccounted_begin haccounted
  | turn queue hbegun hready =>
      have hqueued : (session.withQueue queue).IsAccounted := haccounted
      exact isAccounted_take hqueued hbegun hready

theorem isAccounted_reaches
    {session next : Session ω} (haccounted : session.IsAccounted)
    (hreaches : Reaches session next) :
    next.IsAccounted := by
  induction hreaches with
  | refl =>
      exact haccounted
  | tail _ hstep ih =>
      exact isAccounted_step ih hstep

theorem isAccounted_of_reachable
    {session : Session ω} (hreachable : Reachable session) :
    session.IsAccounted := by
  rcases hreachable with ⟨settings, index, world, hreaches⟩
  apply isAccounted_reaches _ hreaches
  exact
    { lawful := Lawful.nil
      fresh := fun _ => ⟨rfl, rfl⟩
      running := by
        intro _ earlier hmem
        cases hmem
      standing := fun _ => Standing.settled rfl rfl }

/-!
# The end of a run
-/

theorem step_of_isFinished
    {session next : Session ω} (haccounted : session.IsAccounted)
    (hfinished : session.isFinished = true) (hstep : Step session next) :
    next.isFinished = true ∧ next.history = session.history := by
  cases course_of_step hstep with
  | outside queue isClosed updates warnings hnow =>
      exact ⟨hfinished, rfl⟩
  | opening =>
      have hbegun : session.state.phase ≠ .idle := by
        intro hidle
        rw [isFinished, (haccounted.fresh hidle).right] at hfinished
        cases hfinished
      rw [begin_of_begun hbegun]
      exact ⟨hfinished, rfl⟩
  | @turn queue turn hbegun hready =>
      have hsame : (session.withQueue queue).take turn = session.withQueue queue :=
        take_of_isFinished _ hfinished
      rw [hsame]
      exact ⟨hfinished, rfl⟩

theorem reaches_of_isFinished
    {session next : Session ω} (hreachable : Reachable session)
    (hfinished : session.isFinished = true) (hreaches : Reaches session next) :
    next.isFinished = true ∧ next.history = session.history := by
  induction hreaches with
  | refl =>
      exact ⟨hfinished, rfl⟩
  | tail hbefore hstep ih =>
      have haccounted := isAccounted_of_reachable (hreachable.trans hbefore)
      rcases step_of_isFinished haccounted ih.left hstep with ⟨hnext, hhistory⟩
      exact ⟨hnext, hhistory.trans ih.right⟩

theorem isFinished_eq_false_of_reaches
    {session next : Session ω} (hreachable : Reachable session)
    (hreaches : Reaches session next) (hrunning : next.isFinished = false) :
    session.isFinished = false := by
  cases hfinished : session.isFinished with
  | false =>
      rfl
  | true =>
      rw [(reaches_of_isFinished hreachable hfinished hreaches).left] at hrunning
      cases hrunning

/-!
# The latest value only
-/

/--
Each question asks for the value of the latest change before it and is the first
since then; each list is the first since then and shows the reply to that question.
Both come in the order of the changes, and only the last moment has an outcome.
-/
structure ShowsLatestOnly (history : List Moment) : Prop where
  question : forall before moment value reply,
    before ++ [moment] <+: history -> moment.question? = some (value, reply) ->
      latestChange? before = some value ∧ questions (sinceChange before) = []
  list : forall before moment updates,
    before ++ [moment] <+: history -> moment.list? = some updates ->
      exists value reply,
        latestChange? before = some value ∧
        questions (sinceChange before) = [(value, reply)] ∧
        lists (sinceChange before) = [] ∧
        updates = answerUpdates reply.interfaces
  atMostOne : forall before, before <+: history ->
    (questions (sinceChange before)).length ≤ 1 ∧
      (lists (sinceChange before)).length ≤ 1
  questionOrder : ((questions history).map Prod.fst).Sublist (changes history)
  listOrder : (lists history).Sublist (answers history)
  outcomeLast : forall before moment, before ++ [moment] <+: history ->
    forall earlier, earlier ∈ before -> earlier.effect.outcome = none

/--
No run shows a list for a superseded value, whatever of all that is ready the
prompt handles first; and what follows the outcome adds nothing.
-/
theorem shows_latest_value_only
    {session : Session ω} (hreachable : Reachable session) :
    ShowsLatestOnly session.history ∧
      (session.isFinished = true ->
        forall next, Reaches session next -> next.history = session.history) := by
  have hlawful := (isAccounted_of_reachable hreachable).lawful
  constructor
  · constructor
    · intro before moment value reply hinitial hquestion
      exact (hlawful.follows_of_initial hinitial).left.of_question hquestion
    · intro before moment updates hinitial hlist
      exact (hlawful.follows_of_initial hinitial).left.of_list hlist
    · intro before hinitial
      exact (hlawful.of_initial hinitial).length_sinceChange_le_one
    · exact hlawful.questions_sublist
    · exact hlawful.lists_sublist
    · intro before moment hinitial
      exact (hlawful.follows_of_initial hinitial).right
  · intro hfinished next hreaches
    exact (reaches_of_isFinished hreachable hfinished hreaches).right

/--
The pause of `R` ends, but `Re` comes before the index is asked; the index then
answers for `Re`.
-/
def overtaken : Session Unit :=
  let index : SymbolIndex Unit := ⟨fun _ _ => (⟨5, .ok []⟩, ())⟩
  let opened := (new ⟨300, []⟩ index ()).begin
  let first := (opened.send (.valueChanged ['R'])).2.handleEvents
  let raised := (first.movedTo 300).take .deadline
  let second := (raised.send (.valueChanged ['R', 'e'])).2.handleEvents
  let asked := ((second.movedTo 600).take .deadline).take .asking
  (asked.movedTo 605).take (.answer (.ok []))

theorem reachable_overtaken : Reachable overtaken := by
  refine ⟨⟨300, []⟩, ⟨fun _ _ => (⟨5, .ok []⟩, ())⟩, (), ?_⟩
  simp only [overtaken]
  refine Relation.ReflTransGen.tail ?_
    (@Step.answer _ _ ⟨605, .ok []⟩ (by decide) rfl (Nat.le_refl 605))
  refine Relation.ReflTransGen.tail ?_ (Step.wait (by decide))
  refine Relation.ReflTransGen.tail ?_ (Step.asking (by decide))
  refine Relation.ReflTransGen.tail ?_
    (Step.deadline (by decide) rfl (Nat.le_refl 600))
  refine Relation.ReflTransGen.tail ?_ (Step.wait (by decide))
  refine Relation.ReflTransGen.trans ?_ (reaches_handleEvents _)
  refine Relation.ReflTransGen.tail ?_ (Step.send _ rfl)
  refine Relation.ReflTransGen.tail ?_
    (Step.deadline (by decide) rfl (Nat.le_refl 300))
  refine Relation.ReflTransGen.tail ?_ (Step.wait (by decide))
  refine Relation.ReflTransGen.trans ?_ (reaches_handleEvents _)
  refine Relation.ReflTransGen.tail ?_ (Step.send _ rfl)
  exact Relation.ReflTransGen.single Step.begin

theorem overtaken_shows_latest_value_only :
    Reachable overtaken ∧
      ShowsLatestOnly overtaken.history ∧
      changes overtaken.history = [['R'], ['R', 'e']] ∧
      (questions overtaken.history).map Prod.fst = [['R', 'e']] ∧
      lists overtaken.history = [[.items [], .state .showingResults]] :=
  ⟨reachable_overtaken, (shows_latest_value_only reachable_overtaken).left,
    rfl, rfl, rfl⟩

end Session
end Prompt
end StubAssist

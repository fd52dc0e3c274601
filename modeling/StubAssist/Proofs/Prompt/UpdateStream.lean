import StubAssist.Proofs.Prompt.Deliveries
import StubAssist.Proofs.Prompt.Hearing

/-!
# The update stream

While the prompt runs, its phase says which of a waiting value and a question under way
there is; there are never both.  So the updates of a run come in blocks: an opening, a
block for each change of value, for each question and for each answer, where a question
comes right after a change and an answer right after a question, and at last the end.
-/

namespace StubAssist
namespace Prompt

/-!
# The phase of a running prompt
-/

namespace State

/-- The phase tells what the prompt waits for. -/
structure IsCoherent (state : State) : Prop where
  exclusive : state.pending = none ∨ state.inFlight = none
  debouncing : state.phase = .debouncing ↔ state.pending.isSome = true
  querying : state.phase = .querying ↔ state.inFlight.isSome = true
  resting : state.pending = none -> state.inFlight = none ->
    state.phase = .awaitingInput ∨ state.phase = .showingResults

theorem isCoherent_start (placeholder : Text) :
    (start placeholder).1.IsCoherent := by
  constructor
  · exact Or.inl rfl
  · simp [start, idle]
  · simp [start, idle]
  · intro _ _
    exact Or.inl rfl

theorem Allows.isCoherent
    {debounce now : Nat} {state next : State} {turn : Turn} {effect : Effect}
    (hcoherent : state.IsCoherent)
    (hallows : Allows debounce now state turn next effect)
    (hrunning : effect.outcome = none) :
    next.IsCoherent := by
  cases hallows with
  | changed value =>
      constructor
      · exact Or.inr rfl
      · simp [change]
      · simp [change]
      · intro hpending
        cases hpending
  | selected hitem =>
      cases hrunning
  | ignored hitem =>
      exact hcoherent
  | cancelled hturn =>
      cases hrunning
  | raised hpending =>
      constructor
      · exact Or.inl rfl
      · simp [raise]
      · simp [raise]
      · intro _ hflight
        cases hflight
  | @asked value hflight =>
      have hquerying : state.phase = .querying := hcoherent.querying.mpr (by simp [hflight])
      have hpending : state.pending = none := by
        rcases hcoherent.exclusive with hnone | hnone
        · exact hnone
        · rw [hflight] at hnone
          cases hnone
      constructor
      · exact Or.inl hpending
      · simp [hquerying, hpending]
      · simp [hquerying]
      · intro _ hnone
        cases hnone
  | answered result hflight =>
      have hpending : state.pending = none := by
        rcases hcoherent.exclusive with hnone | hnone
        · exact hnone
        · rw [hflight] at hnone
          cases hnone
      constructor
      · exact Or.inr (showResults_inFlight state result)
      · simp [hpending]
      · simp
      · intro _ _
        exact Or.inr (showResults_phase state result)

end State

/-!
# Blocks
-/

/-- What the prompt tells in one turn before it ends. -/
inductive Block where
  | change
  | question
  | answer (result : Except AssistError (List Candidate))

namespace Block

def updates : Block -> List Update
  | change => [.busy true, .state .debouncing, .busy false]
  | question => [.state .querying]
  | answer result => answerUpdates result

def phase : Block -> Phase
  | change => .debouncing
  | question => .querying
  | answer _ => .showingResults

def Follows (last : Option Block) : Block -> Prop
  | change => True
  | question => last = some change
  | answer _ => last = some question

def AreOrdered (blocks : List Block) : Prop :=
  forall before block, before ++ [block] <+: blocks -> block.Follows before.getLast?

theorem areOrdered_nil : AreOrdered [] := by
  intro before block hinitial
  exact absurd (List.prefix_nil.mp hinitial) (by simp)

theorem AreOrdered.concat
    {blocks : List Block} {block : Block} (hordered : AreOrdered blocks)
    (hfollows : block.Follows blocks.getLast?) :
    AreOrdered (blocks ++ [block]) := by
  intro before later hinitial
  rcases concat_prefix_concat_iff.mp hinitial with ⟨hbefore, hlater⟩ | hbefore
  · rw [hbefore, hlater]
    exact hfollows
  · exact hordered before later hbefore

def phaseAfter (blocks : List Block) : Phase :=
  (blocks.getLast?.map phase).getD .awaitingInput

theorem phaseAfter_concat (blocks : List Block) (block : Block) :
    phaseAfter (blocks ++ [block]) = block.phase := by
  simp [phaseAfter]

theorem getLast?_of_debouncing
    {blocks : List Block} (hphase : phaseAfter blocks = .debouncing) :
    blocks.getLast? = some change := by
  unfold phaseAfter at hphase
  cases hlast : blocks.getLast? with
  | none =>
      rw [hlast] at hphase
      cases hphase
  | some block =>
      rw [hlast] at hphase
      cases block with
      | change => rfl
      | question => cases hphase
      | answer result => cases hphase

theorem getLast?_of_querying
    {blocks : List Block} (hphase : phaseAfter blocks = .querying) :
    blocks.getLast? = some question := by
  unfold phaseAfter at hphase
  cases hlast : blocks.getLast? with
  | none =>
      rw [hlast] at hphase
      cases hphase
  | some block =>
      rw [hlast] at hphase
      cases block with
      | change => cases hphase
      | question => rfl
      | answer result => cases hphase

end Block

def opening (placeholder : Text) : List Update :=
  [.placeholder placeholder, .state .awaitingInput]

def closing : Option Outcome -> List Update
  | none => []
  | some (.selected _) => [.state .selected]
  | some .cancelled => [.state .cancelled]

/-- A turn tells nothing, or one block that may come next, or the end. -/
inductive Speaks (phase : Phase) (next : Phase) (effect : Effect) : Prop where
  | nothing (hphase : next = phase) (hupdates : effect.updates = [])
      (hrunning : effect.outcome = none)
  | block (block : Block) (hphase : next = block.phase)
      (hupdates : effect.updates = block.updates) (hrunning : effect.outcome = none)
      (hfollows : forall blocks, Block.phaseAfter blocks = phase ->
        block.Follows blocks.getLast?)
  | ends {outcome : Outcome} (houtcome : effect.outcome = some outcome)
      (hupdates : effect.updates = closing (some outcome))

theorem State.Allows.speaks
    {debounce now : Nat} {state next : State} {turn : Turn} {effect : Effect}
    (hcoherent : state.IsCoherent)
    (hallows : Allows debounce now state turn next effect) :
    Speaks state.phase next.phase effect := by
  cases hallows with
  | changed value =>
      exact Speaks.block .change rfl rfl rfl fun _ _ => trivial
  | selected hitem =>
      exact Speaks.ends rfl rfl
  | ignored hitem =>
      exact Speaks.nothing rfl rfl rfl
  | cancelled hturn =>
      exact Speaks.ends rfl rfl
  | raised hpending =>
      have hdebouncing : state.phase = .debouncing :=
        hcoherent.debouncing.mpr (by simp [hpending])
      refine Speaks.block .question rfl rfl rfl ?_
      intro blocks hphase
      exact Block.getLast?_of_debouncing (hphase.trans hdebouncing)
  | asked hflight =>
      exact Speaks.nothing rfl rfl rfl
  | answered result hflight =>
      have hquerying : state.phase = .querying := hcoherent.querying.mpr (by simp [hflight])
      refine Speaks.block (.answer result) (showResults_phase state result)
        (showResults_updates state result) (showResults_outcome state result) ?_
      intro blocks hphase
      exact Block.getLast?_of_querying (hphase.trans hquerying)

namespace Session

variable {ω : Type}

/-!
# Runs speak in blocks
-/

/-- The blocks told so far, between the opening and the end if that has come. -/
structure HasTold (session : Session ω) (blocks : List Block) : Prop where
  ordered : Block.AreOrdered blocks
  updates : History.updates session.history =
    opening session.settings.placeholder ++ blocks.flatMap Block.updates ++
      closing session.outcome
  phase : session.outcome = none -> session.state.phase = Block.phaseAfter blocks
  coherent : session.outcome = none -> session.state.IsCoherent

def IsArticulate (session : Session ω) : Prop :=
  session.state.phase ≠ .idle -> exists blocks, session.HasTold blocks

theorem exists_hasTold_perform
    {session : Session ω} {blocks : List Block} {turn : Turn} {next : State}
    {effect : Effect} (htold : session.HasTold blocks) (hopen : session.outcome = none)
    (hallows : State.Allows session.settings.debounceMillis session.now session.state
      turn next effect) :
    exists later, (session.perform (some turn) next effect).HasTold later := by
  have hcoherent := htold.coherent hopen
  have houtcome : (session.perform (some turn) next effect).outcome = effect.outcome := by
    rw [perform_outcome, hopen]
    rfl
  have hupdates : History.updates (session.perform (some turn) next effect).history =
      opening session.settings.placeholder ++ blocks.flatMap Block.updates ++
        effect.updates := by
    have hbefore := htold.updates
    rw [hopen] at hbefore
    rw [perform_history, History.updates_concat, hbefore]
    simp [closing, moment]
  cases hallows.speaks hcoherent with
  | nothing hphase hnone hrunning =>
      refine ⟨blocks, htold.ordered, ?_, ?_, ?_⟩
      · rw [hupdates, houtcome, hnone, hrunning]
        rfl
      · intro _
        exact hphase.trans (htold.phase hopen)
      · intro _
        exact hallows.isCoherent hcoherent hrunning
  | block block hphase hblock hrunning hfollows =>
      refine ⟨blocks ++ [block], ?_, ?_, ?_, ?_⟩
      · exact htold.ordered.concat (hfollows blocks (htold.phase hopen).symm)
      · rw [hupdates, houtcome, hblock, hrunning]
        simp [closing, perform]
      · intro _
        rw [Block.phaseAfter_concat]
        exact hphase
      · intro _
        exact hallows.isCoherent hcoherent hrunning
  | @ends outcome hended hclosing =>
      refine ⟨blocks, htold.ordered, ?_, ?_, ?_⟩
      · rw [hupdates, houtcome, hclosing, hended]
        rfl
      · intro hrunning
        rw [houtcome, hended] at hrunning
        cases hrunning
      · intro hrunning
        rw [houtcome, hended] at hrunning
        cases hrunning

theorem isArticulate_take
    {session : Session ω} (turn : Turn) (hbegun : session.state.phase ≠ .idle)
    (harticulate : session.IsArticulate) :
    (session.take turn).IsArticulate := by
  intro _
  rcases harticulate hbegun with ⟨blocks, htold⟩
  rcases take_cases session turn with hsame | ⟨next, effect, hrunning, hallows, hperform⟩
  · rw [hsame]
    exact ⟨blocks, htold⟩
  · rw [hperform]
    exact exists_hasTold_perform htold (outcome_eq_none_of_running hrunning) hallows

theorem isArticulate_begin
    {session : Session ω} (haccounted : session.IsAccounted)
    (harticulate : session.IsArticulate) :
    session.begin.IsArticulate := by
  by_cases hidle : session.state.phase = .idle
  · rcases haccounted.fresh hidle with ⟨hempty, hopen⟩
    rw [begin_of_idle hidle]
    intro _
    refine ⟨[], Block.areOrdered_nil, ?_, ?_, ?_⟩
    · rw [perform_history, hempty, perform_outcome, hopen]
      rfl
    · intro _
      rfl
    · intro _
      exact State.isCoherent_start session.settings.placeholder
  · rw [begin_of_begun hidle]
    exact harticulate

theorem isArticulate_step
    {session next : Session ω} (haccounted : session.IsAccounted)
    (harticulate : session.IsArticulate) (hstep : Step session next) :
    next.IsArticulate := by
  have hsame : forall queue isClosed now updates warnings,
      IsArticulate { session with
        queue := queue, isClosed := isClosed, now := now, updates := updates,
        warnings := warnings } := by
    intro queue isClosed now updates warnings hbegun
    rcases harticulate hbegun with ⟨blocks, htold⟩
    exact ⟨blocks, htold.ordered, htold.updates, htold.phase, htold.coherent⟩
  cases course_of_step hstep with
  | outside queue isClosed updates warnings hnow =>
      exact hsame _ _ _ _ _
  | opening =>
      exact isArticulate_begin haccounted harticulate
  | turn queue hbegun hready =>
      exact isArticulate_take _ hbegun (hsame _ _ _ _ _)

theorem isArticulate_of_reachable
    {session : Session ω} (hreachable : Reachable session) :
    session.IsArticulate := by
  rcases hreachable with ⟨settings, index, world, hreaches⟩
  induction hreaches with
  | refl =>
      intro hbegun
      exact absurd rfl hbegun
  | tail hbefore hstep ih =>
      exact isArticulate_step (isAccounted_of_reachable ⟨settings, index, world, hbefore⟩) ih
        hstep

theorem step_settings
    {session next : Session ω} (hstep : Step session next) :
    next.settings = session.settings := by
  cases course_of_step hstep with
  | outside queue isClosed updates warnings hnow =>
      rfl
  | opening =>
      unfold begin
      split <;> rfl
  | @turn queue turn hbegun hready =>
      rcases take_cases (session.withQueue queue) turn with hsame | ⟨_, _, _, _, hperform⟩
      · rw [hsame]
        rfl
      · rw [hperform]
        rfl

theorem settings_of_reaches
    {first session : Session ω} (hreaches : Reaches first session) :
    session.settings = first.settings := by
  induction hreaches with
  | refl => rfl
  | tail _ hstep ih => exact (step_settings hstep).trans ih

/-!
# The stream of a run
-/

/-- The updates of a run that has come to `outcome`, or goes on if there is none. -/
def IsStream (placeholder : Text) (outcome : Option Outcome) (updates : List Update) : Prop :=
  exists blocks, Block.AreOrdered blocks ∧
    updates = opening placeholder ++ blocks.flatMap Block.updates ++ closing outcome

/-- The phase tells what the prompt waits for, and the updates come in blocks. -/
structure SpeaksInBlocks (placeholder : Text) (session : Session ω) : Prop where
  coherent : session.state.phase ≠ .idle -> session.outcome = none ->
    session.state.IsCoherent
  unopened : session.state.phase = .idle -> History.updates session.history = []
  stream : session.state.phase ≠ .idle ->
    IsStream placeholder session.outcome (History.updates session.history)
  finished : forall outcome, session.outcome = some outcome ->
    IsStream placeholder (some outcome) (History.updates session.history) ∧
      forall next, Reaches session next ->
        History.updates next.history = History.updates session.history

/--
Whatever the prompt handles first, it tells its updates in blocks and ends with the end;
the host hears them in this order, and each of them once.
-/
theorem run_speaksInBlocks
    {settings : PromptSettings} {index : SymbolIndex ω} {world : ω} {session : Session ω}
    (hreaches : Reaches (new settings index world) session) :
    session.SpeaksInBlocks settings.placeholder ∧
      (exists taken warned, Hears (new settings index world) taken warned session) ∧
        forall taken warned, Hears (new settings index world) taken warned session ->
          taken ++ session.updates = History.updates session.history := by
  have hreachable : Reachable session := ⟨settings, index, world, hreaches⟩
  have haccounted := isAccounted_of_reachable hreachable
  have harticulate := isArticulate_of_reachable hreachable
  have hsettings : session.settings = settings := settings_of_reaches hreaches
  have hstream : session.state.phase ≠ .idle ->
      IsStream settings.placeholder session.outcome (History.updates session.history) := by
    intro hbegun
    rcases harticulate hbegun with ⟨blocks, htold⟩
    have hupdates := htold.updates
    rw [hsettings] at hupdates
    exact ⟨blocks, htold.ordered, hupdates⟩
  refine ⟨?_, exists_hears_of_reaches hreaches, fun _ _ hhears => hhears.isHeard.updates⟩
  constructor
  · intro hbegun hopen
    rcases harticulate hbegun with ⟨blocks, htold⟩
    exact htold.coherent hopen
  · intro hidle
    rw [(haccounted.fresh hidle).left]
    rfl
  · exact hstream
  · intro outcome houtcome
    have hbegun : session.state.phase ≠ .idle := by
      intro hidle
      rw [(haccounted.fresh hidle).right] at houtcome
      cases houtcome
    have hfinished : session.isFinished = true := by
      rw [isFinished, houtcome]
      rfl
    refine ⟨houtcome ▸ hstream hbegun, ?_⟩
    intro next hnext
    rw [(reaches_of_isFinished hreachable hfinished hnext).right]

theorem picked_speaksInBlocks :
    Reaches (new ⟨300, []⟩ readers ()) picked ∧
      picked.SpeaksInBlocks [] ∧
      (exists taken warned, Hears (new ⟨300, []⟩ readers ()) taken warned picked) ∧
      History.updates picked.history =
        opening [] ++
          [Block.change, .question, .answer (.ok [⟨"Reader", none⟩]), .change].flatMap
            Block.updates ++
          closing (some (.selected ⟨"Reader", none⟩)) := by
  rcases run_speaksInBlocks run_picked.reaches with ⟨hspeaks, hheard, _⟩
  exact ⟨run_picked.reaches, hspeaks, hheard, rfl⟩

end Session
end Prompt
end StubAssist

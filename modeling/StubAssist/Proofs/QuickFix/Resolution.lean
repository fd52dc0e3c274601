import StubAssist.Proofs.Prompt.Hearing
import StubAssist.Proofs.QuickFix.AllOrNothing

/-!
# Resolutions

Resolving an action runs its prompt to the end and then implements what was picked.  The
generator runs and the document changes only then, and the user is told of the failed
questions first and of the failed attempt last, whatever happens in the prompt.
-/

namespace StubAssist

structure Resolution (δ ω : Type) where
  session : Prompt.Session ω
  document : δ
  runs : List Invocation
  /-- What the user was told so far; warnings of the session may still be on their way. -/
  notifications : List Notification
  result : Option (Except AssistError (Option Insertion))

namespace Resolution

variable {δ ω : Type} [Document δ]

def start (session : Prompt.Session ω) (document : δ) : Resolution δ ω :=
  ⟨session, document, [], [], none⟩

def warned (resolution : Resolution δ ω) : Resolution δ ω :=
  { resolution with
    session := resolution.session.takeWarnings.2
    notifications := resolution.notifications ++
      resolution.session.takeWarnings.1.map Notification.warning }

def concluded (resolution : Resolution δ ω) (fix : QuickFix) (runner : ToolRunner ω)
    (action : CodeAction) (outcome : Prompt.Outcome) : Resolution δ ω :=
  let attempt := fix.resolve runner.watched (resolution.session.world, resolution.runs) action
    resolution.document outcome resolution.session.warnings
  { resolution with
    document := attempt.document
    runs := attempt.world.2
    notifications := resolution.notifications ++ attempt.notifications
    result := some attempt.result }

/-- One step: of the prompt, of a warning to the user, or to the conclusion. -/
inductive Step (fix : QuickFix) (runner : ToolRunner ω) (action : CodeAction) :
    Resolution δ ω -> Resolution δ ω -> Prop where
  | prompt {resolution : Resolution δ ω} {next : Prompt.Session ω}
      (hopen : resolution.result = none)
      (hstep : Prompt.Session.Step resolution.session next)
      (hwarnings : resolution.session.warnings <+: next.warnings) :
      Step fix runner action resolution { resolution with session := next }
  | warn {resolution : Resolution δ ω} (hopen : resolution.result = none) :
      Step fix runner action resolution resolution.warned
  | conclude {resolution : Resolution δ ω} {outcome : Prompt.Outcome}
      (hopen : resolution.result = none)
      (hended : resolution.session.outcome = some outcome) :
      Step fix runner action resolution (resolution.concluded fix runner action outcome)

abbrev Reaches (fix : QuickFix) (runner : ToolRunner ω) (action : CodeAction) :
    Resolution δ ω -> Resolution δ ω -> Prop :=
  Relation.ReflTransGen (Step fix runner action)

end Resolution

/-!
# What resolving comes to
-/

/-- The word to the user about a result: an error message if it is one. -/
def complaints {α : Type} : Except AssistError α -> List Notification
  | .ok _ => []
  | .error error => [.error error.message]

theorem complaints_map {α β : Type} (f : α -> β) (result : Except AssistError α) :
    complaints (result.map f) = complaints result := by
  cases result <;> rfl

theorem map_some_ne_none {α : Type} (result : Except AssistError α) :
    result.map some ≠ .ok none := by
  intro hnone
  cases result <;> cases hnone

namespace QuickFix

theorem openPrompt_eq_ok
    {δ ω : Type} {settings : PromptSettings} {index : SymbolIndex ω} {world : ω}
    {action : CodeAction} {document : δ} {opened : Prompt.Session ω}
    (hopened : (openPrompt settings index world action document).result = .ok opened) :
    opened = .new settings index world := by
  unfold openPrompt CodeAction.promptRefusal at hopened
  cases hnamed : action.trigger.hasStructName with
  | true =>
      rw [hnamed] at hopened
      cases hopened
      rfl
  | false =>
      rw [hnamed] at hopened
      cases hopened

variable {δ ω : Type} [Document δ]

section Resolve

variable {fix : QuickFix} {runner : ToolRunner ω} {world : ω} {action : CodeAction}
  {document : δ}

theorem implement_notifications (candidate : Candidate) :
    (fix.implement runner world action document candidate).notifications =
      complaints (fix.implement runner world action document candidate).result := by
  rw [implement, Attempt.reported_notifications, generateAndApply_notifications,
    Attempt.reported_result]
  cases (fix.generateAndApply runner world action document candidate).result with
  | ok insertion =>
      rfl
  | error error =>
      rfl

theorem implement_recorded
    (record : List Invocation) (candidate : Candidate) :
    fix.implement runner.watched (world, record) action document candidate =
      ⟨(fix.implement runner world action document candidate).result,
        (fix.implement runner world action document candidate).document,
        ((fix.implement runner world action document candidate).world,
          record ++
            if action.trigger.hasStructName then [fix.invocation action document candidate]
            else []),
        (fix.implement runner world action document candidate).notifications⟩ := by
  rw [implement_notifications]
  simp only [implement, generateAndApply_recorded, Attempt.reported_result,
    Attempt.reported_document, Attempt.reported_world]
  unfold Attempt.reported
  cases (fix.generateAndApply runner world action document candidate).result with
  | ok insertion =>
      rfl
  | error error =>
      rfl

theorem resolve_cancelled (warnings : List Text) :
    fix.resolve runner world action document .cancelled warnings =
      ⟨.ok none, document, world, warnings.map Notification.warning⟩ := by
  simp [resolve, Attempt.preceded]

theorem resolve_selected (candidate : Candidate) (warnings : List Text) :
    fix.resolve runner world action document (.selected candidate) warnings =
      ((fix.implement runner world action document candidate).map some).preceded
        (warnings.map Notification.warning) := rfl

end Resolve
end QuickFix

/-!
# Whole resolutions
-/

namespace Resolution

open Prompt

variable {δ ω : Type} [Document δ]

def warningsOf (session : Session ω) : List Notification :=
  (failures (History.updates session.history)).map Notification.warning

/--
The outcome of the prompt decides all that comes of a resolution: the run of the
generator, the result, the document, and what the user is told.
-/
structure DoesAsPicked (fix : QuickFix) (runner : ToolRunner ω) (action : CodeAction)
    (opened : Session ω) (document : δ) (resolution : Resolution δ ω) : Prop where
  run : Session.Reaches opened resolution.session
  waiting : resolution.result = none ->
    resolution.document = document ∧ resolution.runs = [] ∧
      resolution.notifications ++
          resolution.session.warnings.map Notification.warning =
        warningsOf resolution.session
  cancelled : forall result, resolution.result = some result ->
    resolution.session.outcome = some .cancelled ->
      result = .ok none ∧ resolution.document = document ∧ resolution.runs = []
  selected : forall result candidate, resolution.result = some result ->
    resolution.session.outcome = some (.selected candidate) ->
      resolution.runs =
        (if action.trigger.hasStructName then [fix.invocation action document candidate]
        else []) ∧
      result =
        (fix.implement runner resolution.session.world action document
          candidate).result.map some ∧
      resolution.document =
        (fix.implement runner resolution.session.world action document candidate).document
  ended : forall result, resolution.result = some result ->
    exists outcome, resolution.session.outcome = some outcome ∧
      (result = .ok none ↔ outcome = .cancelled)
  notifications : forall result, resolution.result = some result ->
    resolution.notifications = warningsOf resolution.session ++ complaints result

theorem doesAsPicked_start
    (fix : QuickFix) (runner : ToolRunner ω) (action : CodeAction) (settings : PromptSettings)
    (index : SymbolIndex ω) (world : ω) (document : δ) :
    DoesAsPicked fix runner action (.new settings index world) document
      (start (.new settings index world) document) where
  run := Relation.ReflTransGen.refl
  waiting := fun _ => ⟨rfl, rfl, rfl⟩
  cancelled := fun _ hresult => nomatch hresult
  selected := fun _ _ hresult => nomatch hresult
  ended := fun _ hresult => nomatch hresult
  notifications := fun _ hresult => nomatch hresult

section Steps

variable {fix : QuickFix} {runner : ToolRunner ω} {action : CodeAction} {opened : Session ω}
  {document : δ} {resolution : Resolution δ ω}

theorem doesAsPicked_waiting
    {next : Session ω} {notifications : List Notification}
    (hrun : Session.Reaches opened next)
    (hpicked : DoesAsPicked fix runner action opened document resolution)
    (hopen : resolution.result = none)
    (hwarnings : notifications ++ next.warnings.map Notification.warning =
      warningsOf next) :
    DoesAsPicked fix runner action opened document
      { resolution with session := next, notifications := notifications } := by
  rcases hpicked.waiting hopen with ⟨hdocument, hruns, _⟩
  constructor
  · exact hrun
  · intro _
    exact ⟨hdocument, hruns, hwarnings⟩
  · intro result hresult
    exact nomatch hopen.symm.trans hresult
  · intro result candidate hresult
    exact nomatch hopen.symm.trans hresult
  · intro result hresult
    exact nomatch hopen.symm.trans hresult
  · intro result hresult
    exact nomatch hopen.symm.trans hresult

theorem doesAsPicked_prompt
    {next : Session ω}
    (hpicked : DoesAsPicked fix runner action opened document resolution)
    (hopen : resolution.result = none)
    (hstep : Session.Step resolution.session next)
    (hwarnings : resolution.session.warnings <+: next.warnings) :
    DoesAsPicked fix runner action opened document
      { resolution with session := next } := by
  apply doesAsPicked_waiting (hpicked.run.tail hstep) hpicked hopen
  rcases hpicked.waiting hopen with ⟨_, _, htold⟩
  rcases Session.exists_failed_of_step hstep hwarnings with ⟨failed, hfailed, hfailures⟩
  unfold warningsOf at htold ⊢
  rw [hfailed, hfailures, List.map_append, List.map_append, ← List.append_assoc, htold]

theorem doesAsPicked_warned
    (hpicked : DoesAsPicked fix runner action opened document resolution)
    (hopen : resolution.result = none) :
    DoesAsPicked fix runner action opened document resolution.warned := by
  apply doesAsPicked_waiting (hpicked.run.tail Session.Step.takeWarnings) hpicked hopen
  rcases hpicked.waiting hopen with ⟨_, _, htold⟩
  exact (List.append_nil _).trans htold

theorem concluded_cancelled :
    resolution.concluded fix runner action .cancelled =
      { resolution with
        notifications := resolution.notifications ++
          resolution.session.warnings.map Notification.warning
        result := some (.ok none) } := by
  simp only [concluded, QuickFix.resolve_cancelled]

theorem concluded_selected (candidate : Candidate) :
    resolution.concluded fix runner action (.selected candidate) =
      { resolution with
        document :=
          (fix.implement runner resolution.session.world action resolution.document
            candidate).document
        runs := resolution.runs ++
          if action.trigger.hasStructName then
            [fix.invocation action resolution.document candidate]
          else []
        notifications := resolution.notifications ++
          (resolution.session.warnings.map Notification.warning ++
            complaints
              (fix.implement runner resolution.session.world action resolution.document
                candidate).result)
        result := some
          ((fix.implement runner resolution.session.world action resolution.document
            candidate).result.map some) } := by
  simp only [concluded, QuickFix.resolve_selected, QuickFix.implement_recorded,
    Attempt.preceded, Attempt.map, QuickFix.implement_notifications]

theorem doesAsPicked_concluded
    {outcome : Outcome}
    (hpicked : DoesAsPicked fix runner action opened document resolution)
    (hopen : resolution.result = none)
    (hended : resolution.session.outcome = some outcome) :
    DoesAsPicked fix runner action opened document
      (resolution.concluded fix runner action outcome) := by
  rcases hpicked.waiting hopen with ⟨hdocument, hruns, htold⟩
  cases outcome with
  | cancelled =>
      rw [concluded_cancelled]
      constructor
      · exact hpicked.run
      · intro hnone
        exact nomatch hnone
      · intro result hresult _
        exact ⟨(Option.some.inj hresult).symm, hdocument, hruns⟩
      · intro result candidate _ hselected
        exact nomatch hended.symm.trans hselected
      · intro result hresult
        cases hresult
        exact ⟨.cancelled, hended, by simp⟩
      · intro result hresult
        cases hresult
        exact htold.trans (List.append_nil _).symm
  | selected candidate =>
      rw [concluded_selected, hdocument, hruns]
      constructor
      · exact hpicked.run
      · intro hnone
        exact nomatch hnone
      · intro result _ hcancelled
        exact nomatch hended.symm.trans hcancelled
      · intro result other hresult hselected
        cases hresult
        cases hended.symm.trans hselected
        exact ⟨rfl, rfl, rfl⟩
      · intro result hresult
        cases hresult
        refine ⟨.selected candidate, hended, ?_⟩
        simp [map_some_ne_none]
      · intro result hresult
        cases hresult
        rw [← List.append_assoc, htold, complaints_map]

theorem doesAsPicked_step
    {next : Resolution δ ω}
    (hpicked : DoesAsPicked fix runner action opened document resolution)
    (hstep : Step fix runner action resolution next) :
    DoesAsPicked fix runner action opened document next := by
  cases hstep with
  | prompt hopen hstep hwarnings =>
      exact doesAsPicked_prompt hpicked hopen hstep hwarnings
  | warn hopen =>
      exact doesAsPicked_warned hpicked hopen
  | conclude hopen hended =>
      exact doesAsPicked_concluded hpicked hopen hended

end Steps

section Runs

variable (fix : QuickFix) (runner : ToolRunner ω) (action : CodeAction)

/-- Whatever the host hears of a prompt, a resolution of it comes to that point. -/
theorem reaches_of_hears
    {opened session : Session ω} {taken : List Update} {warned : List Text}
    (document : δ) (hhears : Session.Hears opened taken warned session) :
    Reaches fix runner action (start opened document)
      ⟨session, document, [], warned.map Notification.warning, none⟩ := by
  induction hhears with
  | start =>
      exact Relation.ReflTransGen.refl
  | takeUpdates hbefore ih =>
      exact ih.tail (Step.prompt rfl Session.Step.takeUpdates List.prefix_rfl)
  | @takeWarnings taken warned session hbefore ih =>
      have hwarn := ih.tail (Step.warn rfl)
      rw [List.map_append]
      exact hwarn
  | step hbefore hstep hupdates hwarnings ih =>
      exact ih.tail (Step.prompt rfl hstep hwarnings)

/--
A resolution does what the outcome of its prompt says and nothing before it, and there is
one for everything that may happen in the prompt.
-/
theorem resolve_doesAsPicked
    {settings : PromptSettings} {index : SymbolIndex ω} {world : ω} {asked : CodeAction}
    {document : δ} {opened : Session ω}
    (hopened : (QuickFix.openPrompt settings index world asked document).result =
      .ok opened) :
    (forall resolution, Reaches fix runner action (start opened document) resolution ->
      DoesAsPicked fix runner action opened document resolution) ∧
    forall taken warned session, Session.Hears opened taken warned session ->
      Reaches fix runner action (start opened document)
          ⟨session, document, [], warned.map Notification.warning, none⟩ ∧
        forall outcome, session.outcome = some outcome ->
          exists resolution,
            Reaches fix runner action (start opened document) resolution ∧
            resolution.session = session ∧ resolution.result.isSome = true := by
  have hnew := QuickFix.openPrompt_eq_ok hopened
  constructor
  · intro resolution hreaches
    induction hreaches with
    | refl =>
        rw [hnew]
        exact doesAsPicked_start fix runner action settings index world document
    | tail _ hstep ih =>
        exact doesAsPicked_step ih hstep
  · intro taken warned session hhears
    have hreaches := reaches_of_hears fix runner action document hhears
    refine ⟨hreaches, ?_⟩
    intro outcome houtcome
    exact ⟨_, hreaches.tail (Step.conclude rfl houtcome), rfl, rfl⟩

end Runs

def shaky : SymbolIndex Unit where
  ask _ value :=
    if value = "x".toList then (⟨5, .error (.symbolQuery "down")⟩, ())
    else (⟨5, .ok [⟨"Reader", .interface, .ofLines 0 0, none⟩]⟩, ())

/-- A question fails and the user is warned; the next one lists what the user picks. -/
def retried : Session Unit :=
  let opened := (Session.new ⟨300, []⟩ shaky ()).begin
  let typed := ((opened.send (.valueChanged "x")).2.withQueue []).take
    (.event (.valueChanged "x"))
  let asked := ((typed.movedTo 300).take .deadline).take .asking
  let failed := (asked.movedTo 305).take (.answer (.error (.symbolQuery "down")))
  let retyped := ((failed.takeWarnings.2.send (.valueChanged "R")).2.withQueue []).take
    (.event (.valueChanged "R"))
  let askedAgain := ((retyped.movedTo 605).take .deadline).take .asking
  let listed := (askedAgain.movedTo 610).take (.answer (.ok [⟨"Reader", none⟩]))
  ((listed.send (.select 0)).2.withQueue []).take (.event (.select 0))

theorem hears_retried :
    Session.Hears (.new ⟨300, []⟩ shaky ()) []
      [(AssistError.symbolQuery "down").message] retried := by
  have hstart : Session.Hears (.new ⟨300, []⟩ shaky ()) [] [] (.new ⟨300, []⟩ shaky ()) :=
    Session.Hears.start
  have hopened := hstart.step Session.Step.begin List.nil_prefix List.prefix_rfl
  have hsent := hopened.step (Session.Step.send (.valueChanged "x") rfl) List.prefix_rfl
    List.prefix_rfl
  have htyped := hsent.step (Session.Step.event (by decide) rfl) (List.prefix_append _ _)
    (List.prefix_append _ _)
  have hpaused := htyped.step (@Session.Step.wait _ _ 300 (by decide)) List.prefix_rfl
    List.prefix_rfl
  have hraised := hpaused.step (Session.Step.deadline (by decide) rfl (Nat.le_refl 300))
    (List.prefix_append _ _) (List.prefix_append _ _)
  have hasked := hraised.step (Session.Step.asking (by decide)) (List.prefix_append _ _)
    (List.prefix_append _ _)
  have hwaited := hasked.step (@Session.Step.wait _ _ 305 (by decide)) List.prefix_rfl
    List.prefix_rfl
  have hfailed := hwaited.step
    (@Session.Step.answer _ _ ⟨305, .error (.symbolQuery "down")⟩ (by decide) rfl
      (Nat.le_refl 305))
    (List.prefix_append _ _) (List.prefix_append _ _)
  have hwarned := hfailed.takeWarnings
  have hsentAgain := hwarned.step (Session.Step.send (.valueChanged "R") rfl)
    List.prefix_rfl List.prefix_rfl
  have hretyped := hsentAgain.step (Session.Step.event (by decide) rfl)
    (List.prefix_append _ _) (List.prefix_append _ _)
  have hpausedAgain := hretyped.step (@Session.Step.wait _ _ 605 (by decide))
    List.prefix_rfl List.prefix_rfl
  have hraisedAgain := hpausedAgain.step
    (Session.Step.deadline (by decide) rfl (Nat.le_refl 605)) (List.prefix_append _ _)
    (List.prefix_append _ _)
  have haskedAgain := hraisedAgain.step (Session.Step.asking (by decide))
    (List.prefix_append _ _) (List.prefix_append _ _)
  have hwaitedAgain := haskedAgain.step (@Session.Step.wait _ _ 610 (by decide))
    List.prefix_rfl List.prefix_rfl
  have hlisted := hwaitedAgain.step
    (@Session.Step.answer _ _ ⟨610, .ok [⟨"Reader", none⟩]⟩ (by decide) rfl
      (Nat.le_refl 610))
    (List.prefix_append _ _) (List.prefix_append _ _)
  have hselecting := hlisted.step (Session.Step.send (.select 0) rfl) List.prefix_rfl
    List.prefix_rfl
  have hselected := hselecting.step (Session.Step.event (by decide) rfl)
    (List.prefix_append _ _) (List.prefix_append _ _)
  exact hselected

def foo : SourceBuffer :=
  ⟨"foo.go", "type Foo struct\x7b\x7d\n"⟩

def fooAction : CodeAction :=
  ⟨0, ⟨"type Foo struct\x7b\x7d", "Foo"⟩⟩

def stuck : ToolRunner Unit :=
  ⟨fun _ _ => (.timedOut, ())⟩

theorem resolve_stuck :
    (QuickFix.openPrompt ⟨300, []⟩ shaky () fooAction foo).result =
        .ok (.new ⟨300, []⟩ shaky ()) ∧
      exists resolution,
        Reaches (.ofSettings .default) stuck fooAction
          (start (.new ⟨300, []⟩ shaky ()) foo) resolution ∧
        DoesAsPicked (.ofSettings .default) stuck fooAction (.new ⟨300, []⟩ shaky ()) foo
          resolution ∧
        resolution.session.outcome = some (.selected ⟨"Reader", none⟩) ∧
        resolution.runs.map (·.arguments) = [["f *Foo".toList, "Reader".toList]] ∧
        resolution.document = foo ∧
        resolution.notifications =
          [.warning "symbol query failed: down", .error "'impl' timed out after 10s"] := by
  have hopened : (QuickFix.openPrompt ⟨300, []⟩ shaky () fooAction foo).result =
      .ok (.new ⟨300, []⟩ shaky ()) := rfl
  rcases resolve_doesAsPicked (.ofSettings .default) stuck fooAction hopened with
    ⟨hpicked, hlifts⟩
  rcases hlifts _ _ _ hears_retried with ⟨hreaches, _⟩
  have hended : retried.outcome = some (.selected ⟨"Reader", none⟩) := by decide
  have hresolved := hreaches.tail (Step.conclude rfl hended)
  refine ⟨hopened, _, hresolved, hpicked _ hresolved, hended, ?_, ?_, ?_⟩
  · decide
  · decide
  · decide +kernel

end Resolution
end StubAssist

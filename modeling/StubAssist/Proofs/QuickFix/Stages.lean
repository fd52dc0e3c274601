import StubAssist.QuickFix

/-!
# Stages of a quick fix

Carrying out a fix composes a command, runs the generator, looks the struct up and
inserts.  Each stage comes with the exact condition on which it succeeds, and the
conditions together are the one on which the fix does.
-/

namespace StubAssist

theorem Trigger.hasStructName_iff {trigger : Trigger} :
    trigger.hasStructName = true ↔ trigger.structName ≠ [] := by
  simp [hasStructName]

namespace StubCommand

def of (trigger : Trigger) (candidate : Candidate) (settings : ReceiverSettings) :
    StubCommand :=
  ⟨receiverExpression settings trigger.structName, trigger.structName,
    candidate.qualifiedName⟩

theorem compose_of_named
    {trigger : Trigger} (candidate : Candidate) (settings : ReceiverSettings)
    (hnamed : trigger.hasStructName = true) :
    compose trigger candidate settings = .ok (of trigger candidate settings) := by
  unfold compose
  rw [if_pos hnamed]
  rfl

theorem compose_of_unnamed
    {trigger : Trigger} (candidate : Candidate) (settings : ReceiverSettings)
    (hunnamed : trigger.hasStructName = false) :
    compose trigger candidate settings = .error (.missingStructName trigger.lineText) := by
  unfold compose
  rw [hunnamed]
  rfl

theorem compose_eq_ok_iff
    {trigger : Trigger} {candidate : Candidate} {settings : ReceiverSettings}
    {command : StubCommand} :
    compose trigger candidate settings = .ok command ↔
      trigger.hasStructName = true ∧ command = of trigger candidate settings := by
  cases hnamed : trigger.hasStructName with
  | true =>
      rw [compose_of_named candidate settings hnamed]
      simp [eq_comm]
  | false =>
      rw [compose_of_unnamed candidate settings hnamed]
      simp

end StubCommand

namespace ExitStatus

theorem isSuccess_iff (status : ExitStatus) :
    status.isSuccess = true ↔ status = .code 0 :=
  beq_iff_eq

end ExitStatus

namespace ToolReport

theorem trouble_eq_none_iff {report : ToolReport} :
    report.trouble = none ↔ report.failure = none ∧ report.stderr = none := by
  cases hfailure : report.failure <;> cases hstderr : report.stderr <;>
    simp [trouble, hfailure, hstderr]

theorem stub_eq_ok_iff {report : ToolReport} {generated : Text} :
    report.stub = .ok generated ↔
      report.failure = none ∧ report.stderr = none ∧ generated = report.stdout := by
  rw [← and_assoc, ← trouble_eq_none_iff]
  cases htrouble : report.trouble with
  | none =>
      simp [stub, htrouble, eq_comm]
  | some reason =>
      simp [stub, htrouble]

theorem stub_ofOutcome_eq_ok_iff
    {invocation : Invocation} {outcome : ToolOutcome} {generated : Text} :
    (ofOutcome invocation outcome).stub = .ok generated ↔
      exists stdout stderr,
        outcome = .finished (.code 0) stdout stderr ∧
        Text.trim (Utf8.decodeLossy stderr) = [] ∧
        generated = Utf8.decodeLossy stdout := by
  rw [stub_eq_ok_iff]
  cases outcome with
  | notStarted reason =>
      simp [ofOutcome, ofFailure]
  | notAwaited reason =>
      simp [ofOutcome, ofFailure]
  | timedOut =>
      simp [ofOutcome, ofFailure]
  | finished status stdout stderr =>
      simp [ofOutcome, ExitStatus.isSuccess_iff, and_assoc]

end ToolReport

namespace Insertion

variable {δ : Type} [Document δ]

/-- The symbol to insert after: the first with exactly the struct's name. -/
def targetOf (document : δ) (structName : Text) : Except AssistError Symbol :=
  match Document.symbolsNamed document structName with
  | .error error => .error error
  | .ok symbols =>
      match symbols.find? (·.name == structName) with
      | none => .error (.structNotFound structName (Document.path document))
      | some target => .ok target

theorem targetOf_eq_ok_iff
    {document : δ} {structName : Text} {target : Symbol} :
    targetOf document structName = .ok target ↔
      exists symbols,
        Document.symbolsNamed document structName = .ok symbols ∧
        symbols.find? (·.name == structName) = some target := by
  unfold targetOf
  cases Document.symbolsNamed document structName with
  | error error =>
      simp
  | ok symbols =>
      cases hfound : symbols.find? (·.name == structName) with
      | none =>
          simp [hfound]
      | some found =>
          simp [hfound]

section Apply

variable {document : δ} {structName : Text}

theorem apply_of_no_target
    {error : AssistError} (generated : Text)
    (herror : targetOf document structName = .error error) :
    apply document structName generated = (.error error, document) := by
  unfold targetOf at herror
  unfold apply
  cases hsymbols : Document.symbolsNamed document structName with
  | error failure =>
      rw [hsymbols] at herror
      cases herror
      rfl
  | ok symbols =>
      rw [hsymbols] at herror
      cases hfound : symbols.find? (·.name == structName) with
      | none =>
          simp only [hfound] at herror ⊢
          cases herror
          rfl
      | some found =>
          simp [hfound] at herror

theorem apply_of_target
    {target : Symbol} (generated : Text)
    (htarget : targetOf document structName = .ok target) :
    apply document structName generated =
      ((Document.insertAtLine document (after target generated).line
          (after target generated).text).1.map fun _ => after target generated,
        (Document.insertAtLine document (after target generated).line
          (after target generated).text).2) := by
  rcases targetOf_eq_ok_iff.mp htarget with ⟨symbols, hsymbols, hfound⟩
  unfold apply
  rw [hsymbols]
  simp only [hfound]
  cases Document.insertAtLine document (after target generated).line
      (after target generated).text with
  | mk result next =>
      cases result <;> rfl

theorem apply_eq_ok_iff
    {generated : Text} {insertion : Insertion} :
    (apply document structName generated).1 = .ok insertion ↔
      exists target,
        targetOf document structName = .ok target ∧
        insertion = after target generated ∧
        (Document.insertAtLine document insertion.line insertion.text).1 = .ok () := by
  cases htarget : targetOf document structName with
  | error error =>
      rw [apply_of_no_target generated htarget]
      simp
  | ok target =>
      rw [apply_of_target generated htarget]
      constructor
      · intro hdone
        cases hinsert : (Document.insertAtLine document (after target generated).line
            (after target generated).text).1 with
        | error failure =>
            rw [hinsert] at hdone
            cases hdone
        | ok done =>
            rw [hinsert] at hdone
            cases hdone
            exact ⟨target, rfl, rfl, hinsert⟩
      · rintro ⟨found, hfound, hinsertion, hinsert⟩
        cases hfound
        rw [← hinsertion, hinsert]
        rfl

theorem apply_document_of_ok
    {generated : Text} {insertion : Insertion}
    (hdone : (apply document structName generated).1 = .ok insertion) :
    (apply document structName generated).2 =
      (Document.insertAtLine document insertion.line insertion.text).2 := by
  rcases apply_eq_ok_iff.mp hdone with ⟨target, htarget, hinsertion, _⟩
  rw [apply_of_target generated htarget, ← hinsertion]

theorem apply_document_of_error
    {generated : Text} {error : AssistError}
    (herror : (apply document structName generated).1 = .error error) :
    (apply document structName generated).2 = document ∨
      exists insertion : Insertion,
        Document.insertAtLine document insertion.line insertion.text =
          (.error error, (apply document structName generated).2) := by
  cases htarget : targetOf document structName with
  | error failure =>
      rw [apply_of_no_target generated htarget]
      exact Or.inl rfl
  | ok target =>
      rw [apply_of_target generated htarget] at herror ⊢
      refine Or.inr ⟨after target generated, ?_⟩
      cases hinsert : Document.insertAtLine document (after target generated).line
          (after target generated).text with
      | mk result next =>
          rw [hinsert] at herror
          cases result with
          | error failure =>
              cases herror
              rfl
          | ok done =>
              cases herror

end Apply
end Insertion

/-!
# Reports
-/

namespace Attempt

variable {α δ ω : Type} (attempt : Attempt α δ ω)

@[simp] theorem reported_result : attempt.reported.result = attempt.result := by
  unfold reported
  split <;> rfl

@[simp] theorem reported_document : attempt.reported.document = attempt.document := by
  unfold reported
  split <;> rfl

@[simp] theorem reported_world : attempt.reported.world = attempt.world := by
  unfold reported
  split <;> rfl

theorem reported_notifications :
    attempt.reported.notifications =
      attempt.notifications ++
        match attempt.result with
        | .ok _ => []
        | .error error => [.error error.message] := by
  unfold reported
  cases attempt.result with
  | ok a =>
      exact (List.append_nil _).symm
  | error error =>
      rfl

end Attempt

namespace QuickFix

variable {δ ω : Type} [Document δ]

def invocation (fix : QuickFix) (action : CodeAction) (document : δ)
    (candidate : Candidate) : Invocation :=
  fix.generator.invocation (StubCommand.of action.trigger candidate fix.receiver)
    (Document.directory document)

/--
When the fix comes to `insertion`: the action names a struct, the generator does its
job without complaint, and the insertion of its output after the first symbol with the
struct's name succeeds.
-/
def ComesTo (fix : QuickFix) (runner : ToolRunner ω) (world : ω) (action : CodeAction)
    (document : δ) (candidate : Candidate) (insertion : Insertion) : Prop :=
  action.trigger.hasStructName = true ∧
    exists stdout stderr symbols target,
      (runner.run world (fix.invocation action document candidate)).1 =
        .finished (.code 0) stdout stderr ∧
      Text.trim (Utf8.decodeLossy stderr) = [] ∧
      Document.symbolsNamed document action.trigger.structName = .ok symbols ∧
      symbols.find? (·.name == action.trigger.structName) = some target ∧
      insertion = ⟨target.range.stop.line + 1, '\n' :: Utf8.decodeLossy stdout⟩ ∧
      (Document.insertAtLine document insertion.line insertion.text).1 = .ok ()

section GenerateAndApply

variable {fix : QuickFix} {runner : ToolRunner ω} {world : ω} {action : CodeAction}
  {document : δ} {candidate : Candidate}

theorem generateAndApply_of_unnamed
    (hunnamed : action.trigger.hasStructName = false) :
    fix.generateAndApply runner world action document candidate =
      ⟨.error (.missingStructName action.trigger.lineText), document, world, []⟩ := by
  unfold generateAndApply
  rw [StubCommand.compose_of_unnamed candidate fix.receiver hunnamed]

theorem generateAndApply_of_named
    (hnamed : action.trigger.hasStructName = true) :
    fix.generateAndApply runner world action document candidate =
      match (runner.report world (fix.invocation action document candidate)).1.stub with
      | .error error =>
          ⟨.error error, document,
            (runner.report world (fix.invocation action document candidate)).2, []⟩
      | .ok generated =>
          ⟨(Insertion.apply document action.trigger.structName generated).1,
            (Insertion.apply document action.trigger.structName generated).2,
            (runner.report world (fix.invocation action document candidate)).2, []⟩ := by
  unfold generateAndApply
  rw [StubCommand.compose_of_named candidate fix.receiver hnamed]
  rfl

theorem generateAndApply_result_eq_ok_iff
    {insertion : Insertion} (hnamed : action.trigger.hasStructName = true) :
    (fix.generateAndApply runner world action document candidate).result = .ok insertion ↔
      exists generated,
        (runner.report world (fix.invocation action document candidate)).1.stub =
          .ok generated ∧
        (Insertion.apply document action.trigger.structName generated).1 = .ok insertion := by
  rw [generateAndApply_of_named hnamed]
  cases hstub : (runner.report world (fix.invocation action document candidate)).1.stub with
  | error error =>
      simp
  | ok generated =>
      simp

theorem generateAndApply_eq_ok_iff {insertion : Insertion} :
    (fix.generateAndApply runner world action document candidate).result = .ok insertion ↔
      fix.ComesTo runner world action document candidate insertion := by
  cases hnamed : action.trigger.hasStructName with
  | false =>
      rw [generateAndApply_of_unnamed hnamed]
      simp [ComesTo, hnamed]
  | true =>
      rw [generateAndApply_result_eq_ok_iff hnamed]
      constructor
      · rintro ⟨generated, hstub, happly⟩
        rcases ToolReport.stub_ofOutcome_eq_ok_iff.mp hstub with
          ⟨stdout, stderr, houtcome, hstderr, hgenerated⟩
        rcases Insertion.apply_eq_ok_iff.mp happly with
          ⟨target, htarget, hinsertion, hdone⟩
        rcases Insertion.targetOf_eq_ok_iff.mp htarget with ⟨symbols, hsymbols, hfound⟩
        rw [hgenerated] at hinsertion
        exact ⟨hnamed, stdout, stderr, symbols, target, houtcome, hstderr, hsymbols, hfound,
          hinsertion, hdone⟩
      · rintro ⟨_, stdout, stderr, symbols, target, houtcome, hstderr, hsymbols, hfound,
          hinsertion, hdone⟩
        have htarget := Insertion.targetOf_eq_ok_iff.mpr ⟨symbols, hsymbols, hfound⟩
        exact ⟨Utf8.decodeLossy stdout,
          ToolReport.stub_ofOutcome_eq_ok_iff.mpr ⟨stdout, stderr, houtcome, hstderr, rfl⟩,
          Insertion.apply_eq_ok_iff.mpr ⟨target, htarget, hinsertion, hdone⟩⟩

theorem generateAndApply_world :
    (fix.generateAndApply runner world action document candidate).world =
      if action.trigger.hasStructName then
        (runner.run world (fix.invocation action document candidate)).2
      else world := by
  cases hnamed : action.trigger.hasStructName with
  | false =>
      rw [generateAndApply_of_unnamed hnamed]
      rfl
  | true =>
      rw [generateAndApply_of_named hnamed]
      split <;> rfl

theorem generateAndApply_document_of_ok
    {insertion : Insertion}
    (hdone : (fix.generateAndApply runner world action document candidate).result =
      .ok insertion) :
    (fix.generateAndApply runner world action document candidate).document =
      (Document.insertAtLine document insertion.line insertion.text).2 := by
  cases hnamed : action.trigger.hasStructName with
  | false =>
      rw [generateAndApply_of_unnamed hnamed] at hdone
      cases hdone
  | true =>
      rw [generateAndApply_of_named hnamed] at hdone ⊢
      cases hstub : (runner.report world (fix.invocation action document candidate)).1.stub with
      | error failure =>
          rw [hstub] at hdone
          cases hdone
      | ok generated =>
          rw [hstub] at hdone
          exact Insertion.apply_document_of_ok hdone

theorem generateAndApply_document_of_error
    {error : AssistError}
    (herror : (fix.generateAndApply runner world action document candidate).result =
      .error error) :
    (fix.generateAndApply runner world action document candidate).document = document ∨
      exists insertion : Insertion,
        Document.insertAtLine document insertion.line insertion.text =
          (.error error,
            (fix.generateAndApply runner world action document candidate).document) := by
  cases hnamed : action.trigger.hasStructName with
  | false =>
      rw [generateAndApply_of_unnamed hnamed]
      exact Or.inl rfl
  | true =>
      rw [generateAndApply_of_named hnamed] at herror ⊢
      cases hstub : (runner.report world (fix.invocation action document candidate)).1.stub with
      | error failure =>
          exact Or.inl rfl
      | ok generated =>
          rw [hstub] at herror
          exact Insertion.apply_document_of_error herror

end GenerateAndApply
end QuickFix
end StubAssist

import StubAssist.Proofs.QuickFix.Stages

/-!
# All or nothing

A fix either inserts once and says nothing, or inserts nothing and reports once.  To
count, the document and the generator are watched: a watched one behaves as the one
it watches and puts every insertion that succeeds, and every run, on record.
-/

namespace StubAssist

/-!
# Watched documents
-/

structure Watched (δ : Type) where
  document : δ
  inserted : List Insertion

namespace Watched

variable {δ : Type} [Document δ]

instance : Document (Watched δ) where
  path watched := Document.path watched.document
  directory watched := Document.directory watched.document
  lineAt watched := Document.lineAt watched.document
  symbolsNamed watched := Document.symbolsNamed watched.document
  insertAtLine watched line text :=
    match Document.insertAtLine watched.document line text with
    | (.error error, document) => (.error error, { watched with document := document })
    | (.ok (), document) => (.ok (), ⟨document, watched.inserted ++ [⟨line, text⟩]⟩)

theorem targetOf_eq (watched : Watched δ) (structName : Text) :
    Insertion.targetOf watched structName =
      Insertion.targetOf watched.document structName := rfl

theorem insertAtLine_eq (watched : Watched δ) (line : Nat) (text : Text) :
    Document.insertAtLine watched line text =
      match Document.insertAtLine watched.document line text with
      | (.error error, document) => (.error error, { watched with document := document })
      | (.ok (), document) => (.ok (), ⟨document, watched.inserted ++ [⟨line, text⟩]⟩) :=
  rfl

theorem apply_eq (watched : Watched δ) (structName generated : Text) :
    Insertion.apply watched structName generated =
      ((Insertion.apply watched.document structName generated).1,
        ⟨(Insertion.apply watched.document structName generated).2,
          watched.inserted ++
            (Insertion.apply watched.document structName generated).1.toOption.toList⟩) := by
  cases htarget : Insertion.targetOf watched.document structName with
  | error error =>
      rw [Insertion.apply_of_no_target generated htarget]
      rw [← targetOf_eq] at htarget
      rw [Insertion.apply_of_no_target generated htarget]
      simp [Except.toOption]
  | ok target =>
      rw [Insertion.apply_of_target generated htarget]
      rw [← targetOf_eq] at htarget
      rw [Insertion.apply_of_target generated htarget, insertAtLine_eq]
      cases Document.insertAtLine watched.document (Insertion.after target generated).line
          (Insertion.after target generated).text with
      | mk result next =>
          cases result with
          | error error =>
              simp [Except.toOption, Except.map]
          | ok done =>
              rfl

end Watched

/-!
# Watched runners
-/

namespace ToolRunner

variable {ω : Type}

def watched (runner : ToolRunner ω) : ToolRunner (ω × List Invocation) where
  run world invocation :=
    ((runner.run world.1 invocation).1,
      (runner.run world.1 invocation).2, world.2 ++ [invocation])

theorem report_watched
    (runner : ToolRunner ω) (world : ω × List Invocation) (invocation : Invocation) :
    runner.watched.report world invocation =
      ((runner.report world.1 invocation).1,
        (runner.report world.1 invocation).2, world.2 ++ [invocation]) := rfl

end ToolRunner

namespace QuickFix

variable {δ ω : Type} [Document δ]

/-- The fix carried out on a watched document with a watched generator. -/
def implementWatched (fix : QuickFix) (runner : ToolRunner ω) (world : ω)
    (action : CodeAction) (document : δ) (candidate : Candidate) :
    Attempt Insertion (Watched δ) (ω × List Invocation) :=
  fix.implement runner.watched (world, []) action ⟨document, []⟩ candidate

theorem generateAndApply_recorded
    (fix : QuickFix) (runner : ToolRunner ω) (world : ω) (record : List Invocation)
    (action : CodeAction) (document : δ) (candidate : Candidate) :
    fix.generateAndApply runner.watched (world, record) action document candidate =
      ⟨(fix.generateAndApply runner world action document candidate).result,
        (fix.generateAndApply runner world action document candidate).document,
        ((fix.generateAndApply runner world action document candidate).world,
          record ++
            if action.trigger.hasStructName then [fix.invocation action document candidate]
            else []),
        []⟩ := by
  cases hnamed : action.trigger.hasStructName with
  | false =>
      rw [generateAndApply_of_unnamed hnamed, generateAndApply_of_unnamed hnamed]
      simp
  | true =>
      rw [generateAndApply_of_named hnamed, generateAndApply_of_named hnamed,
        ToolRunner.report_watched]
      cases (runner.report world (fix.invocation action document candidate)).1.stub with
      | error error =>
          rfl
      | ok generated =>
          rfl

theorem generateAndApply_inserted
    (fix : QuickFix) (runner : ToolRunner ω) (world : ω) (action : CodeAction)
    (document : δ) (candidate : Candidate) :
    fix.generateAndApply runner world action (⟨document, []⟩ : Watched δ) candidate =
      ⟨(fix.generateAndApply runner world action document candidate).result,
        ⟨(fix.generateAndApply runner world action document candidate).document,
          (fix.generateAndApply runner world action document
            candidate).result.toOption.toList⟩,
        (fix.generateAndApply runner world action document candidate).world,
        []⟩ := by
  cases hnamed : action.trigger.hasStructName with
  | false =>
      rw [generateAndApply_of_unnamed hnamed, generateAndApply_of_unnamed hnamed]
      rfl
  | true =>
      have hinvocation : fix.invocation action (⟨document, []⟩ : Watched δ) candidate =
          fix.invocation action document candidate := rfl
      rw [generateAndApply_of_named hnamed, generateAndApply_of_named hnamed, hinvocation]
      cases (runner.report world (fix.invocation action document candidate)).1.stub with
      | error error =>
          rfl
      | ok generated =>
          simp only [Watched.apply_eq]
          rfl

theorem generateAndApply_watched
    (fix : QuickFix) (runner : ToolRunner ω) (world : ω) (action : CodeAction)
    (document : δ) (candidate : Candidate) :
    fix.generateAndApply runner.watched (world, []) action (⟨document, []⟩ : Watched δ)
        candidate =
      ⟨(fix.generateAndApply runner world action document candidate).result,
        ⟨(fix.generateAndApply runner world action document candidate).document,
          (fix.generateAndApply runner world action document
            candidate).result.toOption.toList⟩,
        ((fix.generateAndApply runner world action document candidate).world,
          if action.trigger.hasStructName then [fix.invocation action document candidate]
          else []),
        []⟩ := by
  rw [generateAndApply_recorded, generateAndApply_inserted]
  rfl

theorem generateAndApply_notifications
    (fix : QuickFix) (runner : ToolRunner ω) (world : ω) (action : CodeAction)
    (document : δ) (candidate : Candidate) :
    (fix.generateAndApply runner world action document candidate).notifications = [] := by
  cases hnamed : action.trigger.hasStructName with
  | false =>
      rw [generateAndApply_of_unnamed hnamed]
  | true =>
      rw [generateAndApply_of_named hnamed]
      split <;> rfl

end QuickFix

/-!
# The law
-/

namespace QuickFix

variable {δ ω : Type} [Document δ]

/-- Either one insertion and no word, or no insertion and one error message. -/
inductive Settles {δ ω : Type} (attempt : Attempt Insertion (Watched δ) ω) : Prop where
  | done {insertion : Insertion}
      (hresult : attempt.result = .ok insertion)
      (hinserted : attempt.document.inserted = [insertion])
      (hsilent : attempt.notifications = [])
  | failed {error : AssistError}
      (hresult : attempt.result = .error error)
      (hinserted : attempt.document.inserted = [])
      (hreported : attempt.notifications = [.error error.message])

/-- What a fix does to a document, and what it does when it is watched. -/
structure AllOrNothing (fix : QuickFix) (runner : ToolRunner ω) (world : ω)
    (action : CodeAction) (document : δ) (candidate : Candidate) : Prop where
  settles : Settles (fix.implementWatched runner world action document candidate)
  result_eq : (fix.implementWatched runner world action document candidate).result =
    (fix.implement runner world action document candidate).result
  document_eq :
    (fix.implementWatched runner world action document candidate).document.document =
      (fix.implement runner world action document candidate).document
  notifications_eq :
    (fix.implementWatched runner world action document candidate).notifications =
      (fix.implement runner world action document candidate).notifications
  comesTo : forall insertion,
    (fix.implement runner world action document candidate).result = .ok insertion ↔
      fix.ComesTo runner world action document candidate insertion
  runs : (fix.implementWatched runner world action document candidate).world.2 =
    if action.trigger.hasStructName then [fix.invocation action document candidate] else []
  inserts : forall insertion,
    (fix.implement runner world action document candidate).result = .ok insertion ->
      (fix.implement runner world action document candidate).document =
        (Document.insertAtLine document insertion.line insertion.text).2
  untouched : forall error,
    (fix.implement runner world action document candidate).result = .error error ->
      (fix.implement runner world action document candidate).document = document ∨
        exists insertion : Insertion,
          Document.insertAtLine document insertion.line insertion.text =
            (.error error, (fix.implement runner world action document candidate).document)

theorem settles_implementWatched
    (fix : QuickFix) (runner : ToolRunner ω) (world : ω) (action : CodeAction)
    (document : δ) (candidate : Candidate) :
    Settles (fix.implementWatched runner world action document candidate) := by
  unfold implementWatched implement
  rw [generateAndApply_watched]
  cases hresult : (fix.generateAndApply runner world action document candidate).result with
  | ok insertion =>
      exact Settles.done rfl rfl rfl
  | error error =>
      exact Settles.failed rfl rfl rfl

/-- A fix is all or nothing, and a source buffer that it fails on is as it was. -/
theorem implement_allOrNothing
    (fix : QuickFix) (runner : ToolRunner ω) (world : ω) (action : CodeAction)
    (document : δ) (candidate : Candidate) :
    fix.AllOrNothing runner world action document candidate ∧
      forall (buffer : SourceBuffer) (error : AssistError),
        (fix.implement runner world action buffer candidate).result = .error error ->
          (fix.implement runner world action buffer candidate).document = buffer := by
  have hwatched : fix.implementWatched runner world action document candidate =
      (fix.generateAndApply runner.watched (world, []) action
        (⟨document, []⟩ : Watched δ) candidate).reported := rfl
  rw [generateAndApply_watched] at hwatched
  constructor
  · constructor
    · exact settles_implementWatched fix runner world action document candidate
    · rw [hwatched, implement, Attempt.reported_result, Attempt.reported_result]
    · rw [hwatched, implement, Attempt.reported_document, Attempt.reported_document]
    · rw [hwatched, implement, Attempt.reported_notifications, Attempt.reported_notifications,
        generateAndApply_notifications]
    · intro insertion
      rw [implement, Attempt.reported_result]
      exact generateAndApply_eq_ok_iff
    · rw [hwatched, Attempt.reported_world]
    · intro insertion hdone
      rw [implement, Attempt.reported_result] at hdone
      rw [implement, Attempt.reported_document]
      exact generateAndApply_document_of_ok hdone
    · intro error herror
      rw [implement, Attempt.reported_result] at herror
      rw [implement, Attempt.reported_document]
      exact generateAndApply_document_of_error herror
  · intro buffer error herror
    rw [implement, Attempt.reported_result] at herror
    rw [implement, Attempt.reported_document]
    rcases generateAndApply_document_of_error herror with hsame | ⟨insertion, hinsert⟩
    · exact hsame
    · cases hinsert

end QuickFix
end StubAssist

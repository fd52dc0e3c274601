import Mathlib.Data.List.TakeWhile
import StubAssist.Proofs.Go.Declarations
import StubAssist.Proofs.QuickFix.Stages

/-!
# Declared structs

The line of a declaration and the scan that finds it name the struct in ways of their
own: the fix takes the second word of the line, the scan leaves out type parameters
and knows groups.  They agree on a struct that is declared outside a group and has no
type parameters.  The fix then goes after the first declaration of that name.
-/

namespace StubAssist

/-!
# The fix on a source buffer
-/

namespace SourceBuffer

theorem find?_symbolsNamed (symbols : List Symbol) (name : Text) :
    (symbols.filter (·.name == name)).find? (·.name == name) =
      symbols.find? (·.name == name) := by
  rw [List.find?_filter]
  simp only [and_self, Bool.decide_eq_true]

/-- Where stubs for a struct go: after the first declaration of its name, if any. -/
def placeFor (buffer : SourceBuffer) (structName generated : Text) :
    Except AssistError Insertion :=
  match buffer.declarations.find? (·.name == structName) with
  | none => .error (.structNotFound structName buffer.path)
  | some target => .ok ⟨target.range.stop.line + 1, '\n' :: generated⟩

def withStubs (buffer : SourceBuffer) (structName generated : Text) : SourceBuffer :=
  match buffer.placeFor structName generated with
  | .error _ => buffer
  | .ok insertion => buffer.insertAtLine insertion.line insertion.text

theorem targetOf_eq (buffer : SourceBuffer) (structName : Text) :
    Insertion.targetOf buffer structName =
      match buffer.declarations.find? (·.name == structName) with
      | none => .error (.structNotFound structName buffer.path)
      | some target => .ok target := by
  have hsymbols : Document.symbolsNamed buffer structName =
      .ok (buffer.declarations.filter (·.name == structName)) := rfl
  unfold Insertion.targetOf
  rw [hsymbols]
  dsimp only
  rw [find?_symbolsNamed]
  rfl

theorem apply_eq (buffer : SourceBuffer) (structName generated : Text) :
    Insertion.apply buffer structName generated =
      (buffer.placeFor structName generated, buffer.withStubs structName generated) := by
  have htargetOf := targetOf_eq buffer structName
  unfold withStubs placeFor
  cases hfound : buffer.declarations.find? (·.name == structName) with
  | none =>
      rw [hfound] at htargetOf
      exact Insertion.apply_of_no_target generated htargetOf
  | some target =>
      rw [hfound] at htargetOf
      exact Insertion.apply_of_target generated htargetOf

theorem apply_of_find?
    {buffer : SourceBuffer} {name : Text} {target : Symbol} (stubs : Text)
    (hfirst : buffer.declarations.find? (·.name == name) = some target) :
    Insertion.apply buffer name stubs =
      (.ok ⟨target.range.stop.line + 1, '\n' :: stubs⟩,
        buffer.insertAtLine (target.range.stop.line + 1) ('\n' :: stubs)) := by
  have hplace : buffer.placeFor name stubs =
      .ok ⟨target.range.stop.line + 1, '\n' :: stubs⟩ := by
    rw [placeFor, hfirst]
  rw [apply_eq, withStubs, hplace]

theorem exists_target_of_apply
    {buffer after : SourceBuffer} {name generated : Text} {insertion : Insertion}
    (happly : Insertion.apply buffer name generated = (.ok insertion, after)) :
    exists target,
      buffer.declarations.find? (·.name == name) = some target ∧
        insertion = .after target generated := by
  rw [apply_eq, placeFor] at happly
  cases hfirst : buffer.declarations.find? (·.name == name) with
  | none =>
      rw [hfirst] at happly
      cases happly
  | some target =>
      rw [hfirst] at happly
      cases happly
      exact ⟨target, rfl, rfl⟩

end SourceBuffer

namespace QuickFix

variable {ω : Type}

/-- The generator does its job for the action and prints `generated`. -/
def Generates (fix : QuickFix) (runner : ToolRunner ω) (world : ω) (action : CodeAction)
    (buffer : SourceBuffer) (candidate : Candidate) (generated : Text) : Prop :=
  exists stdout stderr,
    (runner.run world (fix.invocation action buffer candidate)).1 =
      .finished (.code 0) stdout stderr ∧
    Text.trim (Utf8.decodeLossy stderr) = [] ∧
    generated = Utf8.decodeLossy stdout

theorem implement_of_generates
    {fix : QuickFix} {runner : ToolRunner ω} {world : ω} {action : CodeAction}
    {buffer : SourceBuffer} {candidate : Candidate} {generated : Text}
    (hnamed : action.trigger.hasStructName = true)
    (hgenerates : fix.Generates runner world action buffer candidate generated) :
    (fix.implement runner world action buffer candidate).result =
        buffer.placeFor action.trigger.structName generated ∧
      (fix.implement runner world action buffer candidate).document =
        buffer.withStubs action.trigger.structName generated := by
  have hstub : (runner.report world (fix.invocation action buffer candidate)).1.stub =
      .ok generated :=
    ToolReport.stub_ofOutcome_eq_ok_iff.mpr hgenerates
  rw [implement, Attempt.reported_result, Attempt.reported_document,
    generateAndApply_of_named hnamed, hstub]
  dsimp only
  rw [SourceBuffer.apply_eq]
  exact ⟨rfl, rfl⟩

end QuickFix

/-!
# The action on the line of a declaration
-/

namespace CodeAction

theorem on_of_mentionsStruct
    {buffer : SourceBuffer} {index : Nat} {line : Text}
    (hline : Document.lineAt buffer index = some line)
    (hmentions : mentionsStruct line = true) :
    on buffer index = .ok ⟨index, ⟨line, ((Text.words line)[1]?).getD []⟩⟩ := by
  have hoffered : offered buffer (.ofLines index index) =
      [⟨index, ⟨line, ((Text.words line)[1]?).getD []⟩⟩] := by
    have hstart : Document.lineAt buffer (Range.ofLines index index).start.line = some line :=
      hline
    unfold offered Trigger.detect
    rw [hstart]
    simp only [hmentions, if_true]
    rfl
  unfold on
  rw [hline, hoffered]
  rfl

end CodeAction

namespace SourceBuffer

def IsOutsideGroups (buffer : SourceBuffer) (index : Nat) : Prop :=
  (Go.stateAfter .initial ((Text.lines buffer.content).take index)).group = none

end SourceBuffer

/-- The action for a declared struct, and what comes of it when the generator does. -/
structure FixesDeclared (buffer : SourceBuffer) (symbol : Symbol) (action : CodeAction) :
    Prop where
  offered : CodeAction.on buffer symbol.range.start.line = .ok action
  named : action.trigger.hasStructName = true
  secondWord : exists line,
    Document.lineAt buffer symbol.range.start.line = some line ∧
    (Text.words line)[1]? = some action.trigger.structName
  cut : buffer.IsOutsideGroups symbol.range.start.line ->
    symbol.name = action.trigger.structName.takeWhile (· != '[')
  agrees : buffer.IsOutsideGroups symbol.range.start.line ->
    (action.trigger.structName = symbol.name ↔ '[' ∉ action.trigger.structName)
  inserts : forall {ω : Type} (fix : QuickFix) (runner : ToolRunner ω) (world : ω)
      (candidate : Candidate) (generated : Text),
    fix.Generates runner world action buffer candidate generated ->
      (fix.implement runner world action buffer candidate).result =
          buffer.placeFor action.trigger.structName generated ∧
        (fix.implement runner world action buffer candidate).document =
          buffer.withStubs action.trigger.structName generated
  afterItself : forall {ω : Type} (fix : QuickFix) (runner : ToolRunner ω) (world : ω)
      (candidate : Candidate) (generated : Text),
    fix.Generates runner world action buffer candidate generated ->
      action.trigger.structName = symbol.name ->
      buffer.declarations.find? (·.name == symbol.name) = some symbol ->
        (fix.implement runner world action buffer candidate).result =
            .ok ⟨symbol.range.stop.line + 1, '\n' :: generated⟩ ∧
          (fix.implement runner world action buffer candidate).document =
            buffer.insertAtLine (symbol.range.stop.line + 1) ('\n' :: generated)

theorem takeWhile_ne_bracket_eq_self_iff (name : Text) :
    name = name.takeWhile (· != '[') ↔ '[' ∉ name := by
  rw [eq_comm, List.takeWhile_eq_self_iff]
  constructor
  · intro hall hmem
    have hne := hall '[' hmem
    simp at hne
  · intro hnone c hmem
    have hne : c ≠ '[' := fun h => hnone (h ▸ hmem)
    simp [hne]

/-- Every declared struct has its fix, which the second word of its line aims. -/
theorem exists_fixesDeclared
    {buffer : SourceBuffer} {symbol : Symbol} (hdeclared : symbol ∈ buffer.declarations)
    (hstruct : symbol.kind = .struct) :
    exists action, FixesDeclared buffer symbol action := by
  rcases Go.eq_of_mem_typeDeclarations hdeclared with ⟨line, hline, hhead⟩
  rw [hstruct] at hhead
  rcases Go.struct_line_of_scanDeclaration hhead with ⟨hmentions, second, hsecond, hname⟩
  have hlineAt : Document.lineAt buffer symbol.range.start.line = some line := hline
  have hon := CodeAction.on_of_mentionsStruct hlineAt
    (Text.contains_iff_infix.mpr hmentions)
  rw [hsecond] at hon
  have hnamed : (Trigger.mk line second).hasStructName = true := by
    have hne := Text.ne_nil_of_mem_words (List.mem_of_getElem? hsecond)
    simp [Trigger.hasStructName, hne]
  refine ⟨⟨symbol.range.start.line, ⟨line, second⟩⟩, ?_⟩
  constructor
  · exact hon
  · exact hnamed
  · exact ⟨line, hlineAt, hsecond⟩
  · exact hname
  · intro houtside
    show second = symbol.name ↔ '[' ∉ second
    rw [hname houtside]
    exact takeWhile_ne_bracket_eq_self_iff second
  · intro ω fix runner world candidate generated hgenerates
    exact QuickFix.implement_of_generates hnamed hgenerates
  · intro ω fix runner world candidate generated hgenerates hsame hfirst
    have hplace : buffer.placeFor second generated =
        .ok ⟨symbol.range.stop.line + 1, '\n' :: generated⟩ := by
      rw [show second = symbol.name from hsame, SourceBuffer.placeFor, hfirst]
    rcases QuickFix.implement_of_generates hnamed hgenerates with ⟨hresult, hdocument⟩
    rw [SourceBuffer.withStubs, hplace] at hdocument
    exact ⟨hresult.trans hplace, hdocument⟩

def server : SourceBuffer :=
  ⟨"foo.go", "package p\n\ntype Server struct \x7b\n\x7d\n"⟩

theorem exists_fixesDeclared_server :
    ⟨"Server", .struct, .ofLines 2 3, some "p".toList⟩ ∈ server.declarations ∧
      exists action,
        FixesDeclared server ⟨"Server", .struct, .ofLines 2 3, some "p".toList⟩ action :=
  have hdeclared : ⟨"Server", .struct, .ofLines 2 3, some "p".toList⟩ ∈
      server.declarations := by decide
  ⟨hdeclared, exists_fixesDeclared hdeclared rfl⟩

/-!
# Where the names part

The fix would always go after the struct that its line declares, if the line and the
scan named it alike and no name were declared twice.
-/

/-- Each declared struct is named on its own line and gets its stubs itself. -/
def FixesItself (buffer : SourceBuffer) : Prop :=
  forall symbol, symbol ∈ buffer.declarations -> symbol.kind = .struct ->
    exists action,
      CodeAction.on buffer symbol.range.start.line = .ok action ∧
      action.trigger.structName = symbol.name ∧
      forall {ω : Type} (fix : QuickFix) (runner : ToolRunner ω) (world : ω)
        (candidate : Candidate) (generated : Text),
        fix.Generates runner world action buffer candidate generated ->
          (fix.implement runner world action buffer candidate).result =
            .ok ⟨symbol.range.stop.line + 1, '\n' :: generated⟩

def generic : SourceBuffer :=
  ⟨"foo.go", "type Set[T any] struct\x7b\x7d\n"⟩

def grouped : SourceBuffer :=
  ⟨"foo.go", "type (\n\tCircle struct\x7b\x7d\n)\n"⟩

def repeated : SourceBuffer :=
  ⟨"foo.go", "type Twin struct\x7b\x7d\ntype Twin struct\x7b\x7d\n"⟩

/-- Type parameters and groups hide the name from the line; a repeated name is ambiguous. -/
theorem not_fixesItself :
    ¬ FixesItself generic ∧ ¬ FixesItself grouped ∧ ¬ FixesItself repeated := by
  refine ⟨?_, ?_, ?_⟩
  · intro hfixes
    rcases hfixes ⟨"Set", .struct, .ofLines 0 0, none⟩ (by decide) rfl with
      ⟨action, haction, hname, _⟩
    have hsame : action = ⟨0, ⟨"type Set[T any] struct\x7b\x7d", "Set[T"⟩⟩ :=
      Except.ok.inj (haction.symm.trans rfl)
    rw [hsame] at hname
    exact absurd hname (by decide)
  · intro hfixes
    rcases hfixes ⟨"Circle", .struct, .ofLines 1 1, none⟩ (by decide) rfl with
      ⟨action, haction, hname, _⟩
    have hsame : action = ⟨1, ⟨"\tCircle struct\x7b\x7d", "struct\x7b\x7d"⟩⟩ :=
      Except.ok.inj (haction.symm.trans rfl)
    rw [hsame] at hname
    exact absurd hname (by decide)
  · intro hfixes
    rcases hfixes ⟨"Twin", .struct, .ofLines 1 1, none⟩ (by decide) rfl with
      ⟨action, haction, hname, hresult⟩
    have hsame : action = ⟨1, ⟨"type Twin struct\x7b\x7d", "Twin"⟩⟩ :=
      Except.ok.inj (haction.symm.trans rfl)
    rw [hsame] at hresult
    have hgenerates : (QuickFix.ofSettings .default).Generates
        ⟨fun _ _ => (.finished (.code 0) [] [], ())⟩ ()
        ⟨1, ⟨"type Twin struct\x7b\x7d", "Twin"⟩⟩ repeated ⟨"Reader", none⟩ [] :=
      ⟨[], [], rfl, rfl, rfl⟩
    have hdone := hresult _ _ _ _ _ hgenerates
    rw [(QuickFix.implement_of_generates rfl hgenerates).left] at hdone
    have hplace : repeated.placeFor "Twin" [] = .ok ⟨1, ['\n']⟩ := rfl
    cases hplace.symm.trans hdone

end StubAssist

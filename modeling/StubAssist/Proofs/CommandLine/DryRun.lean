import StubAssist.CommandLine.Run
import StubAssist.Proofs.Files.Writing
import StubAssist.Proofs.QuickFix.Landing
import StubAssist.Proofs.Text.Words

/-!
# Dry runs

A dry run does all that the real one does but the writing.  So it shows what the real run
writes, and where nothing comes to be written the two are the same run.
-/

namespace StubAssist

/-!
# Splices
-/

/--
The text is `original` with `inserted` at the start of a line, after a line feed where
that line would follow a last one that lacks its own.
-/
def IsSplice (original : Text) (line : Nat) (inserted edited : Text) : Prop :=
  exists before after,
    edited = before ++ (inserted ++ after) ∧
      Text.isWhole before = true ∧ (Text.lines before).length = line ∧
      (original = before ++ after ∨
        after = [] ∧ Text.isWhole original = false ∧ before = original ++ ['\n'])

theorem isSplice_insertAtLine
    {original : Text} {line : Nat} (inserted : Text)
    (hline : line ≤ (Text.lines original).length) :
    IsSplice original line inserted (Text.insertAtLine original line inserted) := by
  rcases Nat.lt_or_eq_of_le hline with hlt | heq
  · rcases Text.exists_cut hlt with ⟨before, after, hsplit, hwhole, hlength, hafter⟩
    refine ⟨before, after, ?_, hwhole, hlength, Or.inl hsplit⟩
    rw [hsplit, Text.insertAtLine_between inserted hwhole hlength hafter]
  · refine ⟨Text.completed original, [], ?_, Text.isWhole_completed original, ?_, ?_⟩
    · rw [List.append_nil, Text.insertAtLine_of_length_le inserted (Nat.le_of_eq heq.symm)]
    · rw [heq]
      exact (Text.alike_lines_completed original).length_eq.symm
    · cases hwhole : Text.isWhole original with
      | true =>
          rw [Text.completed_of_isWhole hwhole, List.append_nil]
          exact Or.inl rfl
      | false =>
          exact Or.inr ⟨rfl, rfl, Text.completed_of_isPart hwhole⟩

namespace CommandLine

open FileTree (sole)

/-!
# Before the generator
-/

structure IsOffered (files : FileTree) (file : Text) (line : Nat) (buffer : SourceBuffer)
    (action : CodeAction) : Prop where
  counted : line ≠ 0
  opened : SourceBuffer.open? files file = .ok buffer
  offered : CodeAction.on buffer (line - 1) = .ok action

theorem readText_of_open?
    {files : FileTree} {file : Text} {buffer : SourceBuffer}
    (hopened : SourceBuffer.open? files file = .ok buffer) :
    files.readText file = .ok buffer.content ∧ buffer.path = file := by
  unfold SourceBuffer.open? at hopened
  cases hread : files.readText file with
  | error error =>
      rw [hread] at hopened
      cases hopened
  | ok content =>
      rw [hread] at hopened
      cases hopened
      exact ⟨rfl, rfl⟩

theorem mentionsStruct_of_on
    {buffer : SourceBuffer} {index : Nat} {action : CodeAction}
    (hoffered : CodeAction.on buffer index = .ok action) :
    exists line, line ∈ Text.lines buffer.content ∧ mentionsStruct line = true := by
  cases hline : Document.lineAt buffer index with
  | none =>
      unfold CodeAction.on at hoffered
      rw [hline] at hoffered
      cases hoffered
  | some line =>
      refine ⟨line, List.mem_of_getElem? hline, ?_⟩
      cases hmentions : mentionsStruct line with
      | true => rfl
      | false =>
          have hstart : Document.lineAt buffer (Range.ofLines index index).start.line =
              some line := hline
          unfold CodeAction.on CodeAction.offered Trigger.detect at hoffered
          rw [hline, hstart] at hoffered
          simp [hmentions] at hoffered

theorem IsOffered.exists_holdsFile
    {files after : FileTree} {file : Text} {line : Nat} {buffer : SourceBuffer}
    {action : CodeAction} (hoffered : IsOffered files file line buffer action)
    (hsame : after.read file = files.read file) :
    exists location bytes attributes,
      FileTree.HoldsFile after file location bytes attributes := by
  rcases readText_of_open? hoffered.opened with ⟨hread, _⟩
  have hafter : after.readText file = .ok buffer.content := by
    rw [← hread]
    unfold FileTree.readText
    rw [hsame]
  rcases mentionsStruct_of_on hoffered.offered with ⟨text, hline, hmentions⟩
  have hword := Text.contains_iff_infix.mp hmentions
  have hmem : 's' ∈ buffer.content :=
    Text.mem_of_mem_lines hline (List.IsInfix.subset hword List.mem_cons_self)
  exact FileTree.exists_holdsFile_of_readText hafter hmem (by decide)

/-!
# One run
-/

section Runs

variable {tools : ToolRunner FileTree} {files : FileTree} {settings : Settings} {file : Text}
  {line : Nat}

theorem runImplement_of_unasked
    {buffer : SourceBuffer} {action : CodeAction} (tools : ToolRunner FileTree)
    (settings : Settings) (hoffered : IsOffered files file line buffer action) :
    exists outcome,
      outcome.exitCode = 1 ∧ outcome.files = files ∧
      forall isDryRun,
        runImplement tools files settings file line none isDryRun = outcome := by
  unfold runImplement zeroBased
  rw [if_neg hoffered.counted]
  simp only [hoffered.opened, hoffered.offered]
  cases hrefusal : action.promptRefusal with
  | some error =>
      exact ⟨.stopped files [.error error.message], rfl, rfl, fun _ => rfl⟩
  | none =>
      exact ⟨.failed files noTerminal, rfl, rfl, fun _ => rfl⟩

theorem runImplement_of_error
    {buffer : SourceBuffer} {action : CodeAction} {name : Text}
    {attempt : Attempt Insertion SourceBuffer FileTree} {error : AssistError}
    (isDryRun : Bool) (hoffered : IsOffered files file line buffer action)
    (hattempt : (QuickFix.ofSettings settings).implement tools files action buffer
      (Candidate.ofQualified name) = attempt)
    (herror : attempt.result = .error error) :
    runImplement tools files settings file line (some name) isDryRun =
      .stopped attempt.world attempt.notifications := by
  unfold runImplement zeroBased
  rw [if_neg hoffered.counted]
  simp only [hoffered.opened, hoffered.offered, hattempt, herror]

theorem runImplement_of_ok
    {buffer : SourceBuffer} {action : CodeAction} {name : Text}
    {attempt : Attempt Insertion SourceBuffer FileTree} {insertion : Insertion}
    (isDryRun : Bool) (hoffered : IsOffered files file line buffer action)
    (hattempt : (QuickFix.ofSettings settings).implement tools files action buffer
      (Candidate.ofQualified name) = attempt)
    (hdone : attempt.result = .ok insertion) :
    runImplement tools files settings file line (some name) isDryRun =
      finishImplement attempt.world file action attempt.document insertion isDryRun := by
  unfold runImplement zeroBased
  rw [if_neg hoffered.counted]
  simp only [hoffered.opened, hoffered.offered, hattempt, hdone]

theorem runImplement_of_not_offered
    (interface : Option Text)
    (hnone : forall buffer action, ¬ IsOffered files file line buffer action) :
    exists message,
      forall isDryRun,
        runImplement tools files settings file line interface isDryRun =
          .failed files message := by
  unfold runImplement zeroBased
  by_cases hcounted : line = 0
  · exact ⟨_, fun isDryRun => by rw [if_pos hcounted]⟩
  · simp only [hcounted, if_false]
    cases hopened : SourceBuffer.open? files file with
    | error message =>
        exact ⟨message, fun isDryRun => rfl⟩
    | ok buffer =>
        cases hoffered : CodeAction.on buffer (line - 1) with
        | error error =>
            exact ⟨error.message, fun isDryRun => by simp only [hoffered]⟩
        | ok action =>
            exact absurd ⟨hcounted, hopened, hoffered⟩ (hnone buffer action)

/-- What a run inserts into what buffer, if it gets as far as that. -/
def Inserts (tools : ToolRunner FileTree) (files : FileTree) (settings : Settings)
    (file : Text) (line : Nat) (interface : Option Text) (buffer : SourceBuffer)
    (insertion : Insertion) : Prop :=
  exists action name,
    IsOffered files file line buffer action ∧ interface = some name ∧
      (QuickFix.ofSettings settings).ComesTo tools files action buffer
        (Candidate.ofQualified name) insertion

/-- The tree as the generator leaves it, if a run gets as far as that. -/
def IsLeft (tools : ToolRunner FileTree) (files : FileTree) (settings : Settings)
    (file : Text) (line : Nat) (interface : Option Text) (after : FileTree) : Prop :=
  exists buffer action name,
    IsOffered files file line buffer action ∧ interface = some name ∧
      after = (tools.run files
        ((QuickFix.ofSettings settings).invocation action buffer
          (Candidate.ofQualified name))).2

theorem line_le_of_inserts
    {interface : Option Text} {buffer : SourceBuffer} {insertion : Insertion}
    (hinserts : Inserts tools files settings file line interface buffer insertion) :
    insertion.line ≤ (Text.lines buffer.content).length := by
  rcases hinserts with ⟨action, name, _, _, _, stdout, stderr, symbols, target, _, _, hsymbols,
    hfound, hinsertion, _⟩
  have hnamed : buffer.declarations.filter (·.name == action.trigger.structName) = symbols :=
    Except.ok.inj hsymbols
  have hmem := List.mem_of_find?_eq_some hfound
  rw [← hnamed] at hmem
  rw [hinsertion]
  exact Go.stop_lt_length_of_mem_typeDeclarations (List.mem_of_mem_filter hmem)

theorem runImplement_of_inserts
    {interface : Option Text} {buffer : SourceBuffer} {insertion : Insertion}
    (hinserts : Inserts tools files settings file line interface buffer insertion) :
    exists action after,
      IsOffered files file line buffer action ∧
      IsLeft tools files settings file line interface after ∧
      forall isDryRun,
        runImplement tools files settings file line interface isDryRun =
          finishImplement after file action
            (buffer.insertAtLine insertion.line insertion.text) insertion isDryRun := by
  rcases hinserts with ⟨action, name, hoffered, rfl, hcomes⟩
  have hdone := QuickFix.generateAndApply_eq_ok_iff.mpr hcomes
  have hresult : ((QuickFix.ofSettings settings).implement tools files action buffer
      (Candidate.ofQualified name)).result = .ok insertion := by
    rw [QuickFix.implement, Attempt.reported_result, hdone]
  have hdocument : ((QuickFix.ofSettings settings).implement tools files action buffer
      (Candidate.ofQualified name)).document =
        buffer.insertAtLine insertion.line insertion.text := by
    rw [QuickFix.implement, Attempt.reported_document]
    exact QuickFix.generateAndApply_document_of_ok hdone
  have hworld : ((QuickFix.ofSettings settings).implement tools files action buffer
      (Candidate.ofQualified name)).world =
        (tools.run files ((QuickFix.ofSettings settings).invocation action buffer
          (Candidate.ofQualified name))).2 := by
    rw [QuickFix.implement, Attempt.reported_world, QuickFix.generateAndApply_world,
      if_pos hcomes.left]
  refine ⟨action, _, hoffered, ⟨buffer, action, name, hoffered, rfl, rfl⟩, ?_⟩
  intro isDryRun
  rw [runImplement_of_ok isDryRun hoffered rfl hresult, hdocument, hworld]

theorem runImplement_of_not_inserts
    {interface : Option Text}
    (hnone : forall buffer insertion,
      ¬ Inserts tools files settings file line interface buffer insertion) :
    exists outcome,
      outcome.exitCode = 1 ∧
      (outcome.files = files ∨
        IsLeft tools files settings file line interface outcome.files) ∧
      forall isDryRun,
        runImplement tools files settings file line interface isDryRun = outcome := by
  by_cases hoffered : exists buffer action, IsOffered files file line buffer action
  · rcases hoffered with ⟨buffer, action, hoffered⟩
    cases interface with
    | none =>
        rcases runImplement_of_unasked tools settings hoffered with
          ⟨outcome, hcode, hfiles, hrun⟩
        exact ⟨outcome, hcode, Or.inl hfiles, hrun⟩
    | some name =>
        cases hresult : ((QuickFix.ofSettings settings).implement tools files action buffer
            (Candidate.ofQualified name)).result with
        | error error =>
            refine ⟨_, ?_, ?_, fun isDryRun =>
              runImplement_of_error isDryRun hoffered rfl hresult⟩
            · rfl
            · show Attempt.world _ = files ∨ _
              rw [QuickFix.implement, Attempt.reported_world, QuickFix.generateAndApply_world]
              split
              · exact Or.inr ⟨buffer, action, name, hoffered, rfl, rfl⟩
              · exact Or.inl rfl
        | ok insertion =>
            refine absurd ⟨action, name, hoffered, rfl, ?_⟩ (hnone buffer insertion)
            rw [QuickFix.implement, Attempt.reported_result] at hresult
            exact QuickFix.generateAndApply_eq_ok_iff.mp hresult
  · have hnotOffered : forall buffer action, ¬ IsOffered files file line buffer action :=
      fun buffer action h => hoffered ⟨buffer, action, h⟩
    rcases runImplement_of_not_offered interface hnotOffered with ⟨message, hfailed⟩
    exact ⟨_, rfl, Or.inl rfl, hfailed⟩

/-- The real run writes a text to a file of the tree, and the dry one shows it instead. -/
structure Foretells (after : FileTree) (path text : Text) (real dry : Outcome) : Prop where
  realCode : real.exitCode = 0
  dryCode : dry.exitCode = 0
  written : after.write path (Utf8.encode text) = .ok real.files
  read : real.files.read path = .ok (Utf8.encode text)
  kept : dry.files = after
  shown : dry.output = text

theorem finishImplement_foretells
    {after : FileTree} {location : Location} {bytes : Utf8.Bytes} {attributes : Attributes}
    (file : Text) (action : CodeAction) (edited : SourceBuffer) (insertion : Insertion)
    (hfile : FileTree.HoldsFile after edited.path location bytes attributes) :
    Foretells after edited.path edited.content
      (finishImplement after file action edited insertion false)
      (finishImplement after file action edited insertion true) := by
  rcases SourceBuffer.save_of_holdsFile hfile with ⟨written, hsave, hwrite, hread⟩
  have hcode : (finishImplement after file action edited insertion false).exitCode = 0 := by
    simp only [finishImplement, hsave]
    rfl
  have hfiles : (finishImplement after file action edited insertion false).files =
      written := by
    simp only [finishImplement, hsave]
    rfl
  constructor
  · exact hcode
  · rfl
  · rw [hfiles]
    exact hwrite
  · rw [hfiles]
    exact hread
  · rfl
  · rfl

end Runs

/-!
# Dry runs and real ones
-/

structure Request where
  settingsPath : Text
  file : Text
  line : Nat
  interface : Option Text
  overrides : ReceiverOverrides

namespace Request

def commandLine (request : Request) (isVerbose isDryRun : Bool) : CommandLine :=
  ⟨isVerbose, request.settingsPath,
    .implement request.file request.line request.interface isDryRun request.overrides⟩

def Uses (request : Request) (files : FileTree) (settings : Settings) : Prop :=
  exists settingsFile,
    SettingsFile.loadOrDefault files request.settingsPath = .ok settingsFile ∧
      settings = overridden request.overrides settingsFile.settings

/-- The generator leaves the file alone, whatever else it does. -/
def IsUntouched (request : Request) (tools : ToolRunner FileTree) (files : FileTree) : Prop :=
  forall settings after, request.Uses files settings ->
    IsLeft tools files settings request.file request.line request.interface after ->
      after.read request.file = files.read request.file

/-- The insertion that the request comes to, and the buffer that it goes into. -/
def ComesTo (request : Request) (tools : ToolRunner FileTree) (files : FileTree)
    (buffer : SourceBuffer) (insertion : Insertion) : Prop :=
  exists settings, request.Uses files settings ∧
    Inserts tools files settings request.file request.line request.interface buffer insertion

/-- What a real run and a dry one of a request come to. -/
structure Predicts (request : Request) (tools : ToolRunner FileTree) (files : FileTree)
    (real dry : Outcome) : Prop where
  inserts : forall buffer insertion, request.ComesTo tools files buffer insertion ->
    real.exitCode = 0 ∧ dry.exitCode = 0 ∧
      IsSplice buffer.content insertion.line insertion.text dry.output ∧
      dry.files.write request.file (Utf8.encode dry.output) = .ok real.files ∧
      real.files.read request.file = .ok (Utf8.encode dry.output)
  stops : (forall buffer insertion, ¬ request.ComesTo tools files buffer insertion) ->
    real = dry ∧ real.exitCode = 1 ∧
      real.files.read request.file = files.read request.file
  keeps : dry.files.read request.file = files.read request.file
  shows : dry.exitCode = 0 ->
    real.files.read request.file = .ok (Utf8.encode dry.output)

end Request

section

variable {tools : ToolRunner FileTree} {files : FileTree} {request : Request}

theorem run_of_uses
    {settings : Settings} (huses : request.Uses files settings) (isVerbose isDryRun : Bool) :
    run tools files (request.commandLine isVerbose isDryRun) =
      runImplement tools files settings request.file request.line request.interface
        isDryRun := by
  rcases huses with ⟨settingsFile, hload, hsettings⟩
  unfold run Request.commandLine
  simp only [hload, hsettings]

theorem line_le_of_comesTo
    {buffer : SourceBuffer} {insertion : Insertion}
    (hcomes : request.ComesTo tools files buffer insertion) :
    insertion.line ≤ (Text.lines buffer.content).length := by
  rcases hcomes with ⟨settings, _, hinserts⟩
  exact line_le_of_inserts hinserts

theorem run_of_comesTo
    {buffer : SourceBuffer} {insertion : Insertion} (isVerbose : Bool)
    (huntouched : request.IsUntouched tools files)
    (hcomes : request.ComesTo tools files buffer insertion) :
    exists after,
      after.read request.file = files.read request.file ∧
      Foretells after request.file
        (Text.insertAtLine buffer.content insertion.line insertion.text)
        (run tools files (request.commandLine isVerbose false))
        (run tools files (request.commandLine isVerbose true)) := by
  rcases hcomes with ⟨settings, huses, hinserts⟩
  rcases runImplement_of_inserts hinserts with ⟨action, after, hoffered, hleft, hrun⟩
  have hsame := huntouched settings after huses hleft
  have hpath := (readText_of_open? hoffered.opened).right
  rcases hoffered.exists_holdsFile hsame with ⟨location, bytes, attributes, hfile⟩
  rw [← hpath] at hfile
  refine ⟨after, hsame, ?_⟩
  rw [run_of_uses huses, run_of_uses huses, hrun, hrun, ← hpath]
  exact finishImplement_foretells buffer.path action
    (buffer.insertAtLine insertion.line insertion.text) insertion hfile

theorem run_of_not_comesTo
    (isVerbose : Bool) (huntouched : request.IsUntouched tools files)
    (hnone : forall buffer insertion, ¬ request.ComesTo tools files buffer insertion) :
    exists outcome,
      outcome.exitCode = 1 ∧
      outcome.files.read request.file = files.read request.file ∧
      forall isDryRun, run tools files (request.commandLine isVerbose isDryRun) = outcome := by
  cases hload : SettingsFile.loadOrDefault files request.settingsPath with
  | error error =>
      refine ⟨.ofSettingsError files error, rfl, rfl, ?_⟩
      intro isDryRun
      unfold run Request.commandLine
      simp only [hload]
  | ok settingsFile =>
      have huses : request.Uses files (overridden request.overrides settingsFile.settings) :=
        ⟨settingsFile, hload, rfl⟩
      have hnoInsertion : forall buffer insertion,
          ¬ Inserts tools files (overridden request.overrides settingsFile.settings)
            request.file request.line request.interface buffer insertion :=
        fun buffer insertion hinserts => hnone buffer insertion ⟨_, huses, hinserts⟩
      rcases runImplement_of_not_inserts hnoInsertion with ⟨outcome, hcode, hfiles, hrun⟩
      refine ⟨outcome, hcode, ?_, fun isDryRun => (run_of_uses huses _ _).trans (hrun _)⟩
      rcases hfiles with hsame | hleft
      · rw [hsame]
      · exact huntouched _ _ huses hleft

/-- A dry run predicts the real one, and only a real run that inserts writes the file. -/
theorem run_predicts
    (isVerbose : Bool) (huntouched : request.IsUntouched tools files) :
    request.Predicts tools files (run tools files (request.commandLine isVerbose false))
      (run tools files (request.commandLine isVerbose true)) := by
  by_cases hcomes : exists buffer insertion, request.ComesTo tools files buffer insertion
  · rcases hcomes with ⟨buffer, insertion, hcomes⟩
    rcases run_of_comesTo isVerbose huntouched hcomes with ⟨after, hsame, hforetells⟩
    constructor
    · intro anyBuffer anyInsertion hany
      rcases run_of_comesTo isVerbose huntouched hany with ⟨_, _, hforetellsAny⟩
      refine ⟨hforetellsAny.realCode, hforetellsAny.dryCode, ?_, ?_, ?_⟩
      · rw [hforetellsAny.shown]
        exact isSplice_insertAtLine anyInsertion.text (line_le_of_comesTo hany)
      · rw [hforetellsAny.kept, hforetellsAny.shown]
        exact hforetellsAny.written
      · rw [hforetellsAny.shown]
        exact hforetellsAny.read
    · intro hnone
      exact absurd hcomes (hnone buffer insertion)
    · rw [hforetells.kept]
      exact hsame
    · intro _
      rw [hforetells.shown]
      exact hforetells.read
  · have hnone : forall buffer insertion, ¬ request.ComesTo tools files buffer insertion :=
      fun buffer insertion h => hcomes ⟨buffer, insertion, h⟩
    rcases run_of_not_comesTo isVerbose huntouched hnone with ⟨outcome, hcode, hread, hrun⟩
    rw [hrun, hrun]
    constructor
    · intro buffer insertion h
      exact absurd h (hnone buffer insertion)
    · intro _
      exact ⟨rfl, hcode, hread⟩
    · exact hread
    · intro hdone
      rw [hcode] at hdone
      cases hdone

end

/-!
# A file with one struct
-/

def printer : ToolRunner FileTree :=
  ⟨fun files _ => (.finished (.code 0) (Utf8.encode "// stub\n") [], files)⟩

def readers : Request :=
  ⟨"quickimpl.toml", "foo.go", 1, some "io.Reader".toList, ⟨none, none, none⟩⟩

theorem isUntouched_readers (content : Text) :
    readers.IsUntouched printer (sole "foo.go" content) := by
  rintro settings after _ ⟨_, _, _, _, _, rfl⟩
  rfl

theorem uses_readers (content : Text) :
    readers.Uses (sole "foo.go" content) (overridden ⟨none, none, none⟩ .default) := by
  have hresolve : (sole "foo.go" content).resolve "quickimpl.toml" = .ok ["quickimpl.toml"] :=
    FileTree.resolve_eq_ok_iff.mpr
      ⟨⟨by decide, by decide, by decide⟩,
        FileTree.Arrives.missing ⟨by decide, by decide, by decide⟩ rfl⟩
  have hmissing : (sole "foo.go" content).exists? "quickimpl.toml" = false := by
    unfold FileTree.exists?
    rw [FileTree.lookup_of_resolve hresolve]
    rfl
  refine ⟨⟨"quickimpl.toml", false, .default⟩, ?_, rfl⟩
  unfold SettingsFile.loadOrDefault
  rw [show readers.settingsPath = "quickimpl.toml".toList from rfl, hmissing]
  rfl

theorem open?_sole
    {content : Text} (hdecode : Utf8.decode? (Utf8.encode content) = some content) :
    SourceBuffer.open? (sole "foo.go" content) "foo.go" = .ok ⟨"foo.go", content⟩ := by
  have hread : (sole "foo.go" content).readText "foo.go" = .ok content :=
    (FileTree.holdsFile_sole content ⟨by decide, by decide, by decide⟩
      ⟨by decide, by decide, by decide⟩ (by decide) rfl).readText_eq hdecode
  unfold SourceBuffer.open?
  rw [hread]

theorem comesTo_readers
    {content : Text} (action : CodeAction) (target : Symbol)
    (hdecode : Utf8.decode? (Utf8.encode content) = some content)
    (hoffered : CodeAction.on (⟨"foo.go", content⟩ : SourceBuffer) 0 = .ok action)
    (hnamed : action.trigger.hasStructName = true)
    (hfound : (⟨"foo.go", content⟩ : SourceBuffer).declarations.find?
      (·.name == action.trigger.structName) = some target) :
    readers.ComesTo printer (sole "foo.go" content) ⟨"foo.go", content⟩
      ⟨target.range.stop.line + 1, "\n// stub\n"⟩ := by
  have hprinted : Utf8.decodeLossy (Utf8.encode "// stub\n") = "// stub\n".toList := by
    decide
  refine ⟨_, uses_readers content, action, "io.Reader",
    ⟨by decide, open?_sole hdecode, hoffered⟩, rfl, hnamed, Utf8.encode "// stub\n", [], _,
    target, rfl, rfl, rfl, ?_, ?_, rfl⟩
  · rw [SourceBuffer.find?_symbolsNamed]
    exact hfound
  · rw [hprinted]
    rfl

def fooLine : Text :=
  "type Foo struct\x7b\x7d"

theorem comesTo_whole :
    readers.ComesTo printer (sole "foo.go" (fooLine ++ ['\n'])) ⟨"foo.go", fooLine ++ ['\n']⟩
      ⟨1, "\n// stub\n"⟩ :=
  comesTo_readers ⟨0, ⟨fooLine, "Foo"⟩⟩ ⟨"Foo", .struct, .ofLines 0 0, none⟩ (by decide)
    (by decide) (by decide) (by decide)

theorem comesTo_cropped :
    readers.ComesTo printer (sole "foo.go" fooLine) ⟨"foo.go", fooLine⟩
      ⟨1, "\n// stub\n"⟩ :=
  comesTo_readers ⟨0, ⟨fooLine, "Foo"⟩⟩ ⟨"Foo", .struct, .ofLines 0 0, none⟩ (by decide)
    (by decide) (by decide) (by decide)

theorem run_predicts_whole :
    readers.IsUntouched printer (sole "foo.go" (fooLine ++ ['\n'])) ∧
      readers.Predicts printer (sole "foo.go" (fooLine ++ ['\n']))
        (run printer (sole "foo.go" (fooLine ++ ['\n'])) (readers.commandLine false false))
        (run printer (sole "foo.go" (fooLine ++ ['\n'])) (readers.commandLine false true)) ∧
      (run printer (sole "foo.go" (fooLine ++ ['\n'])) (readers.commandLine false true)).output =
        fooLine ++ "\n\n// stub\n".toList ∧
      (run printer (sole "foo.go" (fooLine ++ ['\n']))
          (readers.commandLine false false)).files.read "foo.go" =
        .ok (Utf8.encode (fooLine ++ "\n\n// stub\n".toList)) := by
  have huntouched := isUntouched_readers (fooLine ++ ['\n'])
  have hpredicts := run_predicts false huntouched
  rcases run_of_comesTo false huntouched comesTo_whole with ⟨_, _, hforetells⟩
  have hshown : (run printer (sole "foo.go" (fooLine ++ ['\n']))
      (readers.commandLine false true)).output = fooLine ++ "\n\n// stub\n".toList := by
    rw [hforetells.shown]
    decide
  refine ⟨huntouched, hpredicts, hshown, ?_⟩
  rw [← hshown]
  exact hpredicts.shows hforetells.dryCode

/-!
# A last line without its line feed
-/

/-- A real run writes the text that there was with the insertion in it and no more. -/
def Request.SplicesExactly (request : Request) (tools : ToolRunner FileTree)
    (files : FileTree) : Prop :=
  forall buffer insertion, request.ComesTo tools files buffer insertion ->
    exists before after,
      buffer.content = before ++ after ∧
        (run tools files (request.commandLine false false)).files.read request.file =
          .ok (Utf8.encode (before ++ (insertion.text ++ after)))

theorem length_encode_between (before inserted after : Text) :
    (Utf8.encode (before ++ (inserted ++ after))).length =
      (Utf8.encode (before ++ after)).length + (Utf8.encode inserted).length := by
  unfold Utf8.encode
  simp only [List.flatMap_append, List.length_append]
  omega

/-- The last line of the file gets its line feed, which is a byte more. -/
theorem not_splicesExactly :
    ¬ readers.SplicesExactly printer (sole "foo.go" fooLine) := by
  intro hsplices
  rcases hsplices _ _ comesTo_cropped with ⟨before, after, hcontent, hread⟩
  rcases run_of_comesTo false (isUntouched_readers fooLine) comesTo_cropped with
    ⟨_, _, hforetells⟩
  have hbytes := Except.ok.inj (hforetells.read.symm.trans hread)
  have hlength := congrArg List.length hbytes
  rw [length_encode_between, ← hcontent] at hlength
  exact absurd hlength (by decide)

end CommandLine
end StubAssist

import StubAssist.Proofs.CommandLine.DryRun

/-!
# Shown calls

A user who names a struct can see how the generator would be called for it.  What is taken
for the name of a struct is one word, whatever its characters, and the call is the one that
implementing comes to on any line whose second word is that name.
-/

namespace StubAssist
namespace CommandLine

/-!
# Names of structs
-/

/-- The line that stands for the declaration of a struct that is named alone. -/
def lineFor (structName : Text) : Text :=
  "type " ++ structName ++ " struct"

theorem lineFor_eq (structName : Text) :
    lineFor structName = "type".toList ++ ' ' :: (structName ++ ' ' :: structKeyword) :=
  List.append_assoc "type ".toList structName (' ' :: structKeyword)

theorem mentionsStruct_lineFor (structName : Text) :
    mentionsStruct (lineFor structName) = true := by
  rw [mentionsStruct, Text.contains_iff_infix, lineFor_eq]
  have hend : structKeyword <:+ structName ++ ' ' :: structKeyword :=
    List.suffix_append_of_suffix (List.suffix_cons ' ' structKeyword)
  exact (List.suffix_append_of_suffix (hend.trans (List.suffix_cons ' ' _))).isInfix

theorem words_lineFor (structName : Text) :
    Text.words (lineFor structName) =
      "type".toList :: (Text.words structName ++ [structKeyword]) := by
  rw [lineFor_eq, Text.words_append_cons_of_isBlank _ _ rfl,
    Text.words_append_cons_of_isBlank _ _ rfl]
  rfl

theorem detect_lineFor (structName : Text) :
    Trigger.detect (lineFor structName) =
      some ⟨lineFor structName, ((Text.words (lineFor structName))[1]?).getD []⟩ :=
  if_pos (mentionsStruct_lineFor structName)

theorem triggerFor?_eq_filter (structName : Text) :
    triggerFor? structName =
      (Trigger.detect (lineFor structName)).filter (·.structName == structName) :=
  rfl

theorem triggerFor?_of_isWord
    {structName : Text} (hword : Text.IsWord structName) :
    triggerFor? structName = some ⟨lineFor structName, structName⟩ := by
  rw [triggerFor?_eq_filter, detect_lineFor, words_lineFor, hword.words_eq]
  exact Option.filter_some_pos (by simp)

theorem triggerFor?_of_not_isWord
    {structName : Text} (hnone : ¬ Text.IsWord structName) :
    triggerFor? structName = none := by
  have hne : ((Text.words (lineFor structName))[1]?).getD [] ≠ structName := by
    intro heq
    cases hsecond : (Text.words (lineFor structName))[1]? with
    | none =>
        rw [words_lineFor] at hsecond
        simp at hsecond
    | some second =>
        -- A name that is found again in the line is one of its words.
        rw [hsecond, Option.getD_some] at heq
        exact hnone (heq ▸ Text.isWord_of_mem_words (List.mem_of_getElem? hsecond))
  rw [triggerFor?_eq_filter, detect_lineFor]
  exact Option.filter_some_neg (by simpa using hne)

/-!
# Asking for a call
-/

structure Inquiry where
  settingsPath : Text
  structName : Text
  interface : Text
  overrides : ReceiverOverrides

namespace Inquiry

def commandLine (inquiry : Inquiry) (isVerbose : Bool) : CommandLine :=
  ⟨isVerbose, inquiry.settingsPath,
    .compose inquiry.structName inquiry.interface inquiry.overrides⟩

def requestOn (inquiry : Inquiry) (file : Text) (line : Nat) : Request :=
  ⟨inquiry.settingsPath, file, line, some inquiry.interface, inquiry.overrides⟩

def Uses (inquiry : Inquiry) (files : FileTree) (settings : Settings) : Prop :=
  exists settingsFile,
    SettingsFile.loadOrDefault files inquiry.settingsPath = .ok settingsFile ∧
      settings = overridden inquiry.overrides settingsFile.settings

structure IsNamedOn (inquiry : Inquiry) (files : FileTree) (file : Text) (line : Nat) :
    Prop where
  counted : line ≠ 0
  onLine :
    exists buffer text,
      SourceBuffer.open? files file = .ok buffer ∧
        Document.lineAt buffer (line - 1) = some text ∧
        mentionsStruct text = true ∧
        (Text.words text)[1]? = some inquiry.structName

end Inquiry

/-- The command that is composed for the action that the request is about. -/
def Request.Composes (request : Request) (files : FileTree) (settings : Settings)
    (command : StubCommand) : Prop :=
  exists buffer action interface,
    IsOffered files request.file request.line buffer action ∧
      request.interface = some interface ∧
      StubCommand.compose action.trigger (.ofQualified interface) settings.receiver =
        .ok command

section Runs

variable {tools : ToolRunner FileTree} {files : FileTree} {settings : Settings}

theorem runCompose_of_isWord
    {structName : Text} (interface : Text) (hword : Text.IsWord structName) :
    runCompose files settings structName interface =
      ⟨0, Outcome.line ((Generator.ofSettings settings.generator).commandLine
        (.of ⟨lineFor structName, structName⟩ (.ofQualified interface) settings.receiver)),
        [], files⟩ := by
  have hnamed : Trigger.hasStructName ⟨lineFor structName, structName⟩ = true :=
    Trigger.hasStructName_iff.mpr hword.ne_nil
  unfold runCompose
  rw [triggerFor?_of_isWord hword]
  simp only [StubCommand.compose_of_named _ settings.receiver hnamed]

theorem runCompose_of_not_isWord
    {structName : Text} (interface : Text) (hnone : ¬ Text.IsWord structName) :
    runCompose files settings structName interface =
      .failed files ("'" ++ structName ++ "' is not a struct name") := by
  unfold runCompose
  rw [triggerFor?_of_not_isWord hnone]

theorem composes_of_isNamedOn
    {inquiry : Inquiry} {file : Text} {line : Nat} (settings : Settings)
    (hword : Text.IsWord inquiry.structName) (hnamed : inquiry.IsNamedOn files file line) :
    (inquiry.requestOn file line).Composes files settings
      (.of ⟨lineFor inquiry.structName, inquiry.structName⟩ (.ofQualified inquiry.interface)
        settings.receiver) := by
  rcases hnamed with ⟨hcounted, buffer, text, hopened, htext, hmentions, hsecond⟩
  have haction := CodeAction.on_of_mentionsStruct htext hmentions
  rw [hsecond, Option.getD_some] at haction
  have hstruct : Trigger.hasStructName ⟨text, inquiry.structName⟩ = true :=
    Trigger.hasStructName_iff.mpr hword.ne_nil
  -- The trigger differs in its line, of which nothing but the second word is composed.
  exact ⟨buffer, _, inquiry.interface, ⟨hcounted, hopened, haction⟩, rfl,
    StubCommand.compose_of_named _ settings.receiver hstruct⟩

theorem files_dryRun_of_composes
    {request : Request} {command : StubCommand} (isVerbose : Bool)
    (huses : request.Uses files settings) (hcomposes : request.Composes files settings command) :
    (run tools files (request.commandLine isVerbose true)).files =
      (tools.run files ((Generator.ofSettings settings.generator).invocation command
        (FilePath.directory request.file))).2 := by
  rcases hcomposes with ⟨buffer, action, interface, hoffered, hinterface, hcomposed⟩
  rcases StubCommand.compose_eq_ok_iff.mp hcomposed with ⟨hnamed, rfl⟩
  have hworld : ((QuickFix.ofSettings settings).implement tools files action buffer
      (.ofQualified interface)).world =
        (tools.run files ((Generator.ofSettings settings.generator).invocation
          (.of action.trigger (.ofQualified interface) settings.receiver)
          (FilePath.directory request.file))).2 := by
    rw [QuickFix.implement, Attempt.reported_world, QuickFix.generateAndApply_world,
      if_pos hnamed, ← (readText_of_open? hoffered.opened).right]
    rfl
  rw [run_of_uses huses, hinterface, ← hworld]
  cases hresult : ((QuickFix.ofSettings settings).implement tools files action buffer
      (.ofQualified interface)).result with
  | error error =>
      rw [runImplement_of_error true hoffered rfl hresult]
      rfl
  | ok insertion =>
      rw [runImplement_of_ok true hoffered rfl hresult]
      rfl

/-- What is shown for an inquiry, beside the requests for the same on lines of files. -/
structure ShowsCall (inquiry : Inquiry) (tools : ToolRunner FileTree) (files : FileTree)
    (settings : Settings) (outcome : Outcome) : Prop where
  accepts_iff : outcome.exitCode = 0 ↔ Text.IsWord inquiry.structName
  refuses :
    ¬ Text.IsWord inquiry.structName ->
      outcome = .failed files ("'" ++ inquiry.structName ++ "' is not a struct name")
  shows :
    Text.IsWord inquiry.structName ->
      exists command,
        outcome =
            ⟨0, Outcome.line ((Generator.ofSettings settings.generator).commandLine command),
              [], files⟩ ∧
          forall file line, inquiry.IsNamedOn files file line ->
            (inquiry.requestOn file line).Composes files settings command ∧
              forall isVerbose,
                (run tools files
                    ((inquiry.requestOn file line).commandLine isVerbose true)).files =
                  (tools.run files ((Generator.ofSettings settings.generator).invocation
                    command (FilePath.directory file))).2

/--
The name of a struct is accepted exactly if it is one word, and then the call that
is shown is the one that implementing comes to wherever a line has that name.
-/
theorem run_showsCall
    {inquiry : Inquiry} (tools : ToolRunner FileTree) (isVerbose : Bool)
    (huses : inquiry.Uses files settings) :
    ShowsCall inquiry tools files settings
      (run tools files (inquiry.commandLine isVerbose)) := by
  have hrun : run tools files (inquiry.commandLine isVerbose) =
      runCompose files settings inquiry.structName inquiry.interface := by
    rcases huses with ⟨settingsFile, hload, hsettings⟩
    unfold run Inquiry.commandLine
    simp only [hload, hsettings]
  rw [hrun]
  by_cases hword : Text.IsWord inquiry.structName
  · rw [runCompose_of_isWord inquiry.interface hword]
    constructor
    · exact ⟨fun _ => hword, fun _ => rfl⟩
    · intro hnone
      exact absurd hword hnone
    · intro _
      refine ⟨_, rfl, ?_⟩
      intro file line hnamed
      have hcomposes := composes_of_isNamedOn settings hword hnamed
      exact ⟨hcomposes, fun isVerbose => files_dryRun_of_composes isVerbose huses hcomposes⟩
  · rw [runCompose_of_not_isWord inquiry.interface hword]
    constructor
    · exact ⟨fun hcode => absurd hcode Nat.one_ne_zero, fun h => absurd h hword⟩
    · intro _
      rfl
    · intro h
      exact absurd h hword

end Runs

/-!
# A file with one struct
-/

open FileTree (sole)

def fooInquiry : Inquiry :=
  ⟨"quickimpl.toml", "Foo", "io.Reader", ⟨none, none, none⟩⟩

theorem isNamedOn_fooLine :
    fooInquiry.IsNamedOn (sole "foo.go" (fooLine ++ ['\n'])) "foo.go" 1 := by
  have hopened : SourceBuffer.open? (sole "foo.go" (fooLine ++ ['\n'])) "foo.go" =
      .ok ⟨"foo.go", fooLine ++ ['\n']⟩ :=
    open?_sole (by decide)
  exact ⟨by decide, _, fooLine, hopened, by decide, by decide, by decide⟩

theorem uses_fooInquiry (content : Text) :
    fooInquiry.Uses (sole "foo.go" content) (overridden ⟨none, none, none⟩ .default) := by
  rcases uses_readers content with ⟨settingsFile, hload, hsettings⟩
  exact ⟨settingsFile, hload, hsettings⟩

theorem run_showsCall_foo :
    fooInquiry.Uses (sole "foo.go" (fooLine ++ ['\n']))
        (overridden ⟨none, none, none⟩ .default) ∧
      ShowsCall fooInquiry printer (sole "foo.go" (fooLine ++ ['\n']))
        (overridden ⟨none, none, none⟩ .default)
        (run printer (sole "foo.go" (fooLine ++ ['\n'])) (fooInquiry.commandLine false)) ∧
      Text.IsWord fooInquiry.structName ∧
      fooInquiry.IsNamedOn (sole "foo.go" (fooLine ++ ['\n'])) "foo.go" 1 ∧
      (run printer (sole "foo.go" (fooLine ++ ['\n'])) (fooInquiry.commandLine false)).output =
        "impl \"f *Foo\" io.Reader\n".toList := by
  have huses := uses_fooInquiry (fooLine ++ ['\n'])
  have hmem : fooInquiry.structName ∈ Text.words fooInquiry.structName := by decide
  have hword := Text.isWord_of_mem_words hmem
  have hshows := run_showsCall printer false huses
  refine ⟨huses, hshows, hword, isNamedOn_fooLine, ?_⟩
  rcases huses with ⟨settingsFile, hload, hsettings⟩
  unfold run Inquiry.commandLine
  simp only [hload, ← hsettings]
  rfl

end CommandLine
end StubAssist

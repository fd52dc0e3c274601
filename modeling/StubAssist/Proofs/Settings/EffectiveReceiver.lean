import StubAssist.CommandLine.Parse
import StubAssist.Proofs.QuickFix.Stages
import StubAssist.Settings.File

/-!
# The receiver in effect

Settings that were loaded have a receiver name where they need one, and only a blank name
on the command line takes it away from them again.
-/

namespace StubAssist

/-!
# Loaded settings
-/

theorem Settings.isComplete_of_fault?
    {settings : Settings} (hnone : settings.fault? = none) :
    settings.receiver.isComplete = true := by
  cases hcomplete : settings.receiver.isComplete with
  | true => rfl
  | false =>
      unfold Settings.fault? ReceiverSettings.fault? at hnone
      simp [hcomplete] at hnone

theorem Settings.isComplete_of_parse
    {filename source : Text} {settings : Settings}
    (hparse : parse filename source = .ok settings) :
    settings.receiver.isComplete = true := by
  unfold parse at hparse
  cases hdocument : Toml.parse? source with
  | none =>
      simp [hdocument] at hparse
  | some entries =>
      cases hdecoded : decode entries with
      | error error =>
          simp only [hdocument, hdecoded] at hparse
          split at hparse <;> cases hparse
      | ok decoded =>
          cases hfault : decoded.fault? with
          | some fault =>
              simp [hdocument, hdecoded, hfault] at hparse
          | none =>
              simp only [hdocument, hdecoded, hfault] at hparse
              cases hparse
              exact isComplete_of_fault? hfault

def Settings.IsLoaded (settings : Settings) : Prop :=
  settings = .default ∨ exists filename source, parse filename source = .ok settings

theorem Settings.IsLoaded.isComplete
    {settings : Settings} (hloaded : settings.IsLoaded) :
    settings.receiver.isComplete = true := by
  rcases hloaded with hdefault | ⟨filename, source, hparse⟩
  · rw [hdefault]
    rfl
  · exact isComplete_of_parse hparse

theorem SettingsFile.isLoaded_of_loadOrDefault
    {files : FileTree} {path : Text} {settingsFile : SettingsFile}
    (hload : loadOrDefault files path = .ok settingsFile) :
    settingsFile.settings.IsLoaded := by
  unfold loadOrDefault at hload
  split at hload
  · unfold load Settings.load at hload
    cases hread : files.readText path with
    | error error =>
        rw [hread] at hload
        cases hload
    | ok source =>
        cases hparse : Settings.parse path source with
        | error error =>
            rw [hread] at hload
            simp [hparse, Except.map] at hload
        | ok settings =>
            rw [hread] at hload
            simp only [hparse, Except.map] at hload
            cases hload
            exact Or.inr ⟨path, source, hparse⟩
  · cases hload
    exact Or.inl rfl

/-!
# Overrides
-/

namespace ReceiverOverrides

variable {overrides : ReceiverOverrides} {settings : ReceiverSettings}

theorem isComplete_applyType (hcomplete : settings.isComplete = true) :
    (overrides.applyType settings).isComplete = true := by
  unfold applyType
  split <;> exact hcomplete

theorem isComplete_applyLength (hcomplete : settings.isComplete = true) :
    (overrides.applyLength settings).isComplete = true := by
  unfold applyLength
  split
  · exact hcomplete
  · rfl

theorem isComplete_applyName_iff (hcomplete : settings.isComplete = true) :
    (overrides.applyName settings).isComplete = true ↔
      forall name, overrides.name = some name -> Text.isAllBlank name = false := by
  unfold applyName
  cases hname : overrides.name with
  | none =>
      simp [hcomplete]
  | some name =>
      simp [ReceiverSettings.isComplete]

theorem isComplete_apply_iff (hcomplete : settings.isComplete = true) :
    (overrides.apply settings).isComplete = true ↔
      forall name, overrides.name = some name -> Text.isAllBlank name = false :=
  isComplete_applyName_iff (isComplete_applyLength (isComplete_applyType hcomplete))

theorem isComplete_of_fixed
    (hfixed : settings.nameMode = .fixed) :
    settings.isComplete = !Text.isAllBlank settings.fixedName := by
  simp [ReceiverSettings.isComplete, hfixed]

theorem exists_receiver_of_compose
    {trigger : Trigger} {candidate : Candidate} {command : StubCommand}
    (hfixed : settings.nameMode = .fixed)
    (hcomposed : StubCommand.compose trigger candidate settings = .ok command) :
    exists type, command.receiver = settings.fixedName ++ ' ' :: type := by
  rcases StubCommand.compose_eq_ok_iff.mp hcomposed with ⟨_, rfl⟩
  have hname : settings.receiverName trigger.structName = settings.fixedName := by
    unfold ReceiverSettings.receiverName
    rw [hfixed]
  unfold StubCommand.of receiverExpression
  rw [hname]
  cases settings.receiverType with
  | pointer => exact ⟨_, rfl⟩
  | value => exact ⟨_, rfl⟩

def NamesBlank (overrides : ReceiverOverrides) : Prop :=
  exists name, overrides.name = some name ∧ Text.isAllBlank name = true

/-- What overrides make of settings that are complete. -/
structure Completes (overrides : ReceiverOverrides) (settings : ReceiverSettings) : Prop where
  complete : (overrides.apply settings).isComplete = true ↔ ¬ overrides.NamesBlank
  composed : forall trigger candidate command,
    (overrides.apply settings).nameMode = .fixed ->
    StubCommand.compose trigger candidate (overrides.apply settings) = .ok command ->
      (exists type,
        command.receiver = (overrides.apply settings).fixedName ++ ' ' :: type) ∧
      (Text.isAllBlank (overrides.apply settings).fixedName = true ↔ overrides.NamesBlank)

theorem completes_of_isComplete (hcomplete : settings.isComplete = true) :
    overrides.Completes settings := by
  have hcompletes : (overrides.apply settings).isComplete = true ↔
      ¬ overrides.NamesBlank := by
    rw [isComplete_apply_iff hcomplete]
    constructor
    · rintro hnames ⟨name, hname, hblank⟩
      rw [hnames name hname] at hblank
      cases hblank
    · intro hnot name hname
      cases hblank : Text.isAllBlank name with
      | true => exact absurd ⟨name, hname, hblank⟩ hnot
      | false => rfl
  constructor
  · exact hcompletes
  · intro trigger candidate command hfixed hcomposed
    refine ⟨exists_receiver_of_compose hfixed hcomposed, ?_⟩
    rw [isComplete_of_fixed hfixed] at hcompletes
    cases hblank : Text.isAllBlank (overrides.apply settings).fixedName with
    | true =>
        simpa [hblank] using hcompletes
    | false =>
        simpa [hblank] using hcompletes

/--
Whatever settings are in force, be they read or the default ones, the command line leaves
the receiver without a name exactly where it gives a blank one.
-/
theorem loaded_completes
    {loaded : Settings} (overrides : ReceiverOverrides) (hloaded : loaded.IsLoaded) :
    overrides.Completes loaded.receiver :=
  completes_of_isComplete hloaded.isComplete

def blank : ReceiverOverrides :=
  ⟨none, none, some [' ']⟩

theorem loaded_completes_blank :
    exists settings,
      Settings.parse "quickimpl.toml"
          "receiverNameMode = \"fixed\"\nfixedReceiverName = \"s\"\n" = .ok settings ∧
      settings.receiver = ⟨.fixed, 1, "s", .pointer⟩ ∧
      blank.Completes settings.receiver ∧
      blank.NamesBlank := by
  have hsettings : (Settings.parse "quickimpl.toml"
      "receiverNameMode = \"fixed\"\nfixedReceiverName = \"s\"\n").toOption =
      some { Settings.default with receiver := ⟨.fixed, 1, "s", .pointer⟩ } := by
    decide +kernel
  cases hparse : Settings.parse "quickimpl.toml"
      "receiverNameMode = \"fixed\"\nfixedReceiverName = \"s\"\n" with
  | error error =>
      rw [hparse] at hsettings
      cases hsettings
  | ok settings =>
      rw [hparse] at hsettings
      have hloaded : settings.IsLoaded := Or.inr ⟨_, _, hparse⟩
      refine ⟨settings, rfl, ?_, loaded_completes blank hloaded, [' '], rfl, rfl⟩
      rw [Option.some.inj hsettings]

/-- A blank name is taken from the command line and stands in the composed command. -/
theorem not_isComplete_apply_blank :
    CommandLine.parse
        ["compose", "--struct", "Foo", "--interface", "io.Reader", "--receiver-name", " "] =
      .ok ⟨false, "quickimpl.toml", .compose "Foo" "io.Reader" blank⟩ ∧
    ReceiverSettings.default.isComplete = true ∧
    (blank.apply .default).isComplete = false ∧
    StubCommand.compose ⟨"type Foo struct", "Foo"⟩ (Candidate.ofQualified "io.Reader")
        (blank.apply .default) =
      .ok ⟨"  *Foo", "Foo", "io.Reader"⟩ := by
  refine ⟨?_, ?_, ?_, ?_⟩
  · rfl
  · decide
  · decide
  · rfl

end ReceiverOverrides
end StubAssist

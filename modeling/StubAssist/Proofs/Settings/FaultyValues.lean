import StubAssist.Proofs.Toml.Additions
import StubAssist.Settings.File

/-!
# Faulty values

A fault of a table is a fault of one of its settings.  If the document has a value for
this setting, then the value is what is wrong: no tool is named, or the timeout is zero.
-/

namespace StubAssist

open Toml (Span Value Entries HasTable)

/-- The table and the name of the setting that is at fault, unless that is the receiver's. -/
def Fault.setting? : Fault -> Option (Text × Text)
  | .blankReceiverName => none
  | .blankTool table => some (table.name, "tool")
  | .zeroTimeout table => some (table.name, "timeoutSecs")

def Fault.IsOf : Fault -> Value -> Prop
  | .blankReceiverName, _ => False
  | .blankTool _, value => exists tool, value = .string tool ∧ Text.isAllBlank tool = true
  | .zeroTimeout _, value => value = .integer 0

namespace Settings

/-!
# Single values
-/

theorem exists_of_bind_eq_ok
    {ε α β : Type} {outcome : Except ε α} {next : α -> Except ε β} {b : β}
    (hok : outcome >>= next = .ok b) :
    exists a, outcome = .ok a ∧ next a = .ok b := by
  cases outcome with
  | error error => cases hok
  | ok a => exact ⟨a, rfl, hok⟩

theorem eq_string_of_decodeAt
    {item : Span × Value} {text : Text} (hdecode : decodeAt decodeString item = .ok text) :
    item.2 = .string text := by
  unfold decodeAt at hdecode
  split at hdecode
  · rename_i text' hstring
    cases hdecode
    unfold decodeString at hstring
    split at hstring
    · rename_i hvalue
      cases hstring
      exact hvalue
    · cases hstring
  · cases hdecode

theorem eq_integer_of_decodeAt
    {expected : Text} {item : Span × Value} {n : Nat}
    (hdecode : decodeAt (decodeWord expected) item = .ok n) :
    item.2 = .integer n := by
  unfold decodeAt at hdecode
  split at hdecode
  · rename_i word hword
    cases hdecode
    unfold decodeWord at hword
    split at hword
    · rename_i number hvalue
      split at hword
      · cases hword
      · split at hword
        · cases hword
        · rename_i hnonneg
          cases hword
          rw [hvalue, Int.toNat_of_nonneg (Int.not_lt.mp hnonneg)]
    · cases hword
  · cases hdecode

/-!
# Tables
-/

variable {span : Span} {kind : Toml.TableKind} {child : Entries}

theorem fieldsOf_table
    {expected : Text} {names : List Text} {fields : List (Option (Span × Value))}
    (hfields : fieldsOf expected names (span, .table kind child) = .ok fields) :
    fields = names.map fun name => valueAt name child := by
  unfold fieldsOf at hfields
  dsimp only at hfields
  split at hfields
  · cases hfields
    rfl
  · cases hfields

theorem decodeGenerator_table
    {settings : GeneratorSettings}
    (hdecode : decodeGenerator (span, .table kind child) = .ok settings) :
    decodeField GeneratorSettings.default.tool (decodeAt decodeString) (valueAt "tool" child) =
        .ok settings.tool ∧
      decodeField GeneratorSettings.default.timeoutSeconds (decodeAt (decodeWord "u64"))
        (valueAt "timeoutSecs" child) = .ok settings.timeoutSeconds := by
  rcases exists_of_bind_eq_ok hdecode with ⟨fields, hfields, hdecode⟩
  rw [fieldsOf_table hfields] at hdecode
  rcases exists_of_bind_eq_ok hdecode with ⟨arguments, _, hdecode⟩
  rcases exists_of_bind_eq_ok hdecode with ⟨timeout, htimeout, hdecode⟩
  rcases exists_of_bind_eq_ok hdecode with ⟨tool, htool, hdecode⟩
  cases hdecode
  exact ⟨htool, htimeout⟩

theorem decodeIndex_table
    {settings : IndexSettings}
    (hdecode : decodeIndex (span, .table kind child) = .ok settings) :
    decodeField IndexSettings.default.tool (decodeAt decodeString) (valueAt "tool" child) =
        .ok settings.tool ∧
      decodeField IndexSettings.default.timeoutSeconds (decodeAt (decodeWord "u64"))
        (valueAt "timeoutSecs" child) = .ok settings.timeoutSeconds := by
  rcases exists_of_bind_eq_ok hdecode with ⟨fields, hfields, hdecode⟩
  rw [fieldsOf_table hfields] at hdecode
  rcases exists_of_bind_eq_ok hdecode with ⟨timeout, htimeout, hdecode⟩
  rcases exists_of_bind_eq_ok hdecode with ⟨tool, htool, hdecode⟩
  cases hdecode
  exact ⟨htool, htimeout⟩

end Settings

/-- The settings of a table that can be at fault. -/
def ToolTable.settingsOf (settings : Settings) : ToolTable -> Text × Nat
  | .generator => (settings.generator.tool, settings.generator.timeoutSeconds)
  | .index => (settings.index.tool, settings.index.timeoutSeconds)

namespace Settings

theorem decode_table
    {entries : Entries} {settings : Settings} (table : ToolTable)
    (hdecode : decode entries = .ok settings)
    (hfound : entries.lookup table.name = some (span, .table kind child)) :
    exists tool timeoutSeconds,
      decodeField tool (decodeAt decodeString) (valueAt "tool" child) =
          .ok (table.settingsOf settings).1 ∧
        decodeField timeoutSeconds (decodeAt (decodeWord "u64")) (valueAt "timeoutSecs" child) =
          .ok (table.settingsOf settings).2 := by
  rcases exists_of_bind_eq_ok hdecode with ⟨generator, hgenerator, hdecode⟩
  rcases exists_of_bind_eq_ok hdecode with ⟨index, hindex, hdecode⟩
  rcases exists_of_bind_eq_ok hdecode with ⟨prompt, _, hdecode⟩
  split at hdecode
  · rcases exists_of_bind_eq_ok hdecode with ⟨receiver, _, hdecode⟩
    cases hdecode
    cases table with
    | generator =>
        have hvalue : valueAt "generator" entries = some (span, .table kind child) := hfound
        rw [hvalue] at hgenerator
        exact ⟨_, _, decodeGenerator_table hgenerator⟩
    | index =>
        have hvalue : valueAt "index" entries = some (span, .table kind child) := hfound
        rw [hvalue] at hindex
        exact ⟨_, _, decodeIndex_table hindex⟩
  · cases hdecode

theorem settingsOf_of_fault?
    {settings : Settings} {fault : Fault} {table name : Text}
    (hfault : settings.fault? = some fault) (hsetting : fault.setting? = some (table, name)) :
    (exists tools, fault = .blankTool tools ∧
        Text.isAllBlank (tools.settingsOf settings).1 = true) ∨
      exists tools, fault = .zeroTimeout tools ∧ (tools.settingsOf settings).2 = 0 := by
  have htable (tools : ToolTable)
      (hfound : tools.fault? (tools.settingsOf settings).1 (tools.settingsOf settings).2 =
        some fault) :
      (exists tools, fault = .blankTool tools ∧
          Text.isAllBlank (tools.settingsOf settings).1 = true) ∨
        exists tools, fault = .zeroTimeout tools ∧ (tools.settingsOf settings).2 = 0 := by
    unfold ToolTable.fault? at hfound
    split at hfound
    · rename_i hblank
      cases hfound
      exact Or.inl ⟨tools, rfl, hblank⟩
    · split at hfound
      · rename_i hzero
        cases hfound
        exact Or.inr ⟨tools, rfl, hzero⟩
      · cases hfound
  unfold fault? at hfault
  rcases Option.or_eq_some_iff.mp hfault with hearlier | ⟨_, hindex⟩
  · rcases Option.or_eq_some_iff.mp hearlier with hreceiver | ⟨_, hgenerator⟩
    · unfold ReceiverSettings.fault? at hreceiver
      split at hreceiver
      · cases hreceiver
      · cases hreceiver
        cases hsetting
    · exact htable .generator hgenerator
  · exact htable .index hindex

theorem isOf_of_fault?
    {entries : Entries} {settings : Settings} {fault : Fault} {table name : Text}
    {item : Span × Value} (hdecode : decode entries = .ok settings)
    (hfault : settings.fault? = some fault) (hsetting : fault.setting? = some (table, name))
    (hgiven : HasTable table (fun child => child.lookup name = some item) entries) :
    fault.IsOf item.2 := by
  rcases hgiven with ⟨span, kind, child, hfound, hitem⟩
  rcases settingsOf_of_fault? hfault hsetting with
    ⟨tools, rfl, hblank⟩ | ⟨tools, rfl, hzero⟩
  · cases hsetting
    rcases decode_table tools hdecode hfound with ⟨_, _, htool, _⟩
    rw [valueAt, hitem] at htool
    exact ⟨_, eq_string_of_decodeAt htool, hblank⟩
  · cases hsetting
    rcases decode_table tools hdecode hfound with ⟨_, _, _, htimeout⟩
    rw [valueAt, hitem, hzero] at htimeout
    exact eq_integer_of_decodeAt htimeout

end Settings
end StubAssist

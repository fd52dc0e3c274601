import StubAssist.Settings
import StubAssist.Text.Quoted
import StubAssist.Text.Shortest
import StubAssist.Toml.Scalar

/-!
# Settings from TOML

Reads settings off the entries of a document.  Tables come first and in the order
of their names, then the settings of the receiver in the order of theirs; inside
a table, too, entries are read in the order of their names.  The first misfit is
the one that is reported.  What is missing keeps its default, and unknown entries
are passed over.
-/

namespace StubAssist

open Toml (Span Value Entries)

inductive Found where
  | boolean (value : Bool)
  | integer (number : Int)
  | float (number : Float)
  | string (text : Text)
  | sequence
  | map

namespace Found

/-- A number always shows a point, unless it is none. -/
def floatText (x : Float) : Text :=
  let t := Shortest.ofFloat x
  if x.isNaN || x.isInf || List.contains t '.' then t else t ++ ".0"

def inBackticks (t : Text) : Text :=
  '\x60' :: t ++ ['\x60']

def integerText (n : Int) : Text :=
  if n < 0 then '-' :: Text.ofNat n.natAbs else Text.ofNat n.natAbs

def description : Found → Text
  | boolean value => "boolean " ++ inBackticks (if value then "true" else "false")
  | integer number => "integer " ++ inBackticks (integerText number)
  | float number => "floating point " ++ inBackticks (floatText number)
  | string text => "string " ++ Text.quoteForDiagnostic text
  | sequence => "sequence"
  | map => "map"

end Found

inductive Misfit where
  | invalidType (found : Found) (expected : Text)
  | invalidValue (found : Found) (expected : Text)
  | unknownVariant (name : Text) (first second : Text)
  | outOfRange

namespace Misfit

def message : Misfit → Text
  | invalidType found expected =>
      "invalid type: " ++ found.description ++ ", expected " ++ expected
  | invalidValue found expected =>
      "invalid value: " ++ found.description ++ ", expected " ++ expected
  | unknownVariant name first second =>
      "unknown variant " ++ Found.inBackticks name ++ ", expected " ++
        Found.inBackticks first ++ " or " ++ Found.inBackticks second
  | outOfRange => "number out of range"

end Misfit

structure DecodeError where
  misfit : Misfit
  span : Span

namespace Settings

abbrev Decoded := Except DecodeError

/-- A value as what was found; a date counts as a map. -/
def foundOf : Value → Option Found
  | .string text => some (.string text)
  | .integer number => some (.integer number)
  | .float number => some (.float number)
  | .unreadable => none
  | .boolean value => some (.boolean value)
  | .datetime => some .map
  | .array _ _ => some .sequence
  | .table _ _ => some .map

def misfitType (value : Value) (expected : Text) : Misfit :=
  match foundOf value with
  | some found => .invalidType found expected
  | none => .outOfRange

/-!
# Ranges of numbers
-/

mutual

def allWithin (low high : Int) : Value → Bool
  | .integer n => low ≤ n && n ≤ high
  | .unreadable => false
  | .array _ items => allItemsWithin low high items
  | .table _ entries => allEntriesWithin low high entries
  | _ => true

def allItemsWithin (low high : Int) : List (Span × Value) → Bool
  | [] => true
  | (_, value) :: items => allWithin low high value && allItemsWithin low high items

def allEntriesWithin (low high : Int) : Entries → Bool
  | [] => true
  | (_, _, value) :: entries => allWithin low high value && allEntriesWithin low high entries

end

def lowestSigned : Int := -Int.pow 2 63

def highestSigned : Int := Int.pow 2 63 - 1

def highestWord : Int := Int.pow 2 64 - 1

/-- The only key of a date seen as a map. -/
def datetimeKey : Text := "$__toml_private_datetime"

def isDateMap (entries : Entries) : Bool :=
  entries.any (·.1 == datetimeKey) && entries.all fun entry => !decide (entry.1 < datetimeKey)

mutual

/--
Whether a value is more than a text that looks like one: its integers are signed words,
and what has the key of a date is a date.
-/
def isPlain : Value → Bool
  | .table _ entries =>
      if isDateMap entries then
        match entries.lookup datetimeKey with
        | some (_, .string t) => Toml.isDatetime t
        | _ => false
      else allEntriesPlain entries
  | .array _ items => allItemsPlain items
  | .integer n => lowestSigned ≤ n && n ≤ highestSigned
  | .unreadable => false
  | _ => true

def allItemsPlain : List (Span × Value) → Bool
  | [] => true
  | (_, value) :: items => isPlain value && allItemsPlain items

def allEntriesPlain : Entries → Bool
  | [] => true
  | (_, _, value) :: entries => isPlain value && allEntriesPlain entries

end

def isPlainDocument (entries : Entries) : Bool :=
  allEntriesPlain entries

/-- What is passed over in a table may hold integers of double width. -/
def passesOver (value : Value) : Bool :=
  allWithin (-Int.pow 2 127) (Int.pow 2 128 - 1) value

/-- What is passed over at the top may hold signed and unsigned words. -/
def passesOverAtTop (value : Value) : Bool :=
  allWithin lowestSigned highestWord value

/-!
# Single values
-/

def decodeString (value : Value) : Except Misfit Text :=
  match value with
  | .string text => .ok text
  | _ => .error (misfitType value "a string")

def decodeWord (expected : Text) (value : Value) : Except Misfit Nat :=
  match value with
  | .integer n =>
      if n < lowestSigned || highestWord < n then .error .outOfRange
      else if n < 0 then .error (.invalidValue (.integer n) expected)
      else .ok n.toNat
  | _ => .error (misfitType value expected)

/-- A word of two: written as a string, or as a map from the word to nothing. -/
def decodeVariant {α : Type} (first second : Text × α) (value : Value) : Except Misfit α :=
  let choose := fun name : Text =>
    if name == first.1 then .ok first.2
    else if name == second.1 then .ok second.2
    else .error (.unknownVariant name first.1 second.1)
  match value with
  | .string name => choose name
  | .datetime => choose datetimeKey
  | .table _ [(name, _, content)] => do
      let choice ← choose name
      match content with
      | .table _ [] => return choice
      | _ => throw (misfitType content "unit")
  | .table _ _ => .error (.invalidValue .map "map with a single key")
  | _ => .error (misfitType value "string or map")

def decodeAt {α : Type} (decode : Value → Except Misfit α) (item : Span × Value) : Decoded α :=
  match decode item.2 with
  | .ok a => .ok a
  | .error misfit => .error ⟨misfit, item.1⟩

def decodeStrings (item : Span × Value) : Decoded (List Text) :=
  match item.2 with
  | .array _ items => items.mapM (decodeAt decodeString)
  | value => .error ⟨misfitType value "a sequence", item.1⟩

/-!
# Tables
-/

def valueAt (name : Text) (entries : Entries) : Option (Span × Value) :=
  entries.lookup name

/-- The values that a table or a list gives to named fields, in the fields' order. -/
def fieldsOf (expected : Text) (names : List Text) (item : Span × Value) :
    Decoded (List (Option (Span × Value))) :=
  match item.2 with
  | .table _ entries =>
      if entries.all (fun (name, _, value) => names.contains name || passesOver value) then
        .ok (names.map fun name => valueAt name entries)
      else .error ⟨.outOfRange, item.1⟩
  | .datetime => .ok (names.map fun _ => none)
  | .array _ items => .ok ((List.range names.length).map fun i => items[i]?)
  | value => .error ⟨misfitType value expected, item.1⟩

def decodeField {α : Type} (default : α) (decode : Span × Value → Decoded α) :
    Option (Span × Value) → Decoded α
  | none => .ok default
  | some item => decode item

/-- Whether the fields of an item are read in the order in which they are listed. -/
def isList (item : Span × Value) : Bool :=
  match item.2 with
  | .array _ _ => true
  | _ => false

def decodeGenerator (item : Span × Value) : Decoded GeneratorSettings := do
  let d := GeneratorSettings.default
  match ← fieldsOf "struct GeneratorConfig" ["tool", "args", "timeoutSecs"] item with
  | [tool, arguments, timeout] =>
      let tool' := decodeField d.tool (decodeAt decodeString) tool
      if isList item then let _ ← tool'
      let arguments ← decodeField d.arguments decodeStrings arguments
      let timeout ← decodeField d.timeoutSeconds (decodeAt (decodeWord "u64")) timeout
      return ⟨← tool', arguments, timeout⟩
  | _ => return d

def decodeIndex (item : Span × Value) : Decoded IndexSettings := do
  let d := IndexSettings.default
  match ← fieldsOf "struct IndexConfig" ["tool", "timeoutSecs"] item with
  | [tool, timeout] =>
      let tool' := decodeField d.tool (decodeAt decodeString) tool
      if isList item then let _ ← tool'
      let timeout ← decodeField d.timeoutSeconds (decodeAt (decodeWord "u64")) timeout
      return ⟨← tool', timeout⟩
  | _ => return d

def decodePrompt (item : Span × Value) : Decoded PromptSettings := do
  let d := PromptSettings.default
  match ← fieldsOf "struct PromptConfig" ["debounceMs", "placeholder"] item with
  | [debounce, placeholder] =>
      let debounce ← decodeField d.debounceMillis (decodeAt (decodeWord "u64")) debounce
      let placeholder ← decodeField d.placeholder (decodeAt decodeString) placeholder
      return ⟨debounce, placeholder⟩
  | _ => return d

/-!
# The whole document
-/

def tableNames : List Text := ["generator", "index", "prompt"]

/-- Misfits of the receiver's settings are not tied to a place. -/
def atTop {α : Type} (default : α) (decode : Value → Except Misfit α)
    (item : Option (Span × Value)) : Decoded α :=
  decodeField default (decodeAt decode) (item.map fun (_, value) => (⟨0, 0⟩, value))

def decodeReceiver (entries : Entries) : Decoded ReceiverSettings := do
  let d := ReceiverSettings.default
  let fixedName ← atTop d.fixedName decodeString (valueAt "fixedReceiverName" entries)
  let nameLength ←
    atTop d.nameLength (decodeWord "usize") (valueAt "receiverNameLength" entries)
  let nameMode ←
    atTop d.nameMode
      (decodeVariant ("derived", ReceiverNameMode.derived) ("fixed", ReceiverNameMode.fixed))
      (valueAt "receiverNameMode" entries)
  let receiverType ←
    atTop d.receiverType
      (decodeVariant ("value", ReceiverType.value) ("pointer", ReceiverType.pointer))
      (valueAt "receiverType" entries)
  return ⟨nameMode, nameLength, fixedName, receiverType⟩

def decode (entries : Entries) : Decoded Settings := do
  let generator ←
    decodeField GeneratorSettings.default decodeGenerator (valueAt "generator" entries)
  let index ← decodeField IndexSettings.default decodeIndex (valueAt "index" entries)
  let prompt ← decodeField PromptSettings.default decodePrompt (valueAt "prompt" entries)
  if entries.all (fun (name, _, value) => tableNames.contains name || passesOverAtTop value) then
    return ⟨← decodeReceiver entries, generator, index, prompt⟩
  else throw ⟨.outOfRange, ⟨0, 0⟩⟩

end Settings
end StubAssist

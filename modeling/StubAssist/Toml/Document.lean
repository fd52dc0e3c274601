import StubAssist.Toml.Quoted
import StubAssist.Toml.Scalar
import StubAssist.Toml.Tables

/-!
# TOML documents

Reads a text as a TOML document.  A reader takes what it needs from the front of
the text that is left; where a value stands follows from how much was left before
and after it.
-/

namespace StubAssist
namespace Toml

abbrev Reader := StateT Text Option

/-- Runs a reader and tells which stretch of a text of `total` bytes it took. -/
def withSpan {α : Type} (total : Nat) (reader : Reader α) : Reader (Span × α) := do
  let before := Text.byteSize (← get)
  let a ← reader
  return (⟨total - before, before - Text.byteSize (← get)⟩, a)

def expect (expected : Text) : Reader Unit :=
  fun t => (Text.afterPrefix? expected t).map fun rest => ((), rest)

def skipBlanks : Reader Unit :=
  modify (List.dropWhile isSpaceOrTab)

def afterTrivia? : (inComment : Bool) → Text → Option Text
  | _, [] => some []
  | _, '\n' :: rest => afterTrivia? false rest
  | _, '\r' :: '\n' :: rest => afterTrivia? false rest
  | true, c :: rest => if isPlainChar c then afterTrivia? true rest else none
  | false, ' ' :: rest => afterTrivia? false rest
  | false, '\t' :: rest => afterTrivia? false rest
  | false, '#' :: rest => afterTrivia? true rest
  | false, t => some t

def skipTrivia : Reader Unit :=
  fun t => (afterTrivia? false t).map fun rest => ((), rest)

def requireLineEnd : Reader Unit := do
  skipBlanks
  let t ← get
  guard (t.isEmpty || startsWithNewline t || t.head? == some '#')

/-!
# Keys
-/

def isBareKeyChar (c : Char) : Bool :=
  c.isAlphanum || c == '_' || c == '-'

def readName : Reader Text := fun t =>
  match t with
  | '"' :: _ => lineString? t
  | '\'' :: _ => lineString? t
  | _ =>
      let name := t.takeWhile isBareKeyChar
      if name.isEmpty then none else some (name, t.drop name.length)

def readNames (total : Nat) : (limit : Nat) → Reader (List Key)
  | 0 => failure
  | limit + 1 => do
      skipBlanks
      let (span, name) ← withSpan total readName
      skipBlanks
      if (← get).head? == some '.' then
        expect ['.']
        return ⟨name, span⟩ :: (← readNames total limit)
      else return [⟨name, span⟩]

/-- How deep arrays and tables may be nested, and how many names a key may have. -/
def maxDepth : Nat := 80

def readKey (total : Nat) : Reader (List Key × Key) := do
  let names ← readNames total maxDepth
  match names.getLast? with
  | some key => return (names.dropLast, key)
  | none => failure

/-!
# Values
-/

/-- Items up to the closing character, a comma after each but perhaps the last. -/
def readItems {α : Type} (close : Char) (item : Reader α) : (fuel : Nat) → Reader (List α)
  | 0 => failure
  | fuel + 1 => do
      skipTrivia
      if (← get).head? == some close then
        expect [close]
        return []
      else
        let a ← item
        skipTrivia
        if (← get).head? == some close then
          expect [close]
          return [a]
        else
          expect [',']
          return a :: (← readItems close item fuel)

def readEntry (total : Nat) (skip : Reader Unit) (value : Reader (Span × Value)) :
    Reader (List Key × Key × Span × Value) := do
  let (path, key) ← readKey total
  skip
  expect ['=']
  skip
  return (path, key, ← value)

def readScalar : Reader Value := fun t =>
  if t.head? == some '"' || t.head? == some '\'' then
    (string? t).map fun (text, rest) => (.string text, rest)
  else
    let (token, rest) := splitToken t
    (scalar? token).map fun value => (value, rest)

def inlineTable (members : List (List Key × Key × Span × Value)) : Option Value := do
  let (_, entries) ← members.foldlM
    (fun (kind, entries) (path, key, value) => addEntry path key value kind entries)
    ((.header, []) : TableKind × Entries)
  return .table .inline entries

/-- A value; `depth` bounds how deep arrays and tables may be nested. -/
def readValue (total : Nat) : (depth : Nat) → Reader (Span × Value)
  | 0 => withSpan total readScalar
  | depth + 1 => withSpan total do
      let t ← get
      match t with
      | '[' :: _ =>
          expect ['[']
          return .array false (← readItems ']' (readValue total depth) (t.length + 1))
      | '{' :: _ =>
          expect ['{']
          let members ←
            readItems '}' (readEntry total skipTrivia (readValue total depth)) (t.length + 1)
          inlineTable members
      | _ => readScalar

/-!
# Lines
-/

/-- The document so far, and the path of the header that entries belong to. -/
structure Draft where
  entries : Entries
  header : List Key

def Draft.empty : Draft := ⟨[], []⟩

def Draft.update (draft : Draft) (path : List Key) (change : Change) : Option Entries :=
  (descend false change path .header draft.entries).map (·.2)

def readHeader (total : Nat) : Reader (Bool × List Key × Key) := do
  expect ['[']
  let doubled := (← get).head? == some '['
  if doubled then expect ['[']
  let (path, key) ← readKey total
  expect [']']
  if doubled then expect [']']
  return (doubled, path, key)

def readLine (total : Nat) (draft : Draft) : Reader Draft := do
  if (← get).head? == some '[' then
    let (span, doubled, path, key) ← withSpan total (readHeader total)
    let entries ← draft.update path (if doubled then openItem key span else openTable key span)
    requireLineEnd
    return ⟨entries, path ++ [key]⟩
  else
    let (path, key, value) ← readEntry total skipBlanks (readValue total maxDepth)
    let entries ← draft.update draft.header (addEntry path key value)
    requireLineEnd
    return { draft with entries := entries }

def readLines (total : Nat) (draft : Draft) : (fuel : Nat) → Reader Draft
  | 0 => failure
  | fuel + 1 => do
      skipTrivia
      if (← get).isEmpty then return draft
      else readLines total (← readLine total draft) fuel

def dropByteOrderMark : Text → Text
  | '\uFEFF' :: rest => rest
  | t => t

def parse? (t : Text) : Option Entries :=
  let body := dropByteOrderMark t
  ((readLines (Text.byteSize t) .empty (body.length + 1)).run body).map fun (draft, _) =>
    draft.entries

end Toml
end StubAssist

import StubAssist.Shell.Syntax

/-!
# Sources of scripts

A script while it is read: what is left of it, the number of the current line and the
token that has been read ahead.  The text of an alias takes the place of its name, and
names that are being replaced stand for themselves.  Here documents are ordered where their
redirections stand, and read when the line ends.
-/

namespace StubAssist
namespace Shell

inductive Token where
  | word (word : Word)
  | sign (sign : Text)
  | redirection (descriptor : Option Nat) (sign : Text)
  | newline
  | finish

structure Replacement where
  name : Text
  following : Nat
  goesOn : Bool
deriving DecidableEq, Repr

structure Order where
  delimiter : Text
  isLiteral : Bool
  dropsTabs : Bool
deriving DecidableEq, Repr

structure Source where
  rest : Text
  line : Nat
  held : Option Token
  word : Word
  aliases : List (Text × Text)
  replacements : List Replacement
  /-- Whether the token that was read last may be an alias for where it stands. -/
  isChained : Bool
  orders : List Order
  /-- Documents that have been read, in the order in which they were asked for. -/
  documents : List Word
  current : Option Order
  following : Text
  awaitsDelimiter : Bool

structure Mistake where
  line : Nat
  error : SyntaxError
deriving DecidableEq, Repr

abbrev Reader := StateT Source (Except Mistake)

namespace Source

def ofText (aliases : List (Text × Text)) (line : Nat) (script : Text) : Source where
  rest := script
  line := line
  held := none
  word := []
  aliases := aliases
  replacements := []
  isChained := false
  orders := []
  documents := []
  current := none
  following := []
  awaitsDelimiter := false

def skip (source : Source) (count : Nat) : Source :=
  { source with
    rest := source.rest.drop count
    line := source.line + (source.rest.take count).count '\n' }

def order (source : Source) (order : Order) : Nat × Source :=
  (source.documents.length + source.orders.length,
    { source with orders := source.orders ++ [order] })

/-- What an alias stands for, unless it is being replaced already. -/
def alias? (source : Source) (name : Text) : Option Text :=
  let left := source.rest.length
  if source.replacements.any fun r => r.name == name && decide (r.following ≤ left) then none
  else source.aliases.lookup name

/-- Puts the text of an alias in the place of its name, which has just been read. -/
def enter (source : Source) (name value : Text) : Source :=
  let last := value.getLast?
  let replacement : Replacement :=
    ⟨name, source.rest.length, last == some ' ' || last == some '\t'⟩
  { source with
    rest := value ++ source.rest
    held := none
    replacements := replacement :: source.replacements }

/-- Takes note of the aliases that have been read to their end since so much was left. -/
def leaveBehind (source : Source) (before : Nat) : Source :=
  if source.replacements.isEmpty then { source with isChained := false }
  else
    let left := source.rest.length
    { source with
      isChained := source.replacements.any fun r =>
        r.goesOn && decide (r.following ≤ before) && decide (left < r.following)
      replacements := source.replacements.filter fun r => decide (r.following ≤ left) }

end Source

namespace Reader

def fail {α : Type} (error : SyntaxError) : Reader α := do
  throw ⟨(← get).line, error⟩

def failAtEnd {α : Type} (error : SyntaxError) : Reader α := do
  let source ← get
  throw ⟨(source.skip source.rest.length).line, error⟩

def skip (count : Nat) : Reader Unit :=
  modify fun source => source.skip count

def pass : Reader Unit :=
  modify fun source => { source with rest := source.rest.drop 1 }

def takeWhile (p : Char → Bool) : Reader Text := do
  let t := (← get).rest.takeWhile p
  skip t.length
  return t

/-!
# Joined lines

A backslash at the end of a line joins it with the next one, wherever that is.
-/

def joined : Text → Nat × Text
  | '\\' :: '\n' :: rest =>
      let (count, rest) := joined rest
      (count + 1, rest)
  | t => (0, t)

def joinLines : Reader Unit :=
  modify fun source =>
    let (count, rest) := joined source.rest
    if count == 0 then source else { source with rest := rest, line := source.line + count }

def front? : Reader (Option Char) := do
  joinLines
  return (← get).rest.head?

def accept (c : Char) : Reader Bool := do
  if (← front?) != some c then return false
  skip 1
  return true

def takeJoined (p : Char → Bool) : (fuel : Nat) → Reader Text
  | 0 => return []
  | fuel + 1 => do
      joinLines
      let t ← takeWhile p
      if t.isEmpty then return []
      return t ++ (← takeJoined p fuel)

/-!
# Signs
-/

def isBlank (c : Char) : Bool :=
  c == ' ' || c == '\t'

def isOperatorStart (c : Char) : Bool :=
  List.contains (";&|<>()".toList) c

def endsBareWord (c : Char) : Bool :=
  isBlank c || c == '\n' || isOperatorStart c

def signAfter (c : Char) : Reader Text := do
  if c == '&' || c == '|' || c == ';' then
    if ← accept c then return [c, c]
  return [c]

def redirectionAfter (c : Char) : Reader Text := do
  let second ← front?
  if c == '>' then
    match second with
    | some d =>
        if d == '>' || d == '|' || d == '&' then
          skip 1
          return ['>', d]
        return ['>']
    | none => return ['>']
  else
    match second with
    | some '<' =>
        skip 1
        return if ← accept '-' then "<<-" else "<<"
    | some d =>
        if d == '&' || d == '>' then
          skip 1
          return ['<', d]
        return ['<']
    | none => return ['<']

/-- A sign of redirection, with the digit in front of it; nothing is taken without one. -/
def redirectionSign? : Reader (Option (Option Nat × Text)) := do
  let source ← get
  let digit ←
    match source.rest.head? with
    | some c =>
        if c.isDigit then
          skip 1
          joinLines
          pure (some (c.toNat - '0'.toNat))
        else pure none
    | none => pure none
  match (← get).rest.head? with
  | some c =>
      if c == '<' || c == '>' then
        skip 1
        return some (digit, ← redirectionAfter c)
      set source
      return none
  | none =>
      set source
      return none

def skipBlanks : (fuel : Nat) → Reader Unit
  | 0 => return ()
  | fuel + 1 => do
      joinLines
      let _ ← takeWhile isBlank
      match (← get).rest with
      | '#' :: _ =>
          let _ ← takeWhile (· != '\n')
      | '\\' :: '\n' :: _ => skipBlanks fuel
      | _ => return ()

/-!
# Other texts
-/

def backquoted (inQuotes : Bool) : Text → Option (Text × Text)
  | [] => none
  | '\x60' :: rest => some ([], rest)
  | '\\' :: '\n' :: rest => backquoted inQuotes rest
  | '\\' :: c :: rest =>
      let isHidden := c == '\x60' || c == '\\' || c == '$' || (inQuotes && c == '"')
      (backquoted inQuotes rest).map fun (inside, rest) =>
        (if isHidden then c :: inside else '\\' :: c :: inside, rest)
  | c :: rest => (backquoted inQuotes rest).map fun (inside, rest) => (c :: inside, rest)

def inside {α : Type} (source : Source) (reader : Reader α) : Reader α := do
  liftM (reader.run' source)

def apart {α : Type} (reader : Reader α) : Reader (α × List Word) := do
  let before ← get
  set { before with
    orders := []
    documents := []
    current := none
    following := []
    awaitsDelimiter := false }
  let result ← reader
  let documents := (← get).documents
  modify fun source =>
    { source with
      orders := before.orders
      documents := before.documents
      current := before.current
      following := before.following
      awaitsDelimiter := before.awaitsDelimiter }
  return (result, documents)

/-!
# Here documents
-/

def afterLine? (line t : Text) : Option Text :=
  match Text.afterPrefix? line t with
  | some [] => some []
  | some ('\n' :: rest) => some rest
  | _ => none

/--
Begins a line of the current document: after the line that ends it, nothing is left.  A sign
that joins lines stands for itself after a tab that is left out, and is returned.
-/
def beginLine (order : Order) (joins : Bool) : Reader Text := do
  if joins then joinLines
  let tabs ← if order.dropsTabs then takeWhile (· == '\t') else pure []
  let source ← get
  match afterLine? order.delimiter source.rest with
  | some following =>
      set { source with
        rest := []
        line := source.line + order.delimiter.count '\n' + 1
        following := following }
      return []
  | none =>
      match source.rest with
      | '\\' :: '\n' :: rest =>
          if tabs.isEmpty || !joins then return []
          set { source with rest := rest }
          return ['\\', '\n']
      | _ => return []

def readDocument (order : Order) (reader : Text → Reader Word) : Reader Unit := do
  modify fun source => { source with current := some order, following := [] }
  let document ← reader (← beginLine order (!order.isLiteral))
  modify fun source =>
    { source with
      rest := source.following
      current := none
      following := []
      documents := source.documents ++ [document] }

end Reader
end Shell
end StubAssist

import StubAssist.Shell.Regex.Reader
import StubAssist.Shell.Program.Edit.Script

/-!
# Reading scripts of line editors

A script comes in parts, from arguments and from files.  Blocks, labels and texts can go
on from one part to the next.
-/

namespace StubAssist
namespace Shell
namespace Program
namespace Edit

inductive Origin where
  | argument (index : Nat)
  | file (path : Text)
deriving DecidableEq, Repr

/-- Why a script cannot be used, and the status for that. -/
structure Flaw where
  status : Nat
  reason : Text
deriving DecidableEq, Repr

structure Draft where
  isExtended : Bool
  origin : Origin
  rest : Text
  position : Nat
  line : Nat
  steps : Array Step
  blocks : List (Nat × Text)
  labels : List (Text × Nat)
  jumps : List (Nat × Turn × Text)
  unfinished : Option (Nat × Text)
  isSilent : Bool

abbrev Reading := StateT Draft (Except Flaw)

def Draft.empty (isExtended : Bool) : Draft where
  isExtended := isExtended
  origin := .argument 0
  rest := []
  position := 0
  line := 1
  steps := #[]
  blocks := []
  labels := []
  jumps := []
  unfinished := none
  isSilent := false

def Origin.place (origin : Origin) (position line : Nat) : Text :=
  match origin with
  | .argument index =>
      "-e expression #" ++ Text.ofNat index ++ ", char " ++ Text.ofNat position ++ ": "
  | .file path => "file " ++ path ++ " line " ++ Text.ofNat line ++ ": "

namespace Reading

def fail {α : Type} (reason : Text) : Reading α := do
  let draft ← get
  throw ⟨1, draft.origin.place draft.position draft.line ++ reason⟩

def peek : Reading (Option Char) := do
  return (← get).rest.head?

def next : Reading (Option Char) := do
  let draft ← get
  match draft.rest with
  | [] => return none
  | c :: rest =>
      set { draft with
        rest := rest
        position := draft.position + 1
        line := if c == '\n' then draft.line + 1 else draft.line }
      return some c

def takeWhile (p : Char → Bool) : Reading Text := do
  let found := (← get).rest.takeWhile p
  modify fun draft =>
    { draft with
      rest := draft.rest.drop found.length
      position := draft.position + found.length
      line := draft.line + found.count '\n' }
  return found

def isBlank (c : Char) : Bool :=
  c == ' ' || c == '\t'

def isSpace (c : Char) : Bool :=
  c == ' ' || ('\t' ≤ c && c ≤ '\r')

def nextAfterBlanks : Reading (Option Char) := do
  let _ ← takeWhile isBlank
  next

def peekAfterBlanks : Reading (Option Char) := do
  let _ ← takeWhile isBlank
  peek

def number : Reading Nat := do
  return (Text.digitsFrom? 0 (← takeWhile Char.isDigit)).getD 0

def endCommand : Reading Unit := do
  match ← peekAfterBlanks with
  | none | some '\x7d' | some '#' => return ()
  | some c =>
      let _ ← next
      if c != '\n' && c != ';' then fail "extra characters after command"

/-!
# Texts between signs
-/

inductive Bracket where
  | outside
  | opened
  | named (mark : Char)
  | closing (mark : Char)
deriving DecidableEq, Repr

/-- The size of what is left of a set in brackets, up to the closing one, if that is there. -/
def bracketSize : Bracket → (size : Nat) → Text → Nat × Bool
  | _, size, [] => (size, false)
  | state, size, c :: rest =>
      if c == '\n' then (size, false)
      else if c == '.' || c == ':' || c == '=' then
        match state with
        | .opened => bracketSize (.named c) (size + 1) rest
        | .named mark | .closing mark =>
            bracketSize (if mark == c then .closing mark else .named mark) (size + 1) rest
        | .outside => bracketSize .outside (size + 1) rest
      else if c == '[' then
        match state with
        | .outside => bracketSize .opened (size + 1) rest
        | state => bracketSize state (size + 1) rest
      else if c == ']' then
        match state with
        | .outside | .opened => (size, true)
        | .closing _ => bracketSize .outside (size + 1) rest
        | .named mark => bracketSize (.named mark) (size + 1) rest
      else
        match state with
        | .closing mark => bracketSize (.named mark) (size + 1) rest
        | .opened => bracketSize .outside (size + 1) rest
        | state => bracketSize state (size + 1) rest

/-- The size of a set after its opening bracket, up to the closing one, if that is there. -/
def setSize (t : Text) : Nat × Bool :=
  let negation := if t.head? == some '^' then 1 else 0
  let first := if (t.drop negation).head? == some ']' then 1 else 0
  let (size, isClosed) := bracketSize .outside 0 (t.drop (negation + first))
  (negation + first + size, isClosed)

def take (count : Nat) : Reading Text := do
  let found := (← get).rest.take count
  modify fun draft =>
    { draft with rest := draft.rest.drop count, position := draft.position + found.length }
  return found

def until? (sign : Char) (isExpression : Bool) : (fuel : Nat) → (found : Text) →
    Reading (Option Text)
  | 0, _ => return none
  | fuel + 1, found => do
      match ← peek with
      | none | some '\n' => return none
      | some c =>
          let _ ← next
          if c == sign then return some found.reverse
          else if c == '\\' then
            match ← next with
            | none => return none
            | some d =>
                if d == 'n' && isExpression then until? sign isExpression fuel ('\n' :: found)
                else if d != '\n' && (d != sign || (!isExpression && d == '&')) then
                  until? sign isExpression fuel (d :: '\\' :: found)
                else until? sign isExpression fuel (d :: found)
          else if c == '[' && isExpression then
            let (size, isClosed) := setSize (← get).rest
            let inside ← take size
            if !isClosed then return none
            until? sign isExpression fuel (inside.reverse ++ '[' :: found)
          else until? sign isExpression fuel (c :: found)

def untilSign? (sign : Option Char) (isExpression : Bool) : Reading (Option Text) := do
  match sign with
  | none => return none
  | some sign => until? sign isExpression ((← get).rest.length + 1) []

/-- The expression that a text stands for; an empty one is the one that was used last. -/
def expression (t : Text) (ignoresCase hasLines : Bool) : Reading (Option Expression) := do
  if t.isEmpty then
    if ignoresCase || hasLines then fail "cannot specify modifiers on empty regexp"
    return none
  let dialect : Regex.Dialect :=
    if (← get).isExtended then .extended else .basic
  let dialect := { dialect with staysInLines := hasLines }
  match Regex.parse dialect (plainExpression (t.length + 1) t) with
  | .error flaw => fail flaw.message
  | .ok regex =>
      return some ⟨if ignoresCase then regex.foldCase else regex, ignoresCase, hasLines⟩

/-!
# Addresses
-/

/-- The letters after an expression: whether the case of letters or line ends matter. -/
def addressLetters : (fuel : Nat) → (ignoresCase hasLines : Bool) → Reading (Bool × Bool)
  | 0, ignoresCase, hasLines => return (ignoresCase, hasLines)
  | fuel + 1, ignoresCase, hasLines => do
      match ← peekAfterBlanks with
      | some 'I' =>
          let _ ← next
          addressLetters fuel true hasLines
      | some 'M' =>
          let _ ← next
          addressLetters fuel ignoresCase true
      | _ => return (ignoresCase, hasLines)

def address? : Reading (Option Address) := do
  match ← peek with
  | some '/' | some '\\' =>
      let first ← next
      let sign ← if first == some '\\' then next else pure first
      match ← untilSign? sign true with
      | none => fail "unterminated address regex"
      | some t =>
          let (ignoresCase, hasLines) ← addressLetters ((← get).rest.length + 1) false false
          return some (.matching (← expression t ignoresCase hasLines))
  | some '$' =>
      let _ ← next
      return some .last
  | some c =>
      if !c.isDigit then return none
      let first ← number
      match ← peekAfterBlanks with
      | some '~' =>
          let _ ← next
          let _ ← takeWhile isBlank
          let step ← number
          return some (if step == 0 then .line first else .steps first step)
      | _ => return some (.line first)
  | none => return none

def ending? : Reading (Option Ending) := do
  match ← peekAfterBlanks with
  | some '+' =>
      let _ ← next
      let _ ← takeWhile isBlank
      return some (.further (← number))
  | some '~' =>
      let _ ← next
      let _ ← takeWhile isBlank
      return some (.multiple (← number))
  | _ => return (← address?).map .at

/-- Whether lines can begin with line zero: only if they end where an expression matches. -/
def allowsLineZero : Option Ending → Bool
  | some (.at (.matching _)) => true
  | _ => false

def selection : Reading (Selection × Option Char) := do
  let first ← address?
  let last ←
    match first with
    | none =>
        match ← peek with
        | some c =>
            if c == '+' || c == '~' then
              let _ ← next
              let _ ← takeWhile isBlank
              let _ ← number
              fail "invalid usage of +N or ~N as first address"
            else pure none
        | none => pure none
    | some _ =>
        if (← peekAfterBlanks) == some ',' then
          let _ ← next
          match ← ending? with
          | some last => pure (some last)
          | none =>
              let _ ← next
              fail "unexpected `,'"
        else pure none
  let sign ← if first.isSome then nextAfterBlanks else next
  let isZero := match first with
    | some (.line 0) => true
    | _ => false
  if isZero && !allowsLineZero last then fail "invalid usage of line address 0"
  if sign != some '!' then return (⟨first, last, false⟩, sign)
  let sign ← nextAfterBlanks
  if sign == some '!' then fail "multiple `!'s"
  return (⟨first, last, true⟩, sign)

/-!
# Arguments of commands
-/

def label : Reading Text := do
  let _ ← takeWhile isBlank
  takeWhile fun c => !isSpace c && c != ';' && c != '\x7d' && c != '#'

def path : Reading Text := do
  let _ ← takeWhile isBlank
  let path ← takeWhile (· != '\n')
  if path.isEmpty then fail "missing filename in r/R/w/W commands"
  let _ ← next
  return path

def finalNumber? : Reading (Option Nat) := do
  match ← peekAfterBlanks with
  | some c =>
      let n ← if c.isDigit then pure (some (← number)) else pure none
      endCommand
      return n
  | none => return none

structure Letters where
  ignoresCase : Bool
  hasLines : Bool
  isGlobal : Bool
  prints : Bool
  executes : Bool
  first : Option Nat
  target : Option Text

def letters : (fuel : Nat) → Letters → Reading Letters
  | 0, found => return found
  | fuel + 1, found => do
      match ← peek with
      | none | some '\x7d' | some '#' => return found
      | some c =>
          if c.isDigit && found.first.isNone then
            let n ← number
            if n == 0 then fail "number option to `s' command may not be zero"
            letters fuel { found with first := some n }
          else
            let _ ← next
            match c with
            | '\n' | ';' => return found
            | 'i' | 'I' => letters fuel { found with ignoresCase := true }
            | 'm' | 'M' => letters fuel { found with hasLines := true }
            | 'e' => letters fuel { found with executes := true }
            | 'p' =>
                if found.prints then fail "multiple `p' options to `s' command"
                letters fuel { found with prints := true }
            | 'g' =>
                if found.isGlobal then fail "multiple `g' options to `s' command"
                letters fuel { found with isGlobal := true }
            | 'w' => return { found with target := some (← path) }
            | ' ' => letters fuel found
            | c =>
                if c.isDigit then fail "multiple number options to `s' command"
                fail "unknown option to `s'"

def substitution : Reading Action := do
  let unterminated : Text := "unterminated `s' command"
  let sign ← next
  match ← untilSign? sign true with
  | none => fail unterminated
  | some t =>
      match ← untilSign? sign false with
      | none => fail unterminated
      | some replacement =>
          let pieces := piecesOf (replacement.length + 1) replacement
          let bare := ⟨false, false, false, false, false, none, none⟩
          let found ← letters ((← get).rest.length + 1) bare
          let expression ← expression t found.ignoresCase found.hasLines
          let greatest := greatestGroup pieces
          let isMissing := match expression with
            | some expression => decide (expression.regex.groupCount < greatest)
            | none => false
          if isMissing then
            fail ("invalid reference \\" ++ Text.ofNat greatest ++ " on `s' command's RHS")
          return .substitute
            { expression := expression
              replacement := pieces
              first := found.first.getD 1
              isGlobal := found.isGlobal
              prints := found.prints
              executes := found.executes
              target := found.target }

def transliteration : Reading Action := do
  let sign ← next
  match ← untilSign? sign false with
  | none => fail "unterminated `y' command"
  | some source =>
      match ← untilSign? sign false with
      | none => fail "unterminated `y' command"
      | some target =>
          let source := plainText (source.length + 1) source
          let target := plainText (target.length + 1) target
          if source.length != target.length then
            fail "strings for `y' command are different lengths"
          endCommand
          return .transliterate (source.zip target)

/-!
# Texts
-/

/-- The rest of a text up to the end of a line that does not go on, and whether it is complete. -/
def textLines : (fuel : Nat) → (found : Text) → Reading (Text × Bool)
  | 0, found => return (found.reverse, true)
  | fuel + 1, found => do
      match ← next with
      | none | some '\n' => return (('\n' :: found).reverse, true)
      | some '\\' =>
          match ← next with
          | none => return (('\n' :: found).reverse, false)
          | some c => textLines fuel (c :: '\\' :: found)
      | some c => textLines fuel (c :: found)

def withText (action : Action) (raw : Text) : Action :=
  let t := plainText (raw.length + 1) raw
  match action with
  | .append _ => .append t
  | .insert _ => .insert t
  | .change _ => .change t
  | action => action

def continueText (index : Nat) (raw : Text) : Reading Unit := do
  let (more, isWhole) ← textLines ((← get).rest.length + 1) []
  let raw := raw ++ more
  modify fun draft =>
    { draft with
      steps := draft.steps.modify index fun step =>
        { step with action := withText step.action raw }
      unfinished := if isWhole then none else some (index, raw) }

def text : Reading Unit := do
  let index := (← get).steps.size - 1
  match ← peekAfterBlanks with
  | none => fail "expected \\ after `a', `c' or `i'"
  | some '\\' =>
      let _ ← next
      match ← peek with
      | none => modify fun draft => { draft with unfinished := some (index, []) }
      | some '\n' =>
          let _ ← next
          continueText index []
      | some _ => continueText index []
  | some _ => continueText index []

/-!
# Commands
-/

def add (selection : Selection) (action : Action) : Reading Unit :=
  modify fun draft => { draft with steps := draft.steps.push ⟨selection, action⟩ }

def plainAction? (c : Char) : Option Action :=
  match c with
  | '=' => some .number
  | 'd' => some .delete
  | 'D' => some .deleteFirst
  | 'F' => some .fileName
  | 'g' => some .get
  | 'G' => some .getMore
  | 'h' => some .hold
  | 'H' => some .holdMore
  | 'n' => some .next
  | 'N' => some .join
  | 'p' => some .print
  | 'P' => some .printFirst
  | 'z' => some .clear
  | 'x' => some .exchange
  | _ => none

def closeBlock (selection : Selection) : Reading Unit := do
  let draft ← get
  match draft.blocks with
  | [] => fail "unexpected `\x7d'"
  | (index, _) :: blocks =>
      if selection.first.isSome then fail "\x7d doesn't want any addresses"
      endCommand
      modify fun draft =>
        { draft with
          blocks := blocks
          steps := (draft.steps.modify index fun step =>
            { step with action := .block draft.steps.size }).push ⟨selection, .nothing⟩ }

def command (selection : Selection) (sign : Char) : Reading Unit := do
  let isRange := selection.last.isSome
  let alone (action : Action) : Reading Unit := do
    endCommand
    add selection action
  let jump (turn : Turn) : Reading Unit := do
    let label ← label
    let index := (← get).steps.size
    add selection .nothing
    modify fun draft => { draft with jumps := (index, turn, label) :: draft.jumps }
  match sign with
  | '\x7b' =>
      let draft ← get
      let place := draft.origin.place 0 draft.line
      set { draft with blocks := (draft.steps.size, place) :: draft.blocks }
      add selection (.block 0)
  | '\x7d' => closeBlock selection
  | '#' =>
      if selection.first.isSome then fail "comments don't accept any addresses"
      let _ ← takeWhile (· != '\n')
  | ':' =>
      if selection.first.isSome then fail ": doesn't want any addresses"
      let label ← label
      if label.isEmpty then fail "\":\" lacks a label"
      modify fun draft => { draft with labels := draft.labels ++ [(label, draft.steps.size)] }
  | 'b' => jump .always
  | 't' => jump .ifReplaced
  | 'T' => jump .unlessReplaced
  | 's' => add selection (← substitution)
  | 'y' => add selection (← transliteration)
  | 'a' =>
      add selection (.append [])
      text
  | 'i' =>
      add selection (.insert [])
      text
  | 'c' =>
      add selection (.change [])
      text
  | 'q' =>
      if isRange then fail "command only uses one address"
      add selection (.quit ((← finalNumber?).getD 0))
  | 'Q' =>
      if isRange then fail "command only uses one address"
      add selection (.quitSilently ((← finalNumber?).getD 0))
  | 'l' => add selection (.list (← finalNumber?))
  | 'r' => add selection (.read (← path))
  | 'R' => add selection (.readLine (← path))
  | 'w' => add selection (.write (← path))
  | 'W' => add selection (.writeFirst (← path))
  | 'e' =>
      let _ ← takeWhile isBlank
      let command ← takeWhile (· != '\n')
      let _ ← next
      add selection (.execute command)
  | 'v' =>
      let version := (← label).takeWhile Char.isDigit
      if 4 < (Text.digitsFrom? 0 version).getD 0 then fail "expected newer version of sed"
  | c =>
      match plainAction? c with
      | some action => alone action
      | none => fail ("unknown command: `" ++ c :: ['\''])

def commands : (fuel : Nat) → Reading Unit
  | 0 => return ()
  | fuel + 1 => do
      let _ ← takeWhile fun c => isSpace c || c == ';'
      if (← peek).isSome then
        match ← selection with
        | (_, none) => fail "missing command"
        | (selection, some sign) =>
            command selection sign
            commands fuel

def part (origin : Origin) (t : Text) : Reading Unit := do
  let isFirst := (← get).steps.isEmpty && (← get).unfinished.isNone
  modify fun draft => { draft with origin := origin, rest := t, position := 0, line := 1 }
  let isFirst := isFirst && (origin == .argument 1 || !(origin matches .argument _))
  if isFirst && t.take 2 == "#n" then
    modify fun draft => { draft with isSilent := true }
  match (← get).unfinished with
  | some (index, raw) => continueText index raw
  | none => pure ()
  commands (t.length + 1)

def finish : Reading Script := do
  let draft ← get
  match draft.blocks with
  | (_, place) :: _ => throw ⟨1, place ++ "unmatched `\x7b'"⟩
  | [] =>
      let mut steps := draft.steps
      for (index, turn, label) in draft.jumps.reverse do
        let target ←
          if label.isEmpty then pure draft.steps.size
          else
            match draft.labels.lookup label with
            | some target => pure target
            | none => throw ⟨4, "can't find label for jump to `" ++ label ++ ['\'']⟩
        steps := steps.modify index fun step => { step with action := .jump turn target }
      return ⟨steps, draft.isSilent⟩

end Reading

def Script.read (isExtended : Bool) (parts : List (Origin × Text)) : Except Flaw Script := do
  let reading : Reading Script := do
    for (origin, t) in parts do Reading.part origin t
    Reading.finish
  return (← reading.run (.empty isExtended)).1

end Edit
end Program
end Shell
end StubAssist

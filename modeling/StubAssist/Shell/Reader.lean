import StubAssist.Shell.Source

/-!
# Reading shell scripts

Words and commands from the text of a script.  A script is read one complete command
at a time, so that those before a mistake can still be run, and so that a command can
change the aliases for what follows it.
-/

namespace StubAssist
namespace Shell
namespace Reader

/-!
# Parts of words
-/

inductive WordMode where
  | bare
  | single
  | quoted (inBraces : Bool)
  | braced (isQuoted : Bool)
  | arithmetic (level : Nat)
  | document
  | literal
deriving DecidableEq, Repr

namespace WordMode

def isQuoted : WordMode → Bool
  | bare => false
  | braced isQuoted => isQuoted
  | single | quoted _ | arithmetic _ | document | literal => true

def hasEscapes : WordMode → Bool
  | single | literal => false
  | _ => true

def isPlain (mode : WordMode) (c : Char) : Bool :=
  match mode with
  | single => c != '\''
  | literal => true
  | _ =>
      c != '\\' && c != '$' && c != '\x60' &&
        match mode with
        | bare => !endsBareWord c && c != '\'' && c != '"'
        | quoted _ => c != '"'
        | braced isQuoted => c != '\x7d' && c != '"' && (isQuoted || c != '\'')
        | arithmetic _ => c != '(' && c != ')'
        | _ => true

def hasQuotes (inDocument : Bool) : WordMode → Bool
  | document => false
  | arithmetic _ => !inDocument
  | _ => true

def hides (inDocument : Bool) (mode : WordMode) (c : Char) : Bool :=
  !mode.isQuoted || c == '$' || c == '\x60' || c == '\\' ||
    (c == '"' && mode.hasQuotes inDocument) ||
    (c == '\x7d' && (mode == braced true || mode == quoted true))

def atEnd? (inDocument : Bool) : WordMode → Option SyntaxError
  | bare | document | literal => none
  | single | quoted _ | braced true =>
      some (if inDocument then .missingBrace else .unterminatedQuote)
  | braced false => some .missingBrace
  | arithmetic _ => some .missingParentheses

end WordMode

def pushText (t : Text) (isQuoted : Bool) (word : Word) : Word :=
  if t.isEmpty then word
  else
    match word with
    | .text more q :: rest =>
        if q == isQuoted then .text (t ++ more) q :: rest else .text t isQuoted :: word
    | _ => .text t isQuoted :: word

def modifier? (c : Char) : Option Modifier :=
  match c with
  | '-' => some .useDefault
  | '=' => some .assignDefault
  | '?' => some .demand
  | '+' => some .useAlternative
  | _ => none

def plainText (word : Word) : Text :=
  word.flatMap fun
    | .text t _ => t
    | .parameter name _ => '$' :: name
    | _ => []

def hasQuotes (word : Word) : Bool :=
  word.any fun
    | .text _ isQuoted => isQuoted
    | _ => false

/-!
# Single tokens
-/

def reservedWords : List Text :=
  ["if", "then", "else", "elif", "fi", "do", "done", "case", "esac", "while", "until",
    "for", "\x7b", "\x7d", "!", "in"]

def reserved? : Token → Option Text
  | .word [.text t false] => if reservedWords.contains t then some t else none
  | _ => none

def closesList (t : Text) : Bool :=
  (["then", "else", "elif", "fi", "do", "done", "esac", "\x7d"] : List Text).contains t

def isSign (sign : Text) : Token → Bool
  | .sign s => s == sign
  | _ => false

def endsList (token : Token) : Bool :=
  isSign ")" token || isSign ";;" token || (reserved? token).any closesList ||
    match token with
    | .finish => true
    | _ => false

def inDoubleQuotes (t : Text) : Text :=
  '"' :: t ++ ['"']

def tokenName (canBeReserved : Bool) (token : Token) : Text :=
  match token with
  | .finish => "end of file"
  | .newline => "newline"
  | .sign sign => inDoubleQuotes sign
  | .redirection _ _ => "redirection"
  | .word _ =>
      match if canBeReserved then reserved? token else none with
      | some t => inDoubleQuotes t
      | none => "word"

def unexpected {α : Type} (token : Token) (expected : Option Text) : Reader α :=
  fail (.unexpected (tokenName true token) expected)

def drop : Reader Unit :=
  modify fun source => { source with held := none }

def assignment? : Word → Option (Text × Word)
  | .text t false :: rest =>
      match Text.splitFirst '=' t with
      | some (name, value) =>
          if isName name then
            some (name, if value.isEmpty then rest else .text value false :: rest)
          else none
      | none => none
  | _ => none

/-- The parts of a simple command, with the latest of each kind in front. -/
structure SimpleParts where
  assignments : List (Text × Word)
  words : List Word
  redirections : List Redirection

namespace SimpleParts

def isEmpty (parts : SimpleParts) : Bool :=
  parts.assignments.isEmpty && parts.words.isEmpty && parts.redirections.isEmpty

def toCommand (parts : SimpleParts) (line : Nat) : Command :=
  .simple line parts.assignments.reverse parts.words.reverse parts.redirections.reverse

end SimpleParts

/-- The redirection that a sign makes of a word; documents come from elsewhere. -/
def redirection (descriptor : Option Nat) (sign : Text) (word : Word) : Redirection :=
  let input := descriptor.getD 0
  let output := descriptor.getD 1
  if sign == ">>" then .append output word
  else if sign == ">&" then .duplicate output word
  else if sign == "<&" then .duplicate input word
  else if sign == "<>" then .update input word
  else if sign == "<" then .read input word
  else .write output word (sign == ">|")

mutual

/-- Parts up to what ends them in the given mode; a closing sign is taken away with them. -/
def readParts : (fuel : Nat) → WordMode → Reader Word
  | 0, _ => failAtEnd .unterminatedQuote
  | fuel + 1, mode => do
      let inDocument := (← get).current.isSome
      let t ← takeWhile fun c => mode.isPlain c && !(inDocument && c == '\n')
      return pushText t mode.isQuoted (← readPartsAfter fuel mode)
termination_by structural fuel => fuel

def readPartsAfter : (fuel : Nat) → WordMode → Reader Word
  | 0, _ => failAtEnd .unterminatedQuote
  | fuel + 1, mode => do
      let textThen := fun (t : Text) (isQuoted : Bool) (next : WordMode) => do
        return pushText t isQuoted (← readParts fuel next)
      let source ← get
      match source.rest with
      | [] =>
          match mode.atEnd? source.current.isSome with
          | some error => fail error
          | none => return []
      | '\n' :: _ =>
          match source.current with
          | none => return []
          | some order =>
              skip 1
              let start ← beginLine order mode.hasEscapes
              textThen ('\n' :: start) mode.isQuoted mode
      | '\\' :: '\n' :: _ =>
          joinLines
          readParts fuel mode
      | '\\' :: c :: _ =>
          skip 2
          let isHidden := mode.hides source.current.isSome c
          textThen (if isHidden then [c] else ['\\', c]) true mode
      | '\\' :: [] =>
          skip 1
          textThen ['\\'] true mode
      | '$' :: _ =>
          skip 1
          if source.awaitsDelimiter then textThen ['$'] mode.isQuoted mode
          else
            match ← readDollar fuel mode.isQuoted with
            | none => textThen ['$'] mode.isQuoted mode
            | some (parts, isLast) =>
                let more ← readParts fuel mode
                return if isLast then parts else parts ++ more
      | '\x60' :: rest =>
          if source.awaitsDelimiter then
            skip 1
            textThen ['\x60'] mode.isQuoted mode
          else
            match backquoted mode.isQuoted rest with
            | none => failAtEnd .unterminatedBackquote
            | some (inner, after) =>
                let command ← inside (.ofText source.aliases 1 inner) (readWhole fuel)
                skip (rest.length - after.length + 1)
                return .output command mode.isQuoted :: (← readParts fuel mode)
      | '\'' :: _ =>
          skip 1
          if mode == .single then return []
          let quoted ← readParts fuel .single
          return (if quoted.isEmpty then [.text [] true] else quoted) ++ (← readParts fuel mode)
      | '"' :: _ =>
          skip 1
          match mode with
          | .quoted _ => return []
          | _ =>
              let inBraces :=
                match mode with
                | .braced _ => true
                | _ => false
              let quoted ← readParts fuel (.quoted inBraces)
              return (if quoted.isEmpty then [.text [] true] else quoted) ++
                (← readParts fuel mode)
      | c :: _ =>
          match mode with
          | .braced _ =>
              skip 1
              return []
          | .arithmetic level =>
              skip 1
              if c == '(' then textThen [c] true (.arithmetic (level + 1))
              else if level != 0 then textThen [c] true (.arithmetic (level - 1))
              else if ← accept ')' then return []
              else textThen [c] true mode
          | _ => return []
termination_by structural fuel => fuel

/-- What a dollar sign starts, unless it stands for itself; it may be the last of its word. -/
def readDollar : (fuel : Nat) → (isQuoted : Bool) → Reader (Option (Word × Bool))
  | 0, _ => failAtEnd .unterminatedQuote
  | fuel + 1, isQuoted => do
      match ← front? with
      | some '(' =>
          skip 1
          if ← accept '(' then
            return some ([.number (← readParts fuel (.arithmetic 0)) isQuoted], false)
          let (command, documents) ← apart (readNested fuel)
          return some ([.output (command.withDocuments documents) isQuoted], false)
      | some '\x7b' =>
          skip 1
          return some (← readBraced fuel isQuoted)
      | some c =>
          if isNameStart c then
            return some ([.parameter (← takeJoined isNameRest fuel) isQuoted], false)
          else if isSpecialName c then
            skip 1
            return some ([.parameter [c] isQuoted], false)
          else return none
      | none => return none
termination_by structural fuel => fuel

def readNested : (fuel : Nat) → Reader Command
  | 0 => failAtEnd .unterminatedQuote
  | fuel + 1 => do
      let command ← readList fuel
      let token ← peek fuel
      if !isSign ")" token then unexpected token (some (inDoubleQuotes ")"))
      drop
      return command
termination_by structural fuel => fuel

def readBraced : (fuel : Nat) → (isQuoted : Bool) → Reader (Word × Bool)
  | 0, _ => failAtEnd .missingBrace
  | fuel + 1, isQuoted => do
      match ← front? with
      | none => readFaulty fuel isQuoted
      | some c =>
          if isNameStart c then readModifier fuel isQuoted (← takeJoined isNameRest fuel)
          else if c.isDigit then readModifier fuel isQuoted (← takeJoined Char.isDigit fuel)
          else if c == '\x7d' then readFaulty fuel isQuoted
          else
            pass
            if c == '#' then readMeasured fuel isQuoted
            else if isSpecialName c then readModifier fuel isQuoted [c]
            else
              joinLines
              readFaulty fuel isQuoted
termination_by structural fuel => fuel

/-- What follows a number sign in front: mostly the parameter whose length is asked for. -/
def readMeasured : (fuel : Nat) → (isQuoted : Bool) → Reader (Word × Bool)
  | 0, _ => failAtEnd .missingBrace
  | fuel + 1, isQuoted => do
      match ← front? with
      | none => readModifier fuel isQuoted ['#']
      | some c =>
          let name ←
            if isNameStart c then takeJoined isNameRest fuel
            else takeJoined Char.isDigit fuel
          if !name.isEmpty then
            if ← accept '\x7d' then return ([.length name isQuoted], false)
            readFaulty fuel isQuoted
          else
            let before ← get
            skip 1
            if c == '\x7d' || (← front?) != some '\x7d' then
              set before
              readModifier fuel isQuoted ['#']
            else if isSpecialName c then
              skip 1
              return ([.length [c] isQuoted], false)
            else readFaulty fuel isQuoted
termination_by structural fuel => fuel

def readFaulty : (fuel : Nat) → (isQuoted : Bool) → Reader (Word × Bool)
  | 0, _ => failAtEnd .missingBrace
  | fuel + 1, isQuoted => do
      let _ ← readParts fuel (.braced isQuoted)
      return ([.faulty], false)
termination_by structural fuel => fuel

/-- What is done to a parameter in braces; a colon alone lets a word follow its value. -/
def readModifier : (fuel : Nat) → (isQuoted : Bool) → (name : Text) → Reader (Word × Bool)
  | 0, _, _ => failAtEnd .missingBrace
  | fuel + 1, isQuoted, name => do
      let hasColon ← accept ':'
      let sign ← front?
      pass
      match sign with
      | none => readFaulty fuel isQuoted
      | some c =>
          if c == '\x7d' then
            if !hasColon then return ([.parameter name isQuoted], false)
            return (.parameter name isQuoted :: (← readParts fuel (.braced isQuoted)), true)
          else if !hasColon && (c == '#' || c == '%') then
            let isLongest ← accept c
            let word ← readParts fuel (.braced false)
            let modifier := if c == '#' then .dropStart isLongest else .dropEnd isLongest
            return ([.modified name modifier false word isQuoted], false)
          else
            match modifier? c with
            | none => readFaulty fuel isQuoted
            | some modifier =>
                let word ← readParts fuel (.braced isQuoted)
                return ([.modified name modifier hasColon word isQuoted], false)
termination_by structural fuel => fuel

def readToken : (fuel : Nat) → Reader Token
  | 0 => failAtEnd .unterminatedQuote
  | fuel + 1 => do
      let before := (← get).rest.length
      skipBlanks (before + 1)
      let token ←
        match (← get).rest.head? with
        | none => pure .finish
        | some '\n' =>
            skip 1
            pure .newline
        | some c =>
            match ← redirectionSign? with
            | some (digit, sign) => pure (.redirection digit sign)
            | none =>
                if isOperatorStart c then
                  skip 1
                  pure (.sign (← signAfter c))
                else
                  let word ← readParts fuel .bare
                  modify fun source => { source with word := word }
                  pure (.word word)
      modify fun source => source.leaveBehind before
      return token
termination_by structural fuel => fuel

def peek : (fuel : Nat) → Reader Token
  | 0 => failAtEnd .unterminatedQuote
  | fuel + 1 => do
      match (← get).held with
      | some token => return token
      | none =>
          let token ← readToken fuel
          modify fun source => { source with held := some token }
          return token
termination_by structural fuel => fuel

def peekReplaced : (fuel : Nat) → Reader Token
  | 0 => failAtEnd .unterminatedQuote
  | fuel + 1 => do
      let token ← peek fuel
      match token with
      | .word [.text name false] =>
          if reservedWords.contains name then return token
          match (← get).alias? name with
          | some value =>
              modify fun source => source.enter name value
              peekReplaced fuel
          | none => return token
      | _ => return token
termination_by structural fuel => fuel

/-- Takes the token at the end of a line away, and reads the documents that start there. -/
def endLine : (fuel : Nat) → Reader Unit
  | 0 => return ()
  | fuel + 1 => do
      drop
      readDocuments fuel
termination_by structural fuel => fuel

def readDocuments : (fuel : Nat) → Reader Unit
  | 0 => return ()
  | fuel + 1 => do
      match (← get).orders with
      | [] => return ()
      | order :: orders =>
          let mode := if order.isLiteral then .literal else .document
          readDocument order fun start => do
            return pushText start true (← readParts fuel mode)
          modify fun source => { source with orders := orders }
          readDocuments fuel
termination_by structural fuel => fuel

def skipNewlines : (fuel : Nat) → Reader Unit
  | 0 => return ()
  | fuel + 1 => do
      match ← peek fuel with
      | .newline =>
          endLine fuel
          skipNewlines fuel
      | _ => return ()
termination_by structural fuel => fuel

def expectSignAfterWord : (fuel : Nat) → (sign : Text) → Reader Unit
  | 0, _ => failAtEnd .unterminatedQuote
  | fuel + 1, sign => do
      let token ← peek fuel
      if !isSign sign token then
        fail (.unexpected (tokenName false token) (some (inDoubleQuotes sign)))
      drop
termination_by structural fuel => fuel

def expectReserved : (fuel : Nat) → (t : Text) → Reader Unit
  | 0, _ => failAtEnd .unterminatedQuote
  | fuel + 1, t => do
      let token ← peekReplaced fuel
      if reserved? token != some t then unexpected token (some (inDoubleQuotes t))
      drop
termination_by structural fuel => fuel

def readRedirection : (fuel : Nat) → (descriptor : Option Nat) → (sign : Text) →
    Reader Redirection
  | 0, _, _ => failAtEnd .unterminatedQuote
  | fuel + 1, descriptor, sign => do
      let isDocument := sign == "<<" || sign == "<<-"
      modify fun source => { source with awaitsDelimiter := isDocument }
      let token ← peek fuel
      modify fun source => { source with awaitsDelimiter := false }
      match token with
      | .word word =>
          drop
          if !isDocument then return redirection descriptor sign word
          let order : Order := ⟨plainText word, hasQuotes word, sign == "<<-"⟩
          let number ← modifyGet fun source => source.order order
          return .ordered (descriptor.getD 0) number
      | token => unexpected token none
termination_by structural fuel => fuel

def readRedirections : (fuel : Nat) → Reader (List Redirection)
  | 0 => return []
  | fuel + 1 => do
      match ← peek fuel with
      | .redirection descriptor sign =>
          drop
          let redirection ← readRedirection fuel descriptor sign
          return redirection :: (← readRedirections fuel)
      | _ => return []
termination_by structural fuel => fuel

/-- The rest of a simple command; assignments come before all words. -/
def readSimple : (fuel : Nat) → SimpleParts → Reader SimpleParts
  | 0, parts => return parts
  | fuel + 1, parts => do
      let token ← peek fuel
      match token with
      | .redirection descriptor sign =>
          drop
          let redirection ← readRedirection fuel descriptor sign
          readSimple fuel { parts with redirections := redirection :: parts.redirections }
      | .word word =>
          let isFirst := parts.words.isEmpty
          match if isFirst then assignment? word else none with
          | some assignment =>
              drop
              readSimple fuel { parts with assignments := assignment :: parts.assignments }
          | none =>
              let token ← if isFirst || (← get).isChained then peekReplaced fuel else pure token
              match token with
              | .word word =>
                  drop
                  if isFirst && (assignment? word).isSome then
                    modify fun source => { source with held := some (.word word) }
                    readSimple fuel parts
                  else readSimple fuel { parts with words := word :: parts.words }
              | _ => readSimple fuel parts
      | _ => return parts
termination_by structural fuel => fuel

def readWords : (fuel : Nat) → (words : List Word) → Reader (List Word)
  | 0, words => return words
  | fuel + 1, words => do
      match ← peek fuel with
      | .word word =>
          drop
          readWords fuel (word :: words)
      | _ => return words
termination_by structural fuel => fuel

/-- The patterns of a branch, up to the parenthesis; a token that is no word counts as the
word before it. -/
def readPatterns : (fuel : Nat) → Reader (List Word)
  | 0 => return []
  | fuel + 1 => do
      let _ ← peek fuel
      drop
      let word := (← get).word
      if isSign "|" (← peek fuel) then
        drop
        return word :: (← readPatterns fuel)
      expectSignAfterWord fuel ")"
      return [word]
termination_by structural fuel => fuel

/--
Commands up to a word or sign that closes the list; at least one of them, if that is not
already the end of the script.
-/
def readList : (fuel : Nat) → Reader Command
  | 0 => failAtEnd .unterminatedQuote
  | fuel + 1 => do
      skipNewlines fuel
      if endsList (← peekReplaced fuel) then return .nothing
      readMore fuel
termination_by structural fuel => fuel

def readBody : (fuel : Nat) → Reader Command
  | 0 => failAtEnd .unterminatedQuote
  | fuel + 1 => do
      skipNewlines fuel
      match ← peekReplaced fuel with
      | .finish => return .nothing
      | _ => readMore fuel
termination_by structural fuel => fuel

def readMore : (fuel : Nat) → Reader Command
  | 0 => failAtEnd .unterminatedQuote
  | fuel + 1 => do
      let first ← readAndOr fuel
      let token ← peek fuel
      let isBackground := isSign "&" token
      let first := if isBackground then .background first else first
      let goesOn :=
        match token with
        | .newline => true
        | token => isBackground || isSign ";" token
      if !goesOn then return first
      match token with
      | .newline => endLine fuel
      | _ => drop
      skipNewlines fuel
      if endsList (← peekReplaced fuel) then return first
      return .sequence first (← readMore fuel)
termination_by structural fuel => fuel

def readAndOr : (fuel : Nat) → Reader Command
  | 0 => failAtEnd .unterminatedQuote
  | fuel + 1 => do continueAndOr fuel (← readPipeline fuel)
termination_by structural fuel => fuel

def continueAndOr : (fuel : Nat) → Command → Reader Command
  | 0, _ => failAtEnd .unterminatedQuote
  | fuel + 1, first => do
      let token ← peek fuel
      let isBoth := isSign "&&" token
      if !isBoth && !isSign "||" token then return first
      drop
      skipNewlines fuel
      let second ← readPipeline fuel
      continueAndOr fuel (if isBoth then .both first second else .either first second)
termination_by structural fuel => fuel

def readPipeline : (fuel : Nat) → Reader Command
  | 0 => failAtEnd .unterminatedQuote
  | fuel + 1 => do
      if reserved? (← peekReplaced fuel) == some "!" then
        drop
        return .negated (← readPiped fuel)
      readPiped fuel
termination_by structural fuel => fuel

def readPiped : (fuel : Nat) → Reader Command
  | 0 => failAtEnd .unterminatedQuote
  | fuel + 1 => do
      let first ← readCommand fuel
      if !isSign "|" (← peek fuel) then return first
      drop
      skipNewlines fuel
      return .pipe first (← readPiped fuel)
termination_by structural fuel => fuel

def readCommand : (fuel : Nat) → Reader Command
  | 0 => failAtEnd .unterminatedQuote
  | fuel + 1 => do
      let token ← peekReplaced fuel
      let line := (← get).line
      match ← readCompound fuel with
      | some command =>
          let redirections ← readRedirections fuel
          return if redirections.isEmpty then command
            else .redirected line command redirections
      | none =>
          let parts ← readSimple fuel ⟨[], [], []⟩
          let next ← peek fuel
          match parts with
          | ⟨[], [word], []⟩ =>
              if isSign "(" next then
                drop
                readFunction fuel word
              else return parts.toCommand line
          | parts =>
              if parts.isEmpty then unexpected token none
              return parts.toCommand line
termination_by structural fuel => fuel

def readFunction : (fuel : Nat) → (name : Word) → Reader Command
  | 0, _ => failAtEnd .unterminatedQuote
  | fuel + 1, name => do
      expectSignAfterWord fuel ")"
      match name with
      | [.text name false] =>
          if !isName name || specialCommands.contains name then fail .badFunctionName
          skipNewlines fuel
          return .function name (← readCommand fuel)
      | _ => fail .badFunctionName
termination_by structural fuel => fuel

/-- A command that holds others; nothing is read if none stands in front. -/
def readCompound : (fuel : Nat) → Reader (Option Command)
  | 0 => failAtEnd .unterminatedQuote
  | fuel + 1 => do
      let token ← peekReplaced fuel
      if isSign "(" token then
        drop
        let body ← readBody fuel
        let token ← peekReplaced fuel
        if !isSign ")" token then unexpected token (some (inDoubleQuotes ")"))
        drop
        return some (.subshell body)
      match reserved? token with
      | none => return none
      | some word =>
          drop
          if word == "\x7b" then
            let body ← readBody fuel
            expectReserved fuel "\x7d"
            return some body
          else if word == "if" then return some (← readConditional fuel)
          else if word == "while" || word == "until" then
            let test ← readBody fuel
            expectReserved fuel "do"
            let body ← readBody fuel
            expectReserved fuel "done"
            return some (.loop (word == "while") test body)
          else if word == "for" then return some (← readEach fuel)
          else if word == "case" then
            let token ← peek fuel
            let line := (← get).line
            match token with
            | .word subject =>
                drop
                skipNewlines fuel
                expectReserved fuel "in"
                skipNewlines fuel
                return some (.choice line subject (← readBranches fuel))
            | token => unexpected token (some "word")
          else unexpected token none
termination_by structural fuel => fuel

def readConditional : (fuel : Nat) → Reader Command
  | 0 => failAtEnd .unterminatedQuote
  | fuel + 1 => do
      let test ← readBody fuel
      expectReserved fuel "then"
      let yes ← readBody fuel
      let token ← peekReplaced fuel
      if reserved? token == some "elif" then
        drop
        return .conditional test yes (← readConditional fuel)
      else if reserved? token == some "else" then
        drop
        let no ← readBody fuel
        expectReserved fuel "fi"
        return .conditional test yes no
      else
        expectReserved fuel "fi"
        return .conditional test yes .nothing
termination_by structural fuel => fuel

def readEach : (fuel : Nat) → Reader Command
  | 0 => failAtEnd .unterminatedQuote
  | fuel + 1 => do
      let token ← peek fuel
      let line := (← get).line
      match token with
      | .word [.text name false] =>
          if !isName name then fail .badLoopVariable
          drop
          skipNewlines fuel
          let token ← peekReplaced fuel
          let words ←
            if reserved? token == some "in" then
              drop
              let words ← readWords fuel []
              let token ← peek fuel
              match token with
              | .newline => pure ()
              | token => if !isSign ";" token then unexpected token none
              drop
              pure (some words.reverse)
            else
              if isSign ";" token then drop
              pure none
          skipNewlines fuel
          expectReserved fuel "do"
          let body ← readBody fuel
          expectReserved fuel "done"
          return .each line name words body
      | _ => fail .badLoopVariable
termination_by structural fuel => fuel

def readBranches : (fuel : Nat) → Reader (List (List Word × Command))
  | 0 => failAtEnd .unterminatedQuote
  | fuel + 1 => do
      let token ← peek fuel
      if reserved? token == some "esac" then
        drop
        return []
      if isSign "(" token then drop
      let patterns ← readPatterns fuel
      let body ← readList fuel
      let token ← peekReplaced fuel
      if reserved? token == some "esac" then
        drop
        return [(patterns, body)]
      if !isSign ";;" token then unexpected token (some (inDoubleQuotes ";;"))
      drop
      skipNewlines fuel
      return (patterns, body) :: (← readBranches fuel)
termination_by structural fuel => fuel

/-- A list of commands with its documents; what else may follow it does not count. -/
def readWhole : (fuel : Nat) → Reader Command
  | 0 => failAtEnd .unterminatedQuote
  | fuel + 1 => do
      let (command, documents) ← apart do
        let command ← readList fuel
        endLine fuel
        return command
      return command.withDocuments documents
termination_by structural fuel => fuel

end

/-!
# Scripts
-/

/-- The rest of a line of commands; `size` bounds how they are nested. -/
def readLine (size : Nat) : (fuel : Nat) → Reader Command
  | 0 => failAtEnd .unterminatedQuote
  | fuel + 1 => do
      let first ← readAndOr size
      let token ← peek size
      match token with
      | .newline =>
          endLine size
          return first
      | .finish => return first
      | token =>
          let isBackground := isSign "&" token
          if !isBackground && !isSign ";" token then unexpected token none
          drop
          let first := if isBackground then .background first else first
          match ← peekReplaced size with
          | .newline =>
              endLine size
              return first
          | .finish => return first
          | _ => return .sequence first (← readLine size fuel)

def sizeOf (source : Source) : Nat :=
  let replaced := Text.total (source.aliases.map fun (_, value) => value.length + 1)
  16 * (source.rest.length + 1) * (replaced + 1) + 64

end Reader

namespace Source

/-- The next line of commands, unless none is left, and the source after it. -/
def next? (source : Source) : Except Mistake (Option (Command × Source)) :=
  let size := Reader.sizeOf source
  let read : Reader (Option Command) := do
    Reader.skipNewlines size
    match ← Reader.peekReplaced size with
    | .finish => return none
    | _ =>
        let (command, documents) ← Reader.apart (Reader.readLine size size)
        return some (command.withDocuments documents)
  match read.run source with
  | .error mistake => .error mistake
  | .ok (command, rest) => .ok (command.map (·, rest))

def documentParts? (source : Source) : Option Word :=
  ((Reader.readParts (Reader.sizeOf source) .document).run' source).toOption

end Source
end Shell
end StubAssist

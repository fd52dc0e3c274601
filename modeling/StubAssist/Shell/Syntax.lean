import StubAssist.Text

/-!
# Shell scripts

What a shell script is made of: words, whose parts are expanded when they are
used, and commands.
-/

namespace StubAssist
namespace Shell

inductive Modifier where
  | useDefault
  | assignDefault
  | demand
  | useAlternative
  | dropStart (longest : Bool)
  | dropEnd (longest : Bool)
deriving DecidableEq, Repr

mutual

inductive Part where
  | text (content : Text) (isQuoted : Bool)
  | parameter (name : Text) (isQuoted : Bool)
  | length (name : Text) (isQuoted : Bool)
  | modified (name : Text) (modifier : Modifier) (emptyIsUnset : Bool) (word : List Part)
      (isQuoted : Bool)
  | output (command : Command) (isQuoted : Bool)
  | number (expression : List Part) (isQuoted : Bool)
  | faulty

inductive Redirection where
  | read (descriptor : Nat) (source : List Part)
  | write (descriptor : Nat) (target : List Part) (isForced : Bool)
  | append (descriptor : Nat) (target : List Part)
  | update (descriptor : Nat) (target : List Part)
  /-- Makes a descriptor another name for the one that the word names, or closes it. -/
  | duplicate (descriptor : Nat) (source : List Part)
  | here (descriptor : Nat) (text : List Part)
  | ordered (descriptor number : Nat)

inductive Command where
  | simple (line : Nat) (assignments : List (Text × List Part)) (words : List (List Part))
      (redirections : List Redirection)
  | redirected (line : Nat) (command : Command) (redirections : List Redirection)
  | sequence (first second : Command)
  | both (first second : Command)
  | either (first second : Command)
  | negated (command : Command)
  | pipe (first second : Command)
  | background (command : Command)
  | subshell (command : Command)
  | conditional (test yes no : Command)
  | loop (whileSuccess : Bool) (test body : Command)
  | each (line : Nat) (name : Text) (words : Option (List (List Part))) (body : Command)
  | choice (line : Nat) (subject : List Part) (branches : List (List (List Part) × Command))
  | function (name : Text) (body : Command)
  | nothing

end

abbrev Word := List Part

def Redirection.descriptor : Redirection → Nat
  | .read n _ | .write n _ _ | .append n _ | .update n _ | .duplicate n _ => n
  | .here n _ | .ordered n _ => n

/-- Puts a document in the place of its number; one that never came is empty. -/
def Redirection.withDocuments (documents : List Word) : Redirection → Redirection
  | .ordered descriptor number => .here descriptor (documents[number]?.getD [])
  | redirection => redirection

mutual

def Command.withDocuments (documents : List Word) : Command → Command
  | .simple line assignments words redirections =>
      .simple line assignments words (redirections.map (·.withDocuments documents))
  | .redirected line command redirections =>
      .redirected line (command.withDocuments documents)
        (redirections.map (·.withDocuments documents))
  | .sequence first second =>
      .sequence (first.withDocuments documents) (second.withDocuments documents)
  | .both first second => .both (first.withDocuments documents) (second.withDocuments documents)
  | .either first second =>
      .either (first.withDocuments documents) (second.withDocuments documents)
  | .negated command => .negated (command.withDocuments documents)
  | .pipe first second => .pipe (first.withDocuments documents) (second.withDocuments documents)
  | .background command => .background (command.withDocuments documents)
  | .subshell command => .subshell (command.withDocuments documents)
  | .conditional test yes no =>
      .conditional (test.withDocuments documents) (yes.withDocuments documents)
        (no.withDocuments documents)
  | .loop whileSuccess test body =>
      .loop whileSuccess (test.withDocuments documents) (body.withDocuments documents)
  | .each line name words body => .each line name words (body.withDocuments documents)
  | .choice line subject branches =>
      .choice line subject (branchesWithDocuments documents branches)
  | .function name body => .function name (body.withDocuments documents)
  | .nothing => .nothing

def branchesWithDocuments (documents : List Word) :
    List (List Word × Command) → List (List Word × Command)
  | [] => []
  | (patterns, body) :: rest =>
      (patterns, body.withDocuments documents) :: branchesWithDocuments documents rest

end

inductive SyntaxError where
  | unterminatedQuote
  | unterminatedBackquote
  | missingBrace
  | missingParentheses
  | badLoopVariable
  | badFunctionName
  | badDescriptor
  | unexpected (token : Text) (expected : Option Text)
deriving DecidableEq, Repr

namespace SyntaxError

def message : SyntaxError → Text
  | unterminatedQuote => "Syntax error: Unterminated quoted string"
  | unterminatedBackquote => "Syntax error: EOF in backquote substitution"
  | missingBrace => "Syntax error: Missing '\x7d'"
  | missingParentheses => "Syntax error: Missing '))'"
  | badLoopVariable => "Syntax error: Bad for loop variable"
  | badFunctionName => "Syntax error: Bad function name"
  | badDescriptor => "Syntax error: Bad fd number"
  | unexpected token none => "Syntax error: " ++ token ++ " unexpected"
  | unexpected token (some expected) =>
      "Syntax error: " ++ token ++ " unexpected (expecting " ++ expected ++ ")"

end SyntaxError

def inQuoteParts : (fuel : Nat) → Text → Text
  | 0, _ => []
  | fuel + 1, t =>
      let plain := t.takeWhile (· != '\'')
      let quotes := (t.drop plain.length).takeWhile (· == '\'')
      let rest := t.drop (plain.length + quotes.length)
      '\'' :: plain ++ '\'' ::
        if quotes.isEmpty then []
        else '"' :: quotes ++ '"' :: if rest.isEmpty then [] else inQuoteParts fuel rest

/-- A text in quotes that hide everything in it: single ones, or double ones for those. -/
def inFullQuotes (t : Text) : Text :=
  inQuoteParts (t.length + 1) t

/-!
# Names
-/

def specialCommands : List Text :=
  [".", ":", "break", "continue", "eval", "exec", "exit", "export", "local", "readonly",
    "return", "set", "shift", "times", "trap", "unset"]

def isNameStart (c : Char) : Bool :=
  c.isAlpha || c == '_'

def isNameRest (c : Char) : Bool :=
  c.isAlphanum || c == '_'

def isName : Text → Bool
  | [] => false
  | c :: rest => isNameStart c && rest.all isNameRest

def isSpecialName (c : Char) : Bool :=
  List.contains ("@*#?-$!".toList) c || c.isDigit

end Shell
end StubAssist

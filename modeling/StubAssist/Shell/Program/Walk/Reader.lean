import StubAssist.Shell.Calendar
import StubAssist.Shell.Regex.Reader
import StubAssist.Shell.Rights
import StubAssist.Shell.Program
import StubAssist.Shell.Program.Walk.Expression

/-!
# Reading what to do on a walk

Arguments are read one after the other, with their flaws, and then put together to an
expression.
-/

namespace StubAssist
namespace Shell
namespace Program

open Activity

namespace Walk

/-- A part of an expression with the word that it was written as. -/
inductive Token where
  | part (body : Expression)
  | negation (word : Text)
  | opening
  | closing
  | conjunction (word : Text)
  | disjunction (word : Text)
  | comma
deriving Repr

inductive Notation where
  /-- Like the basic one, with a plus sign and a question mark that need no backslash. -/
  | plain
  | basic
  | extended
deriving DecidableEq, Repr

structure Draft where
  rest : List Text
  route : Route
  style : Notation
  tokens : List Token
  isComplete : Bool
  gathered : List (Nat × List Text × Bool)
  targets : List Text
  last : Option Text

abbrev Drafting := StateT Draft Activity

def refuse {α : Type} (complaint : Text) : Drafting α :=
  fail 1 complaint

def argument (option : Text) : Drafting Text := do
  let draft ← get
  match draft.rest with
  | t :: rest =>
      set { draft with rest := rest }
      return t
  | [] => refuse ("missing argument to \x60" ++ option ++ "'")

def misread {α : Type} (option t : Text) : Drafting α :=
  refuse ("invalid argument \x60" ++ t ++ "' to \x60" ++ option ++ "'")

def push (token : Token) : Drafting Unit :=
  modify fun draft => { draft with tokens := token :: draft.tokens }

def ask (question : Question) : Drafting Unit :=
  push (.part (.question question))

def act (action : Action) : Drafting Unit := do
  push (.part (.action action))
  modify fun draft => { draft with isComplete := draft.isComplete || action.isComplete }

def setRoute (change : Route → Route) : Drafting Unit := do
  modify fun draft => { draft with route := change draft.route }
  ask (.always true)

/-!
# Arguments of questions
-/

def amount? (t : Text) : Option Amount := do
  let (relation, digits) : Relation × Text :=
    match t with
    | '+' :: digits => (.more, digits)
    | '-' :: digits => (.less, digits)
    | digits => (.equal, digits)
  if digits.isEmpty then none
  let count ← Text.digitsFrom? 0 digits
  return ⟨relation, count⟩

def amount (option : Text) : Drafting Amount := do
  let t ← argument option
  match amount? t with
  | some amount => return amount
  | none => misread option t

def sizeUnit? (c : Char) : Option Nat :=
  match c with
  | 'b' => some 512
  | 'c' => some 1
  | 'w' => some 2
  | 'k' => some 1024
  | 'M' => some (Nat.pow 1024 2)
  | 'G' => some (Nat.pow 1024 3)
  | _ => none

def size (option : Text) : Drafting Question := do
  let t ← argument option
  match t.getLast? with
  | none => refuse ("invalid null argument to " ++ option)
  | some last =>
      let unit ←
        if last.isDigit then pure none
        else
          match sizeUnit? last with
          | some unit => pure (some unit)
          | none => refuse ("invalid " ++ option ++ " type \x60" ++ last :: "'".toList)
      match amount? (if unit.isSome then t.dropLast else t) with
      | some amount => return .size amount (unit.getD 512)
      | none => refuse ("Invalid argument \x60" ++ t ++ "' to " ++ option)

def kindLetters (option : Text) : (found : Text) → Text → Drafting Text
  | found, [] => return found
  | found, c :: rest => do
      if !List.contains "bcdpflsD".toList c then
        refuse ("Unknown argument to " ++ option ++ ": " ++ [c])
      if List.contains found c then
        refuse ("Duplicate file type '" ++ c :: "' in the argument list to ".toList ++
          option ++ ".")
      match rest with
      | [] => return c :: found
      | [','] =>
          refuse ("Last file type in list argument to " ++ option ++
            " is missing, i.e., list is ending on: ','")
      | ',' :: rest => kindLetters option (c :: found) rest
      | _ => refuse ("Must separate multiple arguments to " ++ option ++ " using: ','")

def kind (option : Text) : Drafting Question := do
  let t ← argument option
  if t.isEmpty then
    refuse ("Arguments to " ++ option ++ " should contain at least one letter")
  return .kind (← kindLetters option [] t) (option == "-xtype")

def rights (option : Text) : Drafting Question := do
  let t ← argument option
  let (share, mode) : Share × Text :=
    match t with
    | '-' :: mode => (.all, mode)
    | '/' :: mode => (.any, mode)
    | mode => (.exactly, mode)
  let bits? : Option Nat :=
    if !mode.isEmpty && mode.all Rights.isOctalDigit then some (Rights.octal mode)
    else (Rights.parse? mode).map fun changes => Rights.apply false 0 changes 0
  match bits? with
  | some bits =>
      if mode.isEmpty || Rights.all < bits then refuse ("invalid mode " ++ quote t)
      return .rights bits share
  | none => refuse ("invalid mode " ++ quote t)

def otherOwners : List Text :=
  partsAt ' ' ("daemon bin sys sync games man lp mail news uucp proxy www-data backup list irc " ++
    "_apt nobody nogroup adm tty disk users staff").toList

def owner (option what : Text) : Drafting Question := do
  let t ← argument option
  if t == "root" then return .always true
  else if otherOwners.contains t then return .always false
  else if !t.isEmpty && t.all Char.isDigit then
    return .always (Text.digitsFrom? 0 t == some 0)
  else refuse (quote t ++ " is not the name of a known " ++ what)

def asBasic : (fuel : Nat) → Text → Text
  | 0, _ => []
  | _, [] => []
  | fuel + 1, '\\' :: c :: rest =>
      (if c == '+' || c == '?' then ['[', c, ']']
        else if c == '\x7b' || c == '\x7d' then [c]
        else ['\\', c]) ++ asBasic fuel rest
  | fuel + 1, '[' :: rest =>
      let start := rest.takeWhile (· == '^')
      let (first, rest) := match rest.drop start.length with
        | ']' :: rest => ([']'], rest)
        | rest => ([], rest)
      let inside := rest.takeWhile (· != ']')
      '[' :: start ++ first ++ inside ++ (rest.drop inside.length).take 1 ++
        asBasic fuel (rest.drop (inside.length + 1))
  | fuel + 1, c :: rest =>
      (if c == '+' || c == '?' then ['\\', c] else [c]) ++ asBasic fuel rest

def matching (option : Text) (ignoresCase : Bool) : Drafting Question := do
  let t ← argument option
  let (dialect, written) :=
    match (← get).style with
    | .plain => (Regex.Dialect.basic, asBasic (t.length + 1) t)
    | .basic => (Regex.Dialect.basic, t)
    | .extended => (Regex.Dialect.extended, t)
  match Regex.parse dialect written with
  | .ok regex => return .matching (if ignoresCase then regex.foldCase else regex) ignoresCase
  | .error flaw =>
      refuse ("failed to compile regular expression " ++ quote t ++ ": " ++ flaw.message)

def styleNames : List (Text × Notation) :=
  [("findutils-default", .plain), ("ed", .basic), ("emacs", .plain), ("gnu-awk", .extended),
    ("grep", .basic), ("posix-awk", .extended), ("awk", .extended), ("posix-basic", .basic),
    ("posix-egrep", .extended), ("egrep", .extended), ("posix-extended", .extended),
    ("posix-minimal-basic", .basic), ("sed", .basic)]

def setStyle (option : Text) : Drafting Unit := do
  let t ← argument option
  match styleNames.lookup t with
  | some style =>
      modify fun draft => { draft with style := style }
      ask (.always true)
  | none =>
      let names := styleNames.map fun (name, _) => quote name
      refuse ("Unknown regular expression type " ++ quote t ++ "; valid types are " ++
        Text.joinWith ", ".toList names ++ ".")

def pattern (option : Text) : Drafting Pattern := do
  return Pattern.ofArgument (← argument option)

def reference (option : Text) : Drafting (Location × Node) := do
  let t ← argument option
  match (← files).lookup t with
  | .ok found => return found
  | .error error => refuse (quote t ++ ": " ++ reason error)

def depth (option : Text) : Drafting Nat := do
  let t ← argument option
  match if t.isEmpty then none else Text.digitsFrom? 0 t with
  | some n => return n
  | none =>
      refuse ("Expected a positive decimal integer argument to " ++ option ++ ", but got " ++
        quote t)

/-!
# Arguments of actions
-/

/-- The words of a program up to the mark that ends them, and whether it is for many files. -/
def programWords? : (found : List Text) → List Text → Option (List Text × Bool × List Text)
  | _, [] => none
  | found, t :: rest =>
      if t == ";" then
        if found.isEmpty then none else some (found.reverse, false, rest)
      else if t == "+" && found.head? == some "\x7b\x7d".toList then
        some (found.reverse, true, rest)
      else programWords? (t :: found) rest

def holdsMark : Text → Bool
  | [] => false
  | c :: rest => "\x7b\x7d".toList.isPrefixOf (c :: rest) || holdsMark rest

def program (option : Text) (isInside asks : Bool) : Drafting Unit := do
  let draft ← get
  match programWords? [] draft.rest with
  | none => refuse ("missing argument to \x60" ++ option ++ "'")
  | some (words, isGathered, rest) =>
      set { draft with rest := rest }
      if !isGathered then act (if asks then .ask words else .run words isInside)
      else if 1 < (words.filter holdsMark).length then
        refuse ("Only one instance of \x7b\x7d is supported with " ++ option ++ " ... +")
      else
        let index := draft.gathered.length
        modify fun draft =>
          { draft with gathered := draft.gathered ++ [(index, words.dropLast, isInside)] }
        act (.gather index words.dropLast isInside)

def target (option : Text) : Drafting Text := do
  let t ← argument option
  modify fun draft => { draft with targets := draft.targets ++ [t] }
  return t

def timeDirectives : Text := "ABCT"

def directives : Text := "abcdDfFgGhHiklmMnpPsStuUyYZ"

/-- The warnings that a template brings about; `none` if it ends too early. -/
def templateWarnings : (fuel : Nat) → Text → Option (List Text)
  | 0, _ => some []
  | _, [] => some []
  | _, ['%'] => none
  | fuel + 1, '%' :: '%' :: rest => templateWarnings fuel rest
  | fuel + 1, '%' :: rest =>
      let after := rest.dropWhile fun c => c.isDigit || List.contains "-+ #.".toList c
      match after with
      | [] => none
      | c :: after =>
          if List.contains timeDirectives c then templateWarnings fuel (after.drop 1)
          else if List.contains directives c then templateWarnings fuel after
          else
            let shown := '%' :: rest.take (rest.length - after.length)
            (templateWarnings fuel after).map
              (("unrecognized format directive \x60" ++ shown ++ "'") :: ·)
  | _, ['\\'] => some ["escape \x60\\' followed by nothing at all"]
  | fuel + 1, '\\' :: c :: rest =>
      let more := templateWarnings fuel rest
      if List.contains "abfnrtvc\\01234567".toList c then more
      else more.map (("unrecognized escape \x60\\" ++ [c, '\'']) :: ·)
  | fuel + 1, _ :: rest => templateWarnings fuel rest

def template (option : Text) : Drafting Text := do
  let t ← argument option
  match templateWarnings (t.length + 1) t with
  | some warnings =>
      for warning in warnings do remark ("warning: " ++ warning)
      return t
  | none => refuse "error: % at end of format string"

/-!
# Words
-/

/-- The kind of time that a letter stands for; all times are the same here. -/
def isTimeLetter (c : Char) : Bool :=
  c == 'a' || c == 'B' || c == 'c' || c == 'm'

def comparedTime (option : Text) (letters : Text) : Drafting Question := do
  match letters with
  | [x, 't'] =>
      if !isTimeLetter x then refuse ("unknown predicate \x60" ++ option ++ "'")
      let t ← argument option
      let seconds : Int := (← now) / 1000
      match Moment.parse? seconds t with
      | some n => return .newerThan (n * 1000).toNat
      | none => refuse ("I cannot figure out how to interpret " ++ quote t ++ " as a date or time")
  | [x, y] =>
      if !(isTimeLetter x && isTimeLetter y) then
        refuse ("unknown predicate \x60" ++ option ++ "'")
      return .newerThan (← reference option).2.attributes.time
  | _ => refuse ("unknown predicate \x60" ++ option ++ "'")

def day : Nat := 86400000

/-- Reads a question about the name or the kind of a file; whether it is one. -/
def readNameQuestion (word : Text) : Drafting Bool := do
  let name := (String.ofList word : String)
  match name with
  | "-name" => ask (.name (← pattern word) false)
  | "-iname" => ask (.name (← pattern word) true)
  | "-path" | "-wholename" => ask (.path (← pattern word) false)
  | "-ipath" | "-iwholename" => ask (.path (← pattern word) true)
  | "-lname" => ask (.target (← pattern word) false)
  | "-ilname" => ask (.target (← pattern word) true)
  | "-regex" => ask (← matching word false)
  | "-iregex" => ask (← matching word true)
  | "-type" | "-xtype" => ask (← kind word)
  | _ => return false
  return true

def readQuestion (word : Text) : Drafting Bool := do
  let name := (String.ofList word : String)
  match name with
  | "-true" => ask (.always true)
  | "-false" | "-nouser" | "-nogroup" => ask (.always false)
  | "-empty" => ask .empty
  | "-size" => ask (← size word)
  | "-mtime" | "-atime" | "-ctime" => ask (.age (← amount word) day)
  | "-mmin" | "-amin" | "-cmin" => ask (.age (← amount word) 60000)
  | "-newer" | "-anewer" | "-cnewer" =>
      ask (.newerThan (← reference word).2.attributes.time)
  | "-perm" => ask (← rights word)
  | "-readable" | "-writable" => ask (.permits 0o666)
  | "-executable" => ask (.permits 0o111)
  | "-links" => ask (.links (← amount word))
  | "-samefile" => ask (.isAt (← reference word).1)
  | "-inum" => do
      let _ ← amount word
      ask (.always false)
  | "-user" => ask (← owner word "user")
  | "-group" => ask (← owner word "group")
  | "-uid" | "-gid" => ask (.always ((← amount word).admits 0))
  | _ =>
      match Text.afterPrefix? "-newer" word with
      | some letters => ask (← comparedTime word letters)
      | none => return false
  return true

def readRoute (word : Text) : Drafting Bool := do
  let name := (String.ofList word : String)
  match name with
  | "-maxdepth" => do
      let n ← depth word
      setRoute fun route => { route with most := some n }
  | "-mindepth" => do
      let n ← depth word
      setRoute fun route => { route with least := n }
  | "-depth" | "-d" => setRoute fun route => { route with goesUp := true }
  | "-follow" =>
      setRoute fun route => { route with followsOperands := true, followsAll := true }
  | "-regextype" => setStyle word
  | "-daystart" | "-mount" | "-xdev" | "-noleaf" | "-warn" | "-nowarn"
  | "-ignore_readdir_race" | "-noignore_readdir_race" => ask (.always true)
  | _ => return false
  return true

def readAction (word : Text) : Drafting Bool := do
  let name := (String.ofList word : String)
  match name with
  | "-print" => act (.print '\n' none)
  | "-print0" => act (.print '\x00' none)
  | "-fprint" => act (.print '\n' (some (← target word)))
  | "-fprint0" => act (.print '\x00' (some (← target word)))
  | "-printf" => act (.format (← template word) none)
  | "-fprintf" => do
      let path ← target word
      act (.format (← template word) (some path))
  | "-ls" => act .list
  | "-delete" => do
      modify fun draft => { draft with route := { draft.route with goesUp := true } }
      act .delete
  | "-prune" => act .prune
  | "-quit" => act .quit
  | "-exec" => program word false false
  | "-execdir" => program word true false
  | "-ok" | "-okdir" => program word false true
  | _ => return false
  return true

def readOperator (word : Text) : Drafting Bool := do
  let name := (String.ofList word : String)
  match name with
  | "!" | "-not" => push (.negation word)
  | "(" => push .opening
  | ")" => push .closing
  | "-a" | "-and" => push (.conjunction word)
  | "-o" | "-or" => push (.disjunction word)
  | "," => push .comma
  | _ => return false
  return true

/-- Whether an argument belongs to the expression, where paths can stand or after them. -/
def startsExpression (isPath : Bool) (t : Text) : Bool :=
  match t with
  | '-' :: _ :: _ => true
  | ['('] | ['!'] => true
  | [')'] | [','] => !isPath
  | _ => false

def readWords : (fuel : Nat) → Drafting Unit
  | 0 => return ()
  | fuel + 1 => do
      let draft ← get
      match draft.rest with
      | [] => return ()
      | word :: rest =>
          if !startsExpression false word then
            remark ("paths must precede expression: \x60" ++ word ++ "'")
            match draft.last with
            | some last =>
                if (← files).exists? word then
                  remark ("possible unquoted pattern after predicate \x60" ++ last ++ "'?")
            | none => pure ()
            exit 1
          set { draft with rest := rest }
          if ← readOperator word then readWords fuel
          else
            modify fun draft => { draft with last := some word }
            if ← readNameQuestion word then readWords fuel
            else if ← readQuestion word then readWords fuel
            else if ← readRoute word then readWords fuel
            else if ← readAction word then readWords fuel
            else refuse ("unknown predicate \x60" ++ word ++ "'")

/-!
# Putting an expression together
-/

def missingPart (before found : Option Token) : Text :=
  let after := fun (word : Text) => "expected an expression after '" ++ word ++ "'"
  let between := fun (word : Text) => "expected an expression between '" ++ word ++ "' and ')'"
  let lonely := fun (word : Text) =>
    "invalid expression; you have used a binary operator '" ++ word ++ "' with nothing before it."
  match found, before with
  | none, some (.negation word) | none, some (.conjunction word)
  | none, some (.disjunction word) => after word
  | none, some .comma => after ","
  | none, some .opening =>
      "invalid expression; expected to find a ')' but didn't see one. ".toList ++
        "Perhaps you need an extra predicate after '('"
  | none, _ => "invalid expression"
  | some .closing, some .opening => "invalid expression; empty parentheses are not allowed."
  | some .closing, some (.negation word) | some .closing, some (.conjunction word)
  | some .closing, some (.disjunction word) => between word
  | some .closing, some .comma => between ","
  | some .closing, _ => "invalid expression; you have too many ')'"
  | some (.conjunction word), _ | some (.disjunction word), _ => lonely word
  | some .comma, _ => lonely ","
  | some _, _ => "invalid expression"

inductive Binding where
  | list
  | either
  | both
  | single
deriving DecidableEq, Repr

def Binding.next : Binding → Binding
  | .list => .either
  | .either => .both
  | .both | .single => .single

/--
Puts operands together that are joined by operators of a binding, or the single part after
a token; `fuel` bounds the tokens.
-/
def assemble : (fuel : Nat) → Binding → (before : Option Token) → (left : Option Expression) →
    List Token → Except Text (Expression × List Token)
  | 0, _, _, _, _ => .error "invalid expression"
  | fuel + 1, .single, before, _, tokens =>
      match tokens with
      | .part body :: rest => .ok (body, rest)
      | .negation word :: rest => do
          let (body, rest) ← assemble fuel .single (some (.negation word)) none rest
          return (.negated body, rest)
      | .opening :: rest => do
          let (body, rest) ← assemble fuel .list (some .opening) none rest
          match rest with
          | .closing :: rest => return (body, rest)
          | _ =>
              throw ("invalid expression; I was expecting to find a ')' somewhere but did not " ++
                "see one.").toList
      | token :: _ => throw (missingPart before (some token))
      | [] => throw (missingPart before none)
  | fuel + 1, binding, before, none, tokens => do
      let (left, rest) ← assemble fuel binding.next before none tokens
      assemble fuel binding before (some left) rest
  | fuel + 1, binding, before, some left, tokens => do
      let goOn := fun (token : Option Token) (rest : List Token)
          (join : Expression → Expression → Expression) => do
        let (right, rest) ← assemble fuel binding.next token none rest
        assemble fuel binding before (some (join left right)) rest
      match binding, tokens with
      | .list, .comma :: rest => goOn (some .comma) rest .list
      | .either, .disjunction word :: rest => goOn (some (.disjunction word)) rest .either
      | .both, .conjunction word :: rest => goOn (some (.conjunction word)) rest .both
      | .both, .part body :: rest => goOn none (.part body :: rest) .both
      | .both, .negation word :: rest => goOn none (.negation word :: rest) .both
      | .both, .opening :: rest => goOn none (.opening :: rest) .both
      | _, _ => return (left, tokens)

/-- Whether something is missing after a token, of which nobody says what it is. -/
def isVague : Token → Bool
  | .negation _ | .conjunction _ | .disjunction _ | .comma => true
  | _ => false

/--
The expression that tokens make up; without any it is always true.  One that is complete
has nothing after it that would say what is missing at its end.
-/
def expressionOf (isComplete : Bool) (tokens : List Token) : Except Text Expression := do
  if tokens.isEmpty then return .question (.always true)
  let fuel := 8 * tokens.length + 16
  match assemble fuel .list none none tokens with
  | .ok (body, []) => return body
  | .ok (_, .closing :: _) => throw "you have too many ')'".toList
  | .ok (_, _) => throw "unexpected extra predicate".toList
  | .error flaw =>
      let endsVaguely := isComplete && (tokens.getLast?.map isVague).getD false
      throw (if endsVaguely && "expected".toList.isPrefixOf flaw then "invalid expression".toList
        else flaw)

/-!
# Arguments
-/

def readOptions : (fuel : Nat) → Drafting Unit
  | 0 => return ()
  | fuel + 1 => do
      let draft ← get
      let follow := fun (operands all : Bool) (rest : List Text) =>
        set { draft with
          rest := rest
          route := { draft.route with followsOperands := operands, followsAll := all } }
      match draft.rest with
      | ['-', 'H'] :: rest =>
          follow true false rest
          readOptions fuel
      | ['-', 'L'] :: rest =>
          follow true true rest
          readOptions fuel
      | ['-', 'P'] :: rest =>
          follow false false rest
          readOptions fuel
      | ['-', '-'] :: rest => set { draft with rest := rest }
      | ['-', 'D'] :: rest =>
          match rest with
          | _ :: rest =>
              set { draft with rest := rest }
              readOptions fuel
          | [] =>
              remark "Missing argument after the -D option."
              hint
              exit 1
      | ('-' :: 'O' :: digits) :: rest =>
          if digits.isEmpty then
            refuse ("The -O option must be immediately followed by a decimal integer")
          set { draft with rest := rest }
          readOptions fuel
      | _ => return ()

def plan (arguments : List Text) : Activity Plan := do
  let fuel := arguments.length + 1
  let reading : Drafting Plan := do
    readOptions fuel
    let draft ← get
    let paths := draft.rest.takeWhile fun t => !startsExpression true t
    set { draft with rest := draft.rest.drop paths.length }
    readWords fuel
    let draft ← get
    match expressionOf draft.isComplete draft.tokens.reverse with
    | .error flaw => refuse flaw
    | .ok body =>
        return {
          paths := if paths.isEmpty then [['.']] else paths
          route := draft.route
          expression :=
            if draft.isComplete then body else .both body (.action (.print '\n' none))
          gathered := draft.gathered
          targets := draft.targets }
  let draft : Draft :=
    { rest := arguments, route := ⟨false, false, 0, none, false⟩, style := .plain, tokens := [],
      isComplete := false, gathered := [], targets := [], last := none }
  let (plan, _) ← reading.run draft
  return plan

end Walk
end Program
end Shell
end StubAssist

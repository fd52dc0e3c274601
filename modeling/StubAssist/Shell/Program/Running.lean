import StubAssist.Shell.Fraction
import StubAssist.Shell.Program
import StubAssist.Shell.Signal

/-!
# Programs that run others

They change what another program finds when it starts, or how long it can run.
-/

namespace StubAssist
namespace Shell
namespace Program

open Activity

def succeed : Program := fun _ => return ()

def lose : Program := fun _ => setStatus 1

/-!
# Waiting
-/

inductive Duration where
  | millis (count : Nat)
  | endless
deriving DecidableEq, Repr

def Duration.read? (t : Text) : Option Duration := do
  let (isNegative, value, _, rest) ← Fraction.read? t
  let unit ← match rest with
    | [] | ['s'] => some 1
    | ['m'] => some 60
    | ['h'] => some 3600
    | ['d'] => some 86400
    | _ => none
  match value with
  | .infinite => if isNegative then none else some .endless
  | .notANumber => none
  | .finite numerator denominator =>
      if isNegative && numerator != 0 then none
      else some (.millis (1000 * unit * numerator / max denominator 1))

def sleep : Program := fun arguments => do
  let given ← given 1 ⟨[], [], false⟩ arguments
  demandOperand given.operands
  let bad := given.operands.filter fun t => (Duration.read? t).isNone
  for t in bad do remark ("invalid time interval " ++ quote t)
  if !bad.isEmpty then
    hint
    exit 1
  for t in given.operands do
    match Duration.read? t with
    | some (.millis count) => pause count
    | some .endless => continueForever
    | none => pure ()

/-!
# Other surroundings
-/

def words : (quote : Option Char) → (word : Option Text) → Text → Except Text (List Text)
  | some _, _, [] => .error "no terminating quote in -S string"
  | none, word, [] => .ok ((word.map List.reverse).toList)
  | quote, word, '\\' :: c :: rest => words quote (some (c :: word.getD [])) rest
  | some quote, word, c :: rest =>
      if c == quote then words none word rest
      else words (some quote) (some (c :: word.getD [])) rest
  | none, word, c :: rest =>
      if isSpace c then do
        return (word.map List.reverse).toList ++ (← words none none rest)
      else if c == '\'' || c == '"' then words (some c) (some (word.getD [])) rest
      else if c == '#' && word.isNone then .ok []
      else if c == '$' then
        .error ("only $\x7bVARNAME\x7d expansion is supported, error at: ".toList ++ c :: rest)
      else words none (some (c :: word.getD [])) rest

def splitArguments : (fuel : Nat) → List Text → Except Text (List Text)
  | 0, arguments => .ok arguments
  | _, [] => .ok []
  | fuel + 1, argument :: rest =>
      let inside? :=
        (Text.afterPrefix? "--split-string=" argument).or <|
          match argument with
          | '-' :: 'S' :: t => some t
          | '-' :: 'v' :: 'S' :: t => some t
          | _ => none
      match inside?, rest with
      | some [], t :: rest => do splitArguments fuel ((← words none none t) ++ rest)
      | some t, rest => do splitArguments fuel ((← words none none t) ++ rest)
      | none, rest =>
          if argument.head? == some '-' && argument != "-" && argument != "--" then do
            return argument :: (← splitArguments fuel rest)
          else .ok (argument :: rest)

/-- Runs a program in a directory, with changed variables, or shows the variables. -/
def env : Program := fun arguments => do
  let forms : OptionForms :=
    { letters := "+C:iS:u:v0"
      words := [("ignore-environment", 'i', .no), ("null", '0', .no), ("unset", 'u', .yes),
        ("chdir", 'C', .yes), ("default-signal", 'd', .maybe), ("ignore-signal", 'g', .maybe),
        ("block-signal", 'b', .maybe), ("list-signal-handling", 'l', .no), ("debug", 'v', .no),
        ("split-string", 'S', .yes)]
      isOrdered := true }
  let arguments ←
    match splitArguments (2 * arguments.length + 8) arguments with
    | .ok arguments => pure arguments
    | .error flaw => fail 125 flaw
  let given ← given 125 forms arguments
  let isBare := given.operands.head? == some ['-']
  let operands := if isBare then given.operands.drop 1 else given.operands
  let seen := (← surroundings).environment
  let mut environment := if isBare || given.has 'i' then [] else seen
  for name in given.values 'u' do
    if name.isEmpty || List.contains name '=' then
      fail 125 ("cannot unset " ++ quote name ++ ": " ++ reason .invalidArgument)
    environment := Variables.erase environment name
  let assignments := operands.takeWhile (List.contains · '=')
  for assignment in assignments do
    match Text.splitFirst '=' assignment with
    | some (name, value) => environment := Variables.set environment name value
    | none => pure ()
  match operands.drop assignments.length with
  | [] =>
      if (given.value? 'C').isSome then misuse 125 "must specify command with --chdir (-C)"
      let ending : Char := if given.has '0' then '\x00' else '\n'
      for (name, value) in environment do print (name ++ '=' :: value ++ [ending])
  | name :: arguments =>
      if given.has '0' then misuse 125 "cannot specify --null (-0) with command"
      match given.value? 'C' with
      | some path =>
          match (← files).enter path with
          | .ok files => setFiles files
          | .error error =>
              fail 125 ("cannot change directory to " ++ quoteName path ++ ": " ++ reason error)
      | none => pure ()
      let error ← become (.plain name arguments environment)
      remark (quote name ++ ": " ++ reason error)
      if error == .notFound && name.any isSpace then
        remark "use -[v]S to pass options in shebang lines"
      exit (if error == .notFound then 127 else 126)

def handOver (complaint : Text) (errand : Errand) : Activity Unit := do
  let error ← become errand
  fail (if error == .notFound then 127 else 126) (complaint ++ ": " ++ reason error)

def runOperands (forms : OptionForms) (status : Nat) (complaint : Text → Text)
    (missing : Text) (deafTo : List Nat) (arguments : List Text) : Activity Unit := do
  let given ← given status forms arguments
  match given.operands with
  | [] => misuse status missing
  | name :: arguments =>
      let environment := (← surroundings).environment
      handOver (complaint name) { Errand.plain name arguments environment with deafTo := deafTo }

def failedToRun (name : Text) : Text :=
  "failed to run command " ++ quote name

def nohup : Program :=
  runOperands ⟨[], [], true⟩ 125 failedToRun "missing operand" [1]

def setsid : Program :=
  runOperands ⟨"cfw", [("ctty", 'c', .no), ("fork", 'f', .no), ("wait", 'w', .no)], true⟩ 1
    (fun name => "failed to execute " ++ name) "no command specified" []

def stdbuf : Program :=
  runOperands ⟨"i:o:e:", [("input", 'i', .yes), ("output", 'o', .yes), ("error", 'e', .yes)], true⟩
    125 failedToRun "missing operand" []

def nice : Program := fun arguments => do
  let given ← given 125 ⟨"n:", [("adjustment", 'n', .yes)], true⟩ arguments
  match given.value? 'n' with
  | some t =>
      let digits := match t with
        | '-' :: rest | '+' :: rest => rest
        | _ => t
      if digits.isEmpty || !digits.all Char.isDigit then
        fail 125 ("invalid adjustment " ++ quote t)
  | none => pure ()
  match given.operands with
  | [] =>
      if (given.value? 'n').isSome then misuse 125 "a command must be given with an adjustment"
      printLine ['0']
  | name :: arguments => handOver (quote name) (.plain name arguments (← surroundings).environment)

/-!
# Limits
-/

def timeout : Program := fun arguments => do
  let forms : OptionForms :=
    { letters := "fk:s:v"
      words := [("foreground", 'f', .no), ("kill-after", 'k', .yes), ("preserve-status", 'p', .no),
        ("signal", 's', .yes), ("verbose", 'v', .no)]
      isOrdered := true }
  let given ← given 125 forms arguments
  let signal ←
    match given.value? 's' with
    | none => pure 15
    | some t =>
        let plain := (Text.afterPrefix? "SIG" (t.map Char.toUpper)).getD t
        match Signal.ofText? 1 plain with
        | some n => pure n
        | none =>
            remark (quote t ++ ": invalid signal")
            hint
            exit 125
  for t in given.values 'k' do
    if (Duration.read? t).isNone then misuse 125 ("invalid time interval " ++ quote t)
  match given.operands with
  | time :: name :: arguments =>
      let limit ←
        match Duration.read? time with
        | none => misuse 125 ("invalid time interval " ++ quote time)
        | some (.millis 0) | some .endless => pure none
        | some (.millis count) => pure (some (count, signal))
      let errand := Errand.plain name arguments (← surroundings).environment
      match ← call { errand with limit := limit } with
      | .notStarted error =>
          fail (if error == .notFound then 127 else 126) (failedToRun name ++ ": " ++ reason error)
      | .ended (.code status) => setStatus status
      | .ended (.signal signal) => die signal
      | .interrupted status =>
          if given.has 'v' then
            remark ("sending signal " ++ Signal.name signal ++ " to command " ++ quote name)
          match status, signal with
          | _, 9 => die 9
          | .signal signal, _ => setStatus (if given.has 'p' then 128 + signal else 124)
          | .code status, _ => setStatus (if given.has 'p' then status else 124)
  | _ =>
      hint
      exit 125

end Program
end Shell
end StubAssist

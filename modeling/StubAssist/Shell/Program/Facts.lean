import StubAssist.Shell.Calendar
import StubAssist.Shell.Rights
import StubAssist.Shell.Program.Directories

/-!
# Facts

Programs that tell what is known of the system, of its only user, of the time and of
files.
-/

namespace StubAssist
namespace Shell
namespace Program

open Activity

/-!
# The system and its user
-/

def userName : Text := "root"

def telling (fact : Text) : Program := fun arguments => do
  let given ← given 1 ⟨[], [], false⟩ arguments
  refuseExtra 1 0 given.operands
  printLine fact

def whoami : Program :=
  telling userName

def arch : Program :=
  telling "x86_64"

def systemFacts : List (Char × Text) :=
  [('s', "Linux"), ('n', "localhost"), ('r', "6.1.0"), ('v', "#1 SMP"), ('m', "x86_64"),
    ('p', "x86_64"), ('i', "x86_64"), ('o', "GNU/Linux")]

def uname : Program := fun arguments => do
  let forms : OptionForms :=
    { letters := "asnrvmpio"
      words := [("all", 'a', .no), ("kernel-name", 's', .no), ("nodename", 'n', .no),
        ("kernel-release", 'r', .no), ("kernel-version", 'v', .no), ("machine", 'm', .no),
        ("processor", 'p', .no), ("hardware-platform", 'i', .no), ("operating-system", 'o', .no)]
      isOrdered := false }
  let given ← given 1 forms arguments
  refuseExtra 1 0 given.operands
  let isTold := fun (letter : Char) =>
    given.has letter || (given.has 'a' && letter != 'p' && letter != 'i') ||
      (given.options.isEmpty && letter == 's')
  printLine (Text.joinWith [' '] ((systemFacts.filter (isTold ·.1)).map (·.2)))

def nproc : Program := fun arguments => do
  let given ← given 1 ⟨[], [("all", 'a', .no), ("ignore", 'i', .yes)], false⟩ arguments
  refuseExtra 1 0 given.operands
  for t in given.values 'i' do
    if t.isEmpty || !t.all Char.isDigit then fail 1 ("invalid number: " ++ quote t)
  printLine ['1']

def id : Program := fun arguments => do
  let forms : OptionForms :=
    { letters := "agnruzGZ"
      words := [("context", 'Z', .no), ("group", 'g', .no), ("groups", 'G', .no),
        ("name", 'n', .no), ("real", 'r', .no), ("user", 'u', .no), ("zero", 'z', .no)]
      isOrdered := false }
  let given ← given 1 forms arguments
  let kinds := "ugG".toList.filter given.has
  if 1 < kinds.length then fail 1 "cannot print \"only\" of more than one choice"
  if kinds.isEmpty && (given.has 'r' || given.has 'n') then
    fail 1 "cannot print only names or real IDs in default format"
  if kinds.isEmpty && given.has 'z' then fail 1 "option --zero not permitted in default format"
  let ending : Char := if given.has 'z' then '\x00' else '\n'
  let all : Text := "uid=0(root) gid=0(root) groups=0(root)"
  let fact := if kinds.isEmpty then all else if given.has 'n' then userName else ['0']
  for user in if given.operands.isEmpty then [userName] else given.operands do
    if user == userName || user == "0" then print (fact ++ [ending])
    else complain (quote user ++ ": no such user")

def groups : Program := fun arguments => do
  let given ← given 1 ⟨[], [], false⟩ arguments
  if given.operands.isEmpty then printLine userName
  for user in given.operands do
    if user == userName then printLine (user ++ " : " ++ userName)
    else complain (quote user ++ ": no such user")

def logname : Program := fun arguments => do
  let given ← given 1 ⟨[], [], false⟩ arguments
  refuseExtra 1 0 given.operands
  fail 1 "no login name"

def users : Program := fun arguments => do
  let given ← given 1 ⟨[], [], false⟩ arguments
  refuseExtra 1 1 given.operands

def tty : Program := fun arguments => do
  let given ← given 2 ⟨"s", [("silent", 's', .no), ("quiet", 's', .no)], false⟩ arguments
  refuseExtra 2 0 given.operands
  if !given.has 's' then printLine "not a tty"
  setStatus 1

/-!
# Variables and programs
-/

def printenv : Program := fun arguments => do
  let given ← given 2 ⟨"0", [("null", '0', .no)], true⟩ arguments
  let environment := (← surroundings).environment
  let ending : Char := if given.has '0' then '\x00' else '\n'
  if given.operands.isEmpty then
    for (name, value) in environment do print (name ++ '=' :: value ++ [ending])
  for name in given.operands do
    match environment.lookup name with
    | some value => print (value ++ [ending])
    | none => setStatus 1

/-!
# The time
-/

def exactness : List (Text × Text) :=
  [("hours", "%H%:z"), ("minutes", "%H:%M%:z"), ("date", []), ("seconds", "%H:%M:%S%:z"),
    ("ns", "%H:%M:%S,%N%:z")]

/-- The format of a time after the first of some words that begins like a given one. -/
def exactFormat? (known : List (Text × Text)) (separator : Char) (word : Text) : Option Text := do
  let (_, added) ← known.find? fun kind => !word.isEmpty && word.isPrefixOf kind.1
  let day : Text := "%Y-%m-%d"
  return if added.isEmpty then day else day ++ separator :: added

def refuseWord {α : Type} (word option : Text) (known : List Text) : Activity α := do
  remark ("invalid argument " ++ quote word ++ " for '" ++ option ++ ['\''])
  writeTo .complaints ("Valid arguments are:\n".toList ++
    known.flatMap fun name => "  - '".toList ++ name ++ "'\n".toList)
  hint
  exit 1

def dateFormat? (option : GivenOption) : Activity (Option Text) := do
  match option.key, option.value with
  | 'R', _ => return some "%a, %d %b %Y %H:%M:%S %z".toList
  | 'I', none => return exactFormat? exactness 'T' "date"
  | 'I', some word =>
      match exactFormat? exactness 'T' word with
      | some format => return some format
      | none => refuseWord word "--iso-8601" (exactness.map (·.1))
  | '3', some word =>
      let known := exactness.drop 2
      match exactFormat? known ' ' word with
      | some format => return some (format.map fun c => if c == ',' then '.' else c)
      | none => refuseWord word "--rfc-3339" (known.map (·.1))
  | _, _ => return none

def date : Program := fun arguments => do
  let forms : OptionForms :=
    { letters := "d:f:I::r:Rs:u"
      words := [("date", 'd', .yes), ("debug", 'D', .no), ("file", 'f', .yes),
        ("iso-8601", 'I', .maybe), ("reference", 'r', .yes), ("resolution", 'e', .no),
        ("rfc-2822", 'R', .no), ("rfc-email", 'R', .no), ("rfc-3339", '3', .yes),
        ("set", 's', .yes), ("uct", 'u', .no), ("utc", 'u', .no), ("universal", 'u', .no)]
      isOrdered := false }
  let given ← given 1 forms arguments
  let mut format : Option Text := none
  for option in given.options do
    match ← dateFormat? option with
    | some found =>
        if format.isSome then fail 1 "multiple output formats specified"
        format := some found
    | none => pure ()
  let sources := "dfre".toList.filter given.has
  if 1 < sources.length then
    misuse 1 "the options to specify dates for printing are mutually exclusive"
  refuseExtra 1 1 given.operands
  match given.operands with
  | ('+' :: template) :: _ =>
      if format.isSome then fail 1 "multiple output formats specified"
      format := some template
  | operand :: _ =>
      if !sources.isEmpty then
        remark ("the argument " ++ quote operand ++ " lacks a leading '+';")
        writeTo .complaints ("when using an option to specify date(s), any non-option\n" ++
          "argument must be a format string beginning with '+'\n").toList
        hint
        exit 1
  | [] => pure ()
  let now ← now
  let seconds : Int := now / 1000
  let template := format.getD "%a %b %e %H:%M:%S %Z %Y".toList
  let tell := fun (moment : Int) (nanos : Nat) => do
    if given.has 'e' && format.isNone then printLine "0.000000001"
    else
      printLine (Moment.format (Moment.ofSeconds moment) nanos (template.length + 1) template)
  let tellOf := fun (t : Text) => do
    match Moment.parse? seconds t with
    | some moment =>
        tell moment (if t == "now" then now % 1000 * 1000000 else 0)
    | none => complain ("invalid date " ++ quote t)
  match given.value? 'd', given.value? 'f', given.value? 'r' with
  | some t, _, _ => tellOf t
  | _, some path, _ =>
      match ← contents path with
      | .ok t => for line in lines t do tellOf line
      | .error error => fail 1 (quoteTopic path ++ ": " ++ reason error)
  | _, _, some path =>
      match (← files).lookup path with
      | .ok (_, node) =>
          let time := node.attributes.time
          tell (time / 1000 : Nat) (time % 1000 * 1000000)
      | .error error => fail 1 (quoteTopic path ++ ": " ++ reason error)
  | _, _, _ =>
      match given.operands with
      | ('+' :: _) :: _ | [] => tell seconds (now % 1000 * 1000000)
      | digits :: _ =>
          let (digits, part) := match Text.splitFirst '.' digits with
            | some (digits, part) => (digits, '.' :: part)
            | none => (digits, [])
          match timeOfDigits? seconds (digits.drop 8 ++ digits.take 8 ++ part) with
          | some moment => tell moment 0
          | none => fail 1 ("invalid date " ++ quote ((given.operands.headD [])))

/-!
# Files
-/

def kindOf : Node → Text
  | .directory _ _ => "directory"
  | .file [] _ => "regular empty file"
  | .file _ _ => "regular file"
  | .link _ _ => "symbolic link"
  | .device _ => "character special file"

def kindBits : Node → Nat
  | .directory _ _ => 0o40000
  | .file _ _ => 0o100000
  | .link _ _ => 0o120000
  | .device _ => 0o20000

def kindLetter : Node → Char
  | .directory _ _ => 'd'
  | .file _ _ => '-'
  | .link _ _ => 'l'
  | .device _ => 'c'

def sizeOf : Node → Nat
  | .directory _ _ => 4096
  | .file bytes _ => bytes.length
  | .link target _ => Text.byteSize target
  | .device _ => 0

def blocksOf (node : Node) : Nat :=
  match node with
  | .file bytes _ => (bytes.length + 4095) / 4096 * 8
  | .directory _ _ => 8
  | _ => 0

def fullTime (time : Nat) : Text :=
  let template : Text := "%Y-%m-%d %H:%M:%S.%N %z"
  Moment.format (Moment.ofSeconds (time / 1000 : Nat)) (time % 1000 * 1000000)
    (template.length + 1) template

def statFact? (path : Text) (node : Node) (directive : Char) : Option Text :=
  let mode := node.attributes.mode
  let time := node.attributes.time
  match directive with
  | 'n' => some path
  | 's' => some (Text.ofNat (sizeOf node))
  | 'F' => some (kindOf node)
  | 'a' => some (Nat.toDigits 8 mode)
  | 'A' => some (kindLetter node :: Rights.toText mode)
  | 'U' | 'G' => some userName
  | 'u' | 'g' | 'd' => some ['0']
  | 'h' => some ['1']
  | 'X' | 'Y' | 'Z' => some (Text.ofNat (time / 1000))
  | 'x' | 'y' | 'z' => some (fullTime time)
  | 'W' => some (Text.ofNat (time / 1000))
  | 'w' => some (fullTime time)
  | 'f' => some (Nat.toDigits 16 (kindBits node + mode))
  | 't' | 'T' | 'r' => some ['0']
  | 'o' => some "4096"
  | 'b' => some (Text.ofNat (blocksOf node))
  | 'B' => some "512"
  | 'i' => some ['1']
  | 'm' => some ['/']
  | 'N' =>
      match node with
      | .link target _ => some (quoteName path ++ " -> " ++ quoteName target)
      | _ => some (quoteName path)
  | _ => none

def statText (expandsEscapes : Bool) (path : Text) (node : Node) : (fuel : Nat) → Text → Text
  | 0, _ => []
  | _, [] => []
  | fuel + 1, '%' :: rest =>
      let flags := rest.takeWhile (List.contains "-0#+ '".toList ·)
      let after := rest.drop flags.length
      let digits := after.takeWhile Char.isDigit
      match after.drop digits.length with
      | [] => '%' :: rest
      | '%' :: rest => '%' :: statText expandsEscapes path node fuel rest
      | directive :: rest =>
          let fact := (statFact? path node directive).getD ['?']
          let width := (Text.digitsFrom? 0 digits).getD 0
          let filling := List.replicate (width - fact.length)
            (if List.contains flags '0' then '0' else ' ')
          (if List.contains flags '-' then fact ++ filling else filling ++ fact) ++
            statText expandsEscapes path node fuel rest
  | fuel + 1, '\\' :: c :: rest =>
      if !expandsEscapes then '\\' :: statText expandsEscapes path node fuel (c :: rest)
      else
        let found : Text := match c with
          | 'n' => ['\n']
          | 't' => ['\t']
          | '\\' => ['\\']
          | '"' => ['"']
          | '0' => ['\x00']
          | _ => ['\\', c]
        found ++ statText expandsEscapes path node fuel rest
  | fuel + 1, c :: rest => c :: statText expandsEscapes path node fuel rest

def statTemplate : Text :=
  ("  File: %N\n  Size: %-10s\tBlocks: %-10b IO Block: %-6o %F\n" ++
    "Device: 0,1\tInode: %-10i  Links: %h\n" ++
    "Access: (%04a/%A)  Uid: (    0/    root)   Gid: (    0/    root)\n" ++
    "Access: %x\nModify: %y\nChange: %z\n Birth: %w\n").toList

def stat : Program := fun arguments => do
  let forms : OptionForms :=
    { letters := "c:fLt"
      words := [("dereference", 'L', .no), ("file-system", 'f', .no), ("format", 'c', .yes),
        ("printf", 'p', .yes), ("terse", 't', .no), ("cached", 'C', .yes)]
      isOrdered := false }
  let given ← given 1 forms arguments
  demandOperand given.operands
  for operand in given.operands do
    let files ← files
    match if given.has 'L' then files.lookup operand else files.lookupLink operand with
    | .error error => complain ("cannot statx " ++ quoteName operand ++ ": " ++ reason error)
    | .ok (_, node) =>
        match given.last? "cp" with
        | some ⟨'c', some template⟩ =>
            printLine (statText false operand node (template.length + 1) template)
        | some ⟨_, some template⟩ =>
            print (statText true operand node (template.length + 1) template)
        | _ => print (statText false operand node (statTemplate.length + 1) statTemplate)

end Program
end Shell
end StubAssist

import StubAssist.Shell.Regex.Match
import StubAssist.Shell.Regex.Reader
import StubAssist.Shell.Pattern
import StubAssist.Shell.Program.Paths

/-!
# Searching lines

The lines of texts that some expressions match, or their parts, or how many there are,
or only the names of the files.
-/

namespace StubAssist
namespace Shell
namespace Program

open Activity

namespace LineSearch

inductive Answer where
  | lines
  | parts
  | count
  | nameIfAny
  | nameIfNone
  | nothing
deriving DecidableEq, Repr

inductive Extent where
  | anywhere
  | wholeWords
  | wholeLine
deriving DecidableEq, Repr

structure Form where
  regex : Option Regex
  ignoresCase : Bool
  extent : Extent
  isInverted : Bool
  answer : Answer
  limit : Option Nat
  before : Nat
  after : Nat
  separator : Option Text
  showsName : Bool
  showsNumber : Bool
  showsOffset : Bool
  endsNames : Bool
  alignsText : Bool
  ending : Char

structure Line where
  text : Text
  number : Nat
  offset : Nat
deriving DecidableEq, Repr

def Form.find? (form : Form) (search : Regex.Search) (first : Nat) : Option (Nat × Nat) :=
  let subject := search.subject
  match form.extent with
  | .anywhere => (search.find? first).map fun found => (found.start, found.stop)
  | .wholeLine =>
      if first == 0 && (search.stopsFrom 0).testBit subject.length then some (0, subject.length)
      else none
  | .wholeWords =>
      search.findSpan? (fun start stop =>
        !Regex.Subject.isWord (subject.charBefore start) &&
          !Regex.Subject.isWord (subject.charAfter stop)) first

def Form.isSelected (form : Form) (line : Text) : Bool :=
  let isMatch :=
    match form.regex with
    | none => false
    | some regex =>
        let search := Regex.Search.of regex form.ignoresCase (.ofText none line)
        match form.extent with
        | .anywhere => search.hasMatch
        | _ => (form.find? search 0).isSome
  isMatch != form.isInverted

def Form.spans (form : Form) (search : Regex.Search) : (fuel first : Nat) → List (Nat × Nat)
  | 0, _ => []
  | fuel + 1, first =>
      match form.find? search first with
      | none => []
      | some (start, stop) =>
          if start == stop then form.spans search fuel (stop + 1)
          else (start, stop) :: form.spans search fuel stop

def Form.head (form : Form) (name : Text) (mark : Char) (number offset : Nat) : Text :=
  let nameEnd : Char := if form.endsNames then '\x00' else mark
  let parts :=
    (if form.showsName then name ++ [nameEnd] else []) ++
      (if form.showsNumber then Text.ofNat number ++ [mark] else []) ++
      (if form.showsOffset then Text.ofNat offset ++ [mark] else [])
  if form.alignsText && !parts.isEmpty then parts ++ ['\t'] else parts

def Form.show (form : Form) (name : Text) (mark : Char) (line : Line) : Text :=
  form.head name mark line.number line.offset ++ line.text ++ [form.ending]

def Form.showParts (form : Form) (name : Text) (line : Line) : Text :=
  match form.regex with
  | none => []
  | some regex =>
      if form.isInverted then []
      else
        let search := Regex.Search.of regex form.ignoresCase (.ofText none line.text)
        (form.spans search (line.text.length + 2) 0).flatMap fun (start, stop) =>
          form.head name ':' line.number (line.offset + start) ++
            Regex.slice line.text start stop ++ [form.ending]

structure Progress where
  shown : List Text
  selected : Nat
  /-- Lines that are shown if one that matches follows soon, the latest first. -/
  earlier : List Line
  later : Nat
  last : Option Nat
  isOver : Bool
  stop : Nat

def Form.step (form : Form) (name : Text) (progress : Progress) (line : Line) : Progress :=
  if progress.isOver then progress
  else
    let isFull : Bool := match form.limit with
      | some limit => limit ≤ progress.selected
      | none => false
    let isSelected := form.isSelected line.text
    if isFull then
      if isSelected || progress.later == 0 then { progress with isOver := true }
      else
        { progress with
          shown := form.show name '-' line :: progress.shown
          later := progress.later - 1 }
    else if isSelected then
      let stop := line.offset + line.text.length + 1
      match form.answer with
      | .lines =>
          let start := ((progress.earlier.getLast?.map (·.number)).getD line.number)
          let isApart := form.before + form.after != 0 &&
            (progress.last.map fun last => decide (last + 1 < start)).getD false
          let gap := match isApart, form.separator with
            | true, some separator => separator ++ ['\n']
            | _, _ => []
          let around := progress.earlier.reverse.flatMap (form.show name '-')
          { progress with
            shown := (gap ++ around ++ form.show name ':' line) :: progress.shown
            selected := progress.selected + 1
            earlier := []
            later := form.after
            last := some line.number
            stop := stop }
      | .parts =>
          { progress with
            shown := form.showParts name line :: progress.shown
            selected := progress.selected + 1
            stop := stop }
      | .count => { progress with selected := progress.selected + 1, stop := stop }
      | _ => { progress with selected := 1, isOver := true, stop := stop }
    else if progress.later != 0 then
      { progress with
        shown := form.show name '-' line :: progress.shown
        later := progress.later - 1
        last := some line.number }
    else { progress with earlier := (line :: progress.earlier).take form.before }

def linesOf (ending : Char) (t : Text) : List Line :=
  ((records ending t).foldl (fun (lines, number, offset) text =>
    (⟨text, number, offset⟩ :: lines, number + 1, offset + text.length + 1))
    (([] : List Line), 1, 0)).1.reverse

def Form.search (form : Form) (name t : Text) : Progress :=
  let start : Progress := ⟨[], 0, [], 0, none, false, 0⟩
  (linesOf form.ending t).foldl (form.step name) start

/-!
# Expressions
-/

inductive Style where
  | basic
  | extended
  | literal
deriving DecidableEq, Repr

def looksLikeClass (t : Text) : Bool :=
  match t with
  | '[' :: c :: rest =>
      (c == ':' || c == '.' || c == '=') && 1 < rest.length && rest.getLast? == some ']' &&
        rest.dropLast.getLast? == some c && !(List.contains rest.dropLast '[') &&
        !(List.contains rest.dropLast ']')
  | _ => false

/-- The operator that an expression starts with though there is nothing in front of it. -/
def lonelyOperator? (isAtStart : Bool) : (fuel : Nat) → Text → Option Text
  | 0, _ => none
  | _, [] => none
  | fuel + 1, c :: rest =>
      if isAtStart && (c == '*' || c == '+' || c == '?') then some [c]
      else if isAtStart && c == '{' && (rest.head?.map Char.isDigit).getD false then
        some "\x7b...\x7d".toList
      else
        match c, rest with
        | '\\', _ :: rest => lonelyOperator? false fuel rest
        | '[', _ =>
            let body := if rest.head? == some '^' then rest.drop 1 else rest
            let inside := body.take 1 ++ (body.drop 1).takeWhile (· != ']')
            lonelyOperator? false fuel (body.drop (inside.length + 1))
        | _, _ =>
            let isAnchor := (c == '^' || c == '$') && isAtStart
            lonelyOperator? (c == '(' || c == '|' || isAnchor) fuel rest

def misuse {α : Type} (complaint : Option Text) (status : Nat) : Activity α := do
  match complaint with
  | some t => remark t
  | none => pure ()
  let name := (← surroundings).name
  writeTo .complaints ("Usage: " ++ name ++ " [OPTION]... PATTERNS [FILE]...\n")
  hint
  exit status

/-- An expression in which some sets have names of their own, with the sets instead. -/
def withoutNames (isInside : Bool) : Text → Text
  | '\\' :: c :: rest =>
      let inside? : Option Text := match c with
        | 'd' => some "0-9"
        | 's' => if isInside then some "[:space:]" else none
        | 'w' => if isInside then some "[:alnum:]_" else none
        | 'h' => some " \t"
        | 't' => some ['\t']
        | _ => none
      let outside? : Option Text := if c == 'D' && !isInside then some "[^0-9]" else none
      match inside?, outside? with
      | some t, _ =>
          let part := if isInside || c == 't' then t else '[' :: t ++ [']']
          part ++ withoutNames isInside rest
      | _, some t => t ++ withoutNames isInside rest
      | none, none => '\\' :: c :: withoutNames isInside rest
  | '(' :: '?' :: ':' :: rest =>
      if isInside then "(?:".toList ++ withoutNames isInside rest
      else '(' :: withoutNames isInside rest
  | c :: rest =>
      if c == '[' && !isInside then
        match rest with
        | [] => [c]
        | first :: rest => c :: first :: withoutNames true rest
      else c :: withoutNames (isInside && c != ']') rest
  | [] => []

def regexOf (style : Style) (ignoresCase : Bool) (patterns : List Text) :
    Activity (Option Regex) := do
  let mut found : Option Regex := none
  for pattern in patterns.flatMap (partsAt '\n') do
    if style != .literal && looksLikeClass pattern then
      fail 2 "character class syntax is [[:space:]], not [:space:]"
    if style == .extended then
      match lonelyOperator? true (pattern.length + 1) pattern with
      | some operator => remark ("warning: " ++ operator ++ " at start of expression")
      | none => pure ()
    let read : Except Regex.Flaw Regex := match style with
      | .literal => .ok (Regex.literal pattern)
      | .basic => Regex.parse .basicLines pattern
      | .extended => Regex.parse .extendedLines pattern
    match read with
    | .error flaw => fail 2 flaw.message
    | .ok regex =>
        let regex := if ignoresCase then regex.foldCase else regex
        found := match found with
          | some others => some (.either others regex)
          | none => some regex
  return found

/-!
# Options
-/

def words : List (Text × Char × Valued) :=
  [("extended-regexp", 'E', .no), ("fixed-strings", 'F', .no), ("basic-regexp", 'G', .no),
    ("perl-regexp", 'P', .no), ("regexp", 'e', .yes), ("file", 'f', .yes),
    ("ignore-case", 'i', .no), ("no-ignore-case", 'N', .no), ("word-regexp", 'w', .no), ("line-regexp", 'x', .no),
    ("null-data", 'z', .no), ("no-messages", 's', .no), ("invert-match", 'v', .no),
    ("max-count", 'm', .yes), ("byte-offset", 'b', .no), ("line-number", 'n', .no),
    ("line-buffered", 'k', .no), ("with-filename", 'H', .no), ("no-filename", 'h', .no),
    ("label", 'g', .yes), ("only-matching", 'o', .no), ("quiet", 'q', .no), ("silent", 'q', .no)]

def moreWords : List (Text × Char × Valued) :=
  [("binary-files", 'j', .yes), ("text", 'a', .no), ("directories", 'd', .yes),
    ("devices", 'D', .yes), ("recursive", 'r', .no), ("dereference-recursive", 'R', .no),
    ("include", 'M', .yes), ("exclude", 'O', .yes), ("exclude-from", 'Q', .yes),
    ("exclude-dir", 'S', .yes), ("files-without-match", 'L', .no),
    ("files-with-matches", 'l', .no), ("count", 'c', .no), ("initial-tab", 'T', .no),
    ("null", 'Z', .no), ("before-context", 'B', .yes), ("after-context", 'A', .yes),
    ("context", 'C', .yes), ("group-separator", 'p', .yes), ("no-group-separator", 't', .no),
    ("color", 'W', .maybe), ("colour", 'W', .maybe), ("binary", 'U', .no),
    ("unix-byte-offsets", 'u', .no)]

def forms : OptionForms where
  letters := "0123456789EFGPe:f:iywxzsvm:bnHhoqaIUuTZd:D:rRLlcA:B:C:"
  words := words ++ moreWords
  isOrdered := false

def contextSize (t : Text) : Activity Nat := do
  match if t.isEmpty then none else Text.digitsFrom? 0 t with
  | some n => return n
  | none => fail 2 (quoteTopic t ++ ": invalid context length argument")

/-- The lines before and after one that matches; letters win over digits. -/
def context (given : Given) : Activity (Nat × Nat) := do
  let digits := (given.options.filter fun option => option.key.isDigit).map (·.key)
  let mut both := (Text.digitsFrom? 0 digits).getD 0
  let mut before : Option Nat := none
  let mut after : Option Nat := none
  for option in given.options do
    match option.key, option.value with
    | 'C', some t => both ← contextSize t
    | 'B', some t => before := some (← contextSize t)
    | 'A', some t => after := some (← contextSize t)
    | _, _ => pure ()
  return (before.getD both, after.getD both)

def limitOf (given : Given) : Activity (Option Nat) := do
  match given.value? 'm' with
  | none => return none
  | some t =>
      let digits := if t.head? == some '-' then t.drop 1 else t
      match if digits.isEmpty then none else Text.digitsFrom? 0 digits with
      | none => fail 2 "invalid max count"
      | some n => return if t.head? == some '-' then none else some n

def answerOf (given : Given) : Answer :=
  if given.has 'q' then .nothing
  else
    match (given.last? "lL").map (·.key) with
    | some 'l' => .nameIfAny
    | some _ => .nameIfNone
    | none => if given.has 'c' then .count else if given.has 'o' then .parts else .lines

inductive Entering where
  | no
  | skips
  | deeply (followsLinks : Bool)
deriving DecidableEq, Repr

def enteringOf (given : Given) : Activity Entering := do
  let mut entering := Entering.no
  for option in given.options do
    match option.key, option.value with
    | 'r', _ => entering := .deeply false
    | 'R', _ => entering := .deeply true
    | 'd', some word =>
        let kinds : List (Text × Entering) :=
          [("read", .no), ("recurse", .deeply false), ("skip", .skips)]
        match kinds.find? fun kind => !word.isEmpty && word.isPrefixOf kind.1 with
        | some (_, kind) => entering := kind
        | none =>
            remark ("invalid argument " ++ quote word ++ " for '--directories'")
            writeTo .complaints
              "Valid arguments are:\n  - 'read'\n  - 'recurse'\n  - 'skip'\n"
            misuse none 1
    | _, _ => pure ()
  return entering

structure Filter where
  included : List Pattern
  excluded : List Pattern
  excludedDirectories : List Pattern

def Filter.acceptsFile (filter : Filter) (name : Text) : Bool :=
  !(filter.excluded.any (·.isMatch name)) &&
    (filter.included.isEmpty || filter.included.any (·.isMatch name))

def Filter.acceptsDirectory (filter : Filter) (name : Text) : Bool :=
  !(filter.excludedDirectories.any (·.isMatch name))

def filesBelow (files : FileTree) (filter : Filter) (follows : Bool) :
    (fuel : Nat) → (path : Text) → List Text
  | 0, _ => []
  | fuel + 1, path =>
      match files.lookup path with
      | .ok (_, .directory entries _) =>
          entries.flatMap fun (name, node) =>
            let inside := if path.isEmpty || path.getLast? == some '/' then path ++ name
              else path ++ '/' :: name
            match node with
            | .directory _ _ =>
                if filter.acceptsDirectory name then filesBelow files filter follows fuel inside
                else []
            | .link _ _ =>
                if !follows then []
                else if files.isDirectory inside then filesBelow files filter follows fuel inside
                else if filter.acceptsFile name then [inside] else []
            | .device _ => []
            | .file _ _ => if filter.acceptsFile name then [inside] else []
      | _ => []

/-!
# Searching files
-/

structure Task where
  form : Form
  filter : Filter
  isSilent : Bool
  takesBinary : Bool
  skipsBinary : Bool
  label : Text

/-- Tells what was found in a text; whether any line was selected. -/
def Task.report (task : Task) (operand t : Text) (hasMore : Bool) : Activity Bool := do
  let form := task.form
  let name := if operand == "-" then task.label else operand
  let isBinary := !task.takesBinary && form.ending == '\n' && List.contains t '\x00'
  if isBinary && task.skipsBinary then return false
  let progress := form.search name t
  let isFound := progress.selected != 0
  let showsLines := form.answer == .lines || form.answer == .parts
  if isBinary && showsLines then
    if isFound then remark (name ++ ": binary file matches")
  else if showsLines then
    for t in progress.shown.reverse do print t
  let isFull := match form.limit with
    | some limit => limit ≤ progress.selected
    | none => false
  if hasMore && !isFull && (!isFound || showsLines || form.answer == .count) then continueForever
  let nameEnd : Text := if form.endsNames then ['\x00'] else ['\n']
  match form.answer with
  | .count =>
      let mark : Char := if form.endsNames then '\x00' else ':'
      print ((if form.showsName then name ++ [mark] else []) ++
        Text.ofNat progress.selected ++ ['\n'])
  | .nameIfAny => if isFound then print (name ++ nameEnd)
  | .nameIfNone => if !isFound then print (name ++ nameEnd)
  | _ => pure ()
  if operand == "-" && isFull then leaveUnread (t.drop progress.stop)
  return isFound

/-- Searches what an operand names; whether any line was selected. -/
def Task.searchOne (task : Task) (operand : Text) : Activity Bool := do
  let showsLines := task.form.answer == .lines || task.form.answer == .parts
  if showsLines && task.form.limit != some 1 && (← isOutput operand) then
    let name := if operand == "-" then "(standard input)".toList else quoteTopic operand
    remark (name ++ ": input file is also the output")
    setStatus 2
    return false
  match ← flow operand with
  | .ok (t, hasMore) =>
      task.report operand (if hasMore then endedLines task.form.ending t else t) hasMore
  | .error error =>
      let name := if operand == "-" then task.label else operand
      if !task.isSilent then remark (name ++ ": " ++ reason error)
      setStatus 2
      let isOpen := error == .isADirectory || (← surroundings).hasInput
      if isReadFailure error && isOpen then task.report operand [] false else return false

/-- Searches lines for expressions, which are in the basic style unless options say otherwise. -/
def program : Program := fun arguments => do
  let given ←
    match forms.read? arguments with
    | .ok (options, operands) => pure (Given.mk options operands)
    | .error flaw => misuse (some flaw) 2
  let styles := "EFGP".toList.filter given.has
  if 1 < styles.length then fail 2 "conflicting matchers specified"
  let style := match styles with
    | ['E'] | ['P'] => Style.extended
    | ['F'] => .literal
    | _ => .basic
  let limit ← limitOf given
  let (before, after) ← context given
  let entering ← enteringOf given
  let mut patterns := []
  for option in given.options do
    match option.key, option.value with
    | 'e', some t => patterns := patterns ++ [t]
    | 'f', some path =>
        match ← contents path with
        | .ok t => patterns := patterns ++ lines t
        | .error error => fail 2 (path ++ ": " ++ reason error)
    | _, _ => pure ()
  let isExplicit := given.has 'e' || given.has 'f'
  let operands := if isExplicit then given.operands else given.operands.drop 1
  if !isExplicit then
    match given.operands with
    | [] => misuse none 2
    | pattern :: _ => patterns := [pattern]
  let ignoresCase := match (given.last? "iyN").map (·.key) with
    | some 'N' | none => false
    | some _ => true
  if styles == ['P'] then patterns := patterns.map (withoutNames false)
  let regex ← regexOf style ignoresCase patterns
  let answer := answerOf given
  if limit == some 0 && answer != .nameIfNone then exit 1
  let isDeep := entering matches .deeply _
  let operands := if !operands.isEmpty then operands else if isDeep then [[]] else [['-']]
  let named := (given.last? "Hh").map (·.key)
  let isMany := 1 < operands.length
  let form (showsName : Bool) : Form :=
    { regex := regex
      ignoresCase := ignoresCase
      extent := if given.has 'x' then .wholeLine else if given.has 'w' then .wholeWords
        else .anywhere
      isInverted := given.has 'v'
      answer := answer
      limit := limit
      before := before
      after := after
      separator := if given.has 't' then none else some ((given.value? 'p').getD "--".toList)
      showsName := showsName
      showsNumber := given.has 'n'
      showsOffset := given.has 'b'
      endsNames := given.has 'Z'
      alignsText := given.has 'T'
      ending := if given.has 'z' then '\x00' else '\n' }
  let binary := given.value? 'j'
  let task (isBelow : Bool) : Task :=
    { form := form (match named with
        | some 'H' => true
        | some _ => false
        | none => isMany || isBelow)
      filter :=
        { included := (given.values 'M').map Pattern.ofArgument
          excluded := (given.values 'O').map Pattern.ofArgument
          excludedDirectories := (given.values 'S').map Pattern.ofArgument }
      isSilent := given.has 's'
      takesBinary := given.has 'a' || binary == some "text".toList
      skipsBinary := given.has 'I' || binary == some "without-match".toList
      label := (given.value? 'g').getD "(standard input)".toList }
  let mut isFound := false
  for operand in operands do
    if !(isFound && answer == .nothing) then
      let files ← files
      let isDirectory := operand.isEmpty && isDeep || (operand != "-" && files.isDirectory operand)
      match isDirectory, entering with
      | true, .skips => pure ()
      | true, .deeply follows =>
          let start : Text := if operand.isEmpty then ['.'] else operand
          let filter := (task true).filter
          let found := filesBelow files filter follows FileTree.pathLimit start
          for path in found do
            let path := if operand.isEmpty then path.drop 2 else path
            if ← (task true).searchOne path then isFound := true
      | true, .no =>
          if !given.has 's' then remark (operand ++ ": " ++ reason .isADirectory)
          setStatus 2
          discard ((task false).report operand [] false)
      | false, _ =>
          if operand == "-" || (task false).filter.acceptsFile (lastName operand) then
            if ← (task false).searchOne operand then isFound := true
  let status := (← get).status
  if isFound && answer == .nothing then setStatus 0
  else if status == 0 && !isFound then setStatus 1

end LineSearch

def grep : Program :=
  LineSearch.program

def grepWith (option : Text) : Program := fun arguments surroundings =>
  grep (option :: arguments) { surroundings with name := "grep" }

end Program
end Shell
end StubAssist

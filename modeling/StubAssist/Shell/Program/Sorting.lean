import StubAssist.Shell.Fraction
import StubAssist.Shell.Program

/-!
# Sorting

Lines are compared by keys, which are parts of them read in a certain way.  Lines with
equal keys are compared as a whole in the end, unless that is not wanted.
-/

namespace StubAssist
namespace Shell
namespace Program

open Activity

namespace Sorting

/-!
# Values of keys
-/

inductive Reading where
  | text
  | numeric
  | general
  | human
  | month
  | version
deriving DecidableEq, Repr

/-- A decimal number: whether it is below zero, its whole part, its other digits. -/
structure Decimal where
  isNegative : Bool
  whole : Nat
  places : Text
deriving DecidableEq, Repr

inductive Value where
  | text (t : Text)
  | decimal (rank : Int) (number : Decimal)
  | general (rank : Int) (isNegative : Bool) (numerator denominator : Nat)
  | number (n : Nat)
  | version (t : Text)
deriving DecidableEq, Repr

def decimal (t : Text) : Decimal × Text :=
  let t := t.dropWhile fun c => c == ' ' || c == '\t'
  let isNegative := t.head? == some '-'
  let t := if isNegative then t.drop 1 else t
  let whole := t.takeWhile Char.isDigit
  let rest := t.dropWhile Char.isDigit
  let (places, rest) :=
    match rest with
    | '.' :: rest => (rest.takeWhile Char.isDigit, rest.dropWhile Char.isDigit)
    | rest => ([], rest)
  let places := (places.reverse.dropWhile (· == '0')).reverse
  let n := (Text.digitsFrom? 0 whole).getD 0
  (⟨isNegative && !(n == 0 && places.isEmpty), n, places⟩, rest)

def monthNames : List Text :=
  ["JAN", "FEB", "MAR", "APR", "MAY", "JUN", "JUL", "AUG", "SEP", "OCT", "NOV", "DEC"]

def month (t : Text) : Nat :=
  let name := ((t.dropWhile fun c => c == ' ' || c == '\t').take 3).map Char.toUpper
  ((monthNames.idxOf? name).map (· + 1)).getD 0

def general (t : Text) : Value :=
  match Fraction.read? t with
  | none => .general 0 false 0 1
  | some (_, .notANumber, _, _) => .general 1 false 0 1
  | some (true, .infinite, _, _) => .general 2 false 0 1
  | some (false, .infinite, _, _) => .general 4 false 0 1
  | some (isNegative, .finite numerator denominator, _, _) =>
      .general 3 (isNegative && numerator != 0) numerator denominator

def human (t : Text) : Value :=
  let (number, rest) := decimal t
  let power := (rest.head?.bind magnitude?).getD 0
  let isZero := number.whole == 0 && number.places.isEmpty
  .decimal (if isZero then 0 else if number.isNegative then -power else power) number

def value (reading : Reading) (t : Text) : Value :=
  match reading with
  | .text => .text t
  | .numeric => .decimal 0 (decimal t).1
  | .general => general t
  | .human => human t
  | .month => .number (month t)
  | .version => .version t

/-!
# Comparing versions
-/

/-- The rank of a character between numbers; the end comes before most, a tilde before that. -/
def versionRank : Option Char → Int
  | none => -1
  | some '~' => -2
  | some c =>
      if c.isDigit then 0 else if c.isAlpha then c.toNat else Int.ofNat c.toNat + 256

def compareParts : (fuel : Nat) → Text → Text → Ordering
  | 0, _, _ => .eq
  | _, [], [] => .eq
  | fuel + 1, a, b =>
      let isDigit := fun (t : Text) => (t.head?.map Char.isDigit).getD false
      if (!a.isEmpty && !isDigit a) || (!b.isEmpty && !isDigit b) then
        match compare (versionRank a.head?) (versionRank b.head?) with
        | .eq => compareParts fuel (a.drop 1) (b.drop 1)
        | different => different
      else
        let number := fun (t : Text) => (Text.digitsFrom? 0 (t.takeWhile Char.isDigit)).getD 0
        match compare (number a) (number b) with
        | .eq => compareParts fuel (a.dropWhile Char.isDigit) (b.dropWhile Char.isDigit)
        | different => different

/-- The length of the endings of a file name, such as `.tar.gz`, read from its end. -/
def endingLength : (fuel : Nat) → Text → Nat
  | 0, _ => 0
  | fuel + 1, reversed =>
      let isPlain := fun (c : Char) => c.isAlphanum || c == '~'
      let name := reversed.takeWhile isPlain
      match reversed.drop name.length, name.getLast? with
      | '.' :: rest, some first =>
          if first.isAlpha || first == '~' then name.length + 1 + endingLength fuel rest else 0
      | _, _ => 0

def withoutEndings (t : Text) : Text :=
  t.take (t.length - endingLength t.length t.reverse)

def dotRank (t : Text) : Nat :=
  if t.isEmpty then 0 else if t == "." then 1 else if t == ".." then 2
  else if t.head? == some '.' then 3 else 4

def compareVersions (a b : Text) : Ordering :=
  match compare (dotRank a) (dotRank b) with
  | .eq =>
      let fuel := a.length + b.length + 1
      match compareParts fuel (withoutEndings a) (withoutEndings b) with
      | .eq => compareParts fuel a b
      | different => different
  | different => different

/-!
# Comparing values
-/

def compareTexts (a b : Text) : Ordering :=
  if a < b then .lt else if b < a then .gt else .eq

def compareMagnitudes (a b : Decimal) : Ordering :=
  match compare a.whole b.whole with
  | .eq => compareTexts a.places b.places
  | different => different

def compareDecimals (a b : Decimal) : Ordering :=
  match a.isNegative, b.isNegative with
  | false, false => compareMagnitudes a b
  | true, true => compareMagnitudes b a
  | true, false => .lt
  | false, true => .gt

def compareValues : Value → Value → Ordering
  | .text a, .text b => compareTexts a b
  | .decimal rankA a, .decimal rankB b =>
      if a.isNegative != b.isNegative then compareDecimals a b
      else (compare rankA rankB).then (compareDecimals a b)
  | .general rankA negativeA numA denA, .general rankB negativeB numB denB =>
      (compare rankA rankB).then <|
        let sign := fun (isNegative : Bool) (n : Nat) => if isNegative then -(n : Int) else n
        compare (sign negativeA (numA * denB)) (sign negativeB (numB * denA))
  | .number a, .number b => compare a b
  | .version a, .version b => compareVersions a b
  | _, _ => .eq

/-!
# Keys
-/

/-- How a key is compared, and whether blanks in front of its ends count. -/
structure Manner where
  letters : Text
deriving DecidableEq, Repr

namespace Manner

def has (manner : Manner) (c : Char) : Bool :=
  List.contains manner.letters c

def reading (manner : Manner) : Reading :=
  if manner.has 'n' then .numeric
  else if manner.has 'g' then .general
  else if manner.has 'h' then .human
  else if manner.has 'M' then .month
  else if manner.has 'V' then .version
  else .text

def prepare (manner : Manner) (t : Text) : Text :=
  let t :=
    if manner.has 'd' then t.filter fun c => c.isAlphanum || c == ' ' || c == '\t'
    else if manner.has 'i' then t.filter isPrintable
    else t
  if manner.has 'f' then t.map Char.toUpper else t

def clash? (manner : Manner) : Option Text :=
  let count := ("nghM".toList.filter manner.has).length +
    if manner.has 'V' || manner.has 'R' || manner.has 'd' || manner.has 'i' then 1 else 0
  if count ≤ 1 then none else some ("dfghiMnRV".toList.filter manner.has)

end Manner

structure Place where
  field : Nat
  character : Nat
deriving DecidableEq, Repr

structure Key where
  start : Place
  /-- The end; its character zero means the end of the field. -/
  stop : Option Place
  skipsAtStart : Bool
  skipsAtStop : Bool
  manner : Manner
deriving DecidableEq, Repr

/-- What follows some fields of a line; a separator after the last of them goes with it. -/
def dropFields (separator : Option Char) : Nat → Text → Text
  | 0, t => t
  | count + 1, t =>
      match separator with
      | some c => dropFields separator count ((t.dropWhile (· != c)).drop 1)
      | none => dropFields separator count ((t.dropWhile isBlank).dropWhile (!isBlank ·))

namespace Key

def fromStart (separator : Option Char) (key : Key) (line : Text) : Text :=
  let t := dropFields separator (key.start.field - 1) line
  let t := if key.skipsAtStart then t.dropWhile isBlank else t
  t.drop (key.start.character - 1)

def afterStop (separator : Option Char) (key : Key) (line : Text) : Text :=
  match key.stop with
  | none => []
  | some stop =>
      if stop.character == 0 then
        let t := dropFields separator (stop.field - 1) line
        match separator with
        | some c => t.dropWhile (· != c)
        | none => (t.dropWhile isBlank).dropWhile (!isBlank ·)
      else
        let t := dropFields separator (stop.field - 1) line
        let t := if key.skipsAtStop then t.dropWhile isBlank else t
        t.drop stop.character

def text (separator : Option Char) (key : Key) (line : Text) : Text :=
  let t := key.fromStart separator line
  t.take (t.length - (key.afterStop separator line).length)

def value (separator : Option Char) (key : Key) (line : Text) : Value :=
  Sorting.value key.manner.reading (key.manner.prepare (key.text separator line))

end Key

def wholeLine (manner : Manner) : Key :=
  ⟨⟨1, 1⟩, none, manner.has 'b', manner.has 'b', manner⟩

/-!
# Orders
-/

structure Order where
  separator : Option Char
  keys : List Key
  isReversed : Bool
  isStable : Bool
  isUnique : Bool

structure Entry where
  line : Text
  values : List Value

namespace Order

def entry (order : Order) (line : Text) : Entry :=
  ⟨line, order.keys.map fun key => key.value order.separator line⟩

def compareKeys : List Key → List Value → List Value → Ordering
  | key :: keys, a :: as, b :: bs =>
      let found := compareValues a b
      (if key.manner.has 'r' then found.swap else found).then (compareKeys keys as bs)
  | _, _, _ => .eq

def compare (order : Order) (a b : Entry) : Ordering :=
  let found := compareKeys order.keys a.values b.values
  if found != .eq || ((order.isUnique || order.isStable) && !order.keys.isEmpty) then found
  else
    let found := compareTexts a.line b.line
    if order.isReversed then found.swap else found

def dropEqual (order : Order) : List Entry → List Entry
  | [] => []
  | entry :: rest =>
      (rest.foldl (fun (found : List Entry) next =>
        match found with
        | last :: _ => if order.compare last next == .eq then found else next :: found
        | [] => [next]) [entry]).reverse

def sort (order : Order) (entries : List Entry) : List Entry :=
  let sorted := entries.mergeSort fun a b => order.compare a b != .gt
  if order.isUnique then order.dropEqual sorted else sorted

/-- The first entry that should not come after the one before it, and its number. -/
def disorder? (order : Order) : (number : Nat) → List Entry → Option (Nat × Entry)
  | number, a :: b :: rest =>
      let found := order.compare a b
      if found == .gt || (order.isUnique && found == .eq) then some (number + 1, b)
      else order.disorder? (number + 1) (b :: rest)
  | _, _ => none

end Order

/-!
# Options
-/

def count (what source t : Text) : Except Text (Nat × Text) :=
  let digits := t.takeWhile Char.isDigit
  if digits.isEmpty then
    .error (what ++ ": invalid count at start of " ++ quote source)
  else .ok (min ((Text.digitsFrom? 0 digits).getD 0) (Nat.pow 2 64 - 1), t.dropWhile Char.isDigit)

def mannerLetters : Text := "bdfgihMnRrV"

def place (what source t : Text) (leastCharacter : Nat) :
    Except Text (Place × Text × Text) := do
  let (field, rest) ← count what t t
  if field == 0 then
    throw ("field number is zero: invalid field specification " ++ quote source)
  let (character, rest) ←
    match rest with
    | '.' :: after => count "invalid number after '.'" after after
    | _ => pure (leastCharacter, rest)
  if character < leastCharacter then
    throw ("character offset is zero: invalid field specification " ++ quote source)
  let letters := rest.takeWhile (List.contains mannerLetters)
  return (⟨field, character⟩, letters, rest.drop letters.length)

def key (source : Text) : Except Text Key := do
  let (start, letters, rest) ← place "invalid number at field start" source source 1
  let (stop, more, rest) ←
    match rest with
    | ',' :: after => do
        let (stop, more, rest) ← place "invalid number after ','" source after 0
        pure (some stop, more, rest)
    | rest => pure (none, [], rest)
  if !rest.isEmpty then
    throw ("stray character in field spec: invalid field specification " ++ quote source)
  return ⟨start, stop, List.contains letters 'b', List.contains more 'b', ⟨letters ++ more⟩⟩

def inherit (manner : Manner) (key : Key) : Key :=
  if key.manner.letters.isEmpty then
    { key with skipsAtStart := manner.has 'b', skipsAtStop := manner.has 'b', manner := manner }
  else key

def mannerWords : List (Text × Char × Valued) :=
  [("ignore-leading-blanks", 'b', .no), ("dictionary-order", 'd', .no), ("ignore-case", 'f', .no),
    ("general-numeric-sort", 'g', .no), ("human-numeric-sort", 'h', .no),
    ("ignore-nonprinting", 'i', .no), ("month-sort", 'M', .no), ("numeric-sort", 'n', .no),
    ("reverse", 'r', .no), ("random-sort", 'R', .no), ("version-sort", 'V', .no)]

def otherWords : List (Text × Char × Valued) :=
  [("check", 'c', .maybe), ("key", 'k', .yes), ("merge", 'm', .no), ("output", 'o', .yes),
    ("stable", 's', .no), ("buffer-size", 'S', .yes), ("field-separator", 't', .yes),
    ("temporary-directory", 'T', .yes), ("unique", 'u', .no), ("zero-terminated", 'z', .no),
    ("sort", 'O', .yes), ("parallel", 'P', .yes), ("files0-from", 'F', .yes)]

def forms : OptionForms where
  letters := "bcCdfghik:mMno:rRsS:t:T:uVy:z"
  words := mannerWords ++ otherWords
  isOrdered := false

def sortWords : List (Text × Char) :=
  [("general-numeric", 'g'), ("human-numeric", 'h'), ("month", 'M'), ("numeric", 'n'),
    ("random", 'R'), ("version", 'V')]

def globalLetters (given : Given) : Activity Text := do
  let mut letters := []
  for option in given.options do
    if option.key == 'O' then
      let word := option.value.getD []
      match sortWords.filter fun (name, _) => word.isPrefixOf name with
      | [(_, letter)] => letters := letter :: letters
      | _ =>
          remark ("invalid argument " ++ quote word ++ " for '--sort'")
          writeTo .complaints ("Valid arguments are:\n" ++
            sortWords.flatMap fun (name, _) => "  - ".toList ++ quote name ++ ['\n'])
          hint
          exit 1
    else if List.contains mannerLetters option.key then letters := option.key :: letters
  return letters.reverse

def separator (given : Given) : Activity (Option Char) := do
  let mut found := none
  for t in given.values 't' do
    let c ←
      match t with
      | [] => fail 2 "empty tab"
      | [c] => pure c
      | ['\\', '0'] => pure '\x00'
      | t => fail 2 ("multi-character tab " ++ quote t)
    if found.isSome && found != some c then fail 2 "incompatible tabs"
    found := some c
  return found

def order (given : Given) : Activity Order := do
  let manner : Manner := ⟨← globalLetters given⟩
  let separator ← separator given
  let mut found := []
  for t in given.values 'k' do
    match key t with
    | .ok key => found := inherit manner key :: found
    | .error flaw => fail 2 flaw
  let isPlain := manner.letters.all (· == 'r')
  let keys := if found.isEmpty && !isPlain then [wholeLine manner] else found.reverse
  for key in keys do
    match key.manner.clash? with
    | some letters => fail 2 ("options '-" ++ letters ++ "' are incompatible")
    | none => pure ()
  return ⟨separator, keys, manner.has 'r', given.has 's', given.has 'u'⟩

def modernize : (fuel : Nat) → List Text → List Text
  | fuel + 1, ('+' :: c :: rest) :: arguments =>
      let old := c :: rest
      if !c.isDigit then ('+' :: old) :: modernize fuel arguments
      else
        let shift := fun (t : Text) (isEnd : Bool) =>
          let field := (Text.digitsFrom? 0 (t.takeWhile Char.isDigit)).getD 0
          match t.dropWhile Char.isDigit with
          | '.' :: after =>
              let character := (Text.digitsFrom? 0 (after.takeWhile Char.isDigit)).getD 0
              let letters := after.dropWhile Char.isDigit
              Text.ofNat (field + 1) ++ '.' ::
                Text.ofNat (character + if isEnd then 0 else 1) ++ letters
          | letters => Text.ofNat (if isEnd then field else field + 1) ++ letters
        match arguments with
        | ('-' :: d :: stop) :: after =>
            if d.isDigit then
              ("-k" ++ shift old false ++ ',' :: shift (d :: stop) true) :: modernize fuel after
            else ("-k" ++ shift old false) :: modernize fuel arguments
        | _ => ("-k" ++ shift old false) :: modernize fuel arguments
  | fuel + 1, argument :: arguments => argument :: modernize fuel arguments
  | _, arguments => arguments

def merge (order : Order) (lists : List (List Entry)) : List Entry :=
  let merged := lists.foldl (fun merged list =>
    List.merge merged list fun a b => order.compare a b != .gt) []
  if order.isUnique then order.dropEqual merged else merged

/-- Says where lines are out of order, unless that is to be told by the status alone. -/
def check (order : Order) (isQuiet : Bool) (operand : Text) (entries : List Entry) :
    Activity Unit := do
  match order.disorder? 1 entries with
  | none => return ()
  | some (number, entry) =>
      if !isQuiet then
        remark (operand ++ ":" ++ Text.ofNat number ++ ": disorder: " ++ entry.line)
      exit 1

def operandsOf (given : Given) : Activity (List Text) := do
  match given.value? 'F' with
  | none => return orInput given.operands
  | some path =>
      NameList.refuseOthers 2 given.operands
      match ← contents path with
      | .ok t =>
          let names := records '\x00' t
          if names.isEmpty then fail 2 ("no input from " ++ quote path)
          for (name, i) in names.zipIdx do
            match (NameList.mk (if name == "-" then name else path) true).flaw? (i + 1) name with
            | some flaw => fail 2 flaw
            | none => pure ()
          return names
      | .error error =>
          fail 2 (if isReadFailure error then "cannot read file names from " ++ quote path
            else "open failed: " ++ about path error)

end Sorting

def sort : Program := fun arguments => do
  let given ← given 2 Sorting.forms (Sorting.modernize (arguments.length + 1) arguments)
  let checks := given.options.filter fun option => List.contains "cC".toList option.key
  for option in checks do
    let word := option.value.getD []
    if !(["", "quiet", "silent", "diagnose-first"] : List Text).contains word then
      remark ("invalid argument " ++ quote word ++ " for '--check'")
      writeTo .complaints
        "Valid arguments are:\n  - 'quiet', 'silent'\n  - 'diagnose-first'\n"
      hint
      exit 1
  let isQuiet := checks.any fun option =>
    option.key == 'C' || option.value == some "quiet".toList || option.value == some "silent".toList
  let order ← Sorting.order given
  if given.has 'c' && given.has 'C' then fail 2 "options '-cC' are incompatible"
  if !checks.isEmpty && given.has 'o' then fail 2 "options '-co' are incompatible"
  let operands ← Sorting.operandsOf given
  if !checks.isEmpty then
    match operands.drop 1 with
    | operand :: _ => fail 2 ("extra operand " ++ quote operand ++ " not allowed with -c")
    | [] => pure ()
  let ending := if given.has 'z' then '\x00' else '\n'
  let mut texts := []
  for operand in operands do
    if operand != "-" then
      match (← files).lookup operand with
      | .error error =>
          if (descriptorAt? operand).isNone then fail 2 ("cannot read: " ++ about operand error)
      | .ok _ => pure ()
  for operand in operands do
    match ← contents operand with
    | .ok t => texts := ((records ending t).map order.entry) :: texts
    | .error error =>
        let isMissing := operand == "-" && !(← surroundings).hasInput
        fail 2 ((if isMissing then "stat failed: " else "read failed: ") ++ about operand error)
  if !checks.isEmpty then
    Sorting.check order isQuiet (operands.headD ['-']) (texts.headD [])
  else
    let sorted :=
      if given.has 'm' then Sorting.merge order texts.reverse else order.sort texts.reverse.flatten
    let t := sorted.flatMap fun entry => entry.line ++ [ending]
    match given.value? 'o' with
    | none => print t
    | some path =>
        match (← files).write path (Octets.bytes t) with
        | .ok files => setFiles files
        | .error error => fail 2 ("open failed: " ++ about path error)

end Program
end Shell
end StubAssist

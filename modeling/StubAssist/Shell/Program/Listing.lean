import StubAssist.Shell.Calendar
import StubAssist.Shell.Rights
import StubAssist.Shell.Pattern
import StubAssist.Shell.Program.Paths
import StubAssist.Shell.Program.Sorting

/-!
# Listing files

The names in directories, with what is known of the files, one in a line or in columns.
-/

namespace StubAssist
namespace Shell
namespace Program

open Activity

namespace Listing

inductive Layout where
  | single
  | detailed
  | downColumns
  | acrossColumns
  | commas
deriving DecidableEq, Repr

inductive Order where
  | byName
  | byTime
  | bySize
  | byEnding
  | byVersion
  | unsorted
deriving DecidableEq, Repr

inductive Writing where
  | plain
  | quoted
  | escaped
  | questions
deriving DecidableEq, Repr

/-- Marks behind names that tell what they are the names of. -/
inductive Marks where
  | none
  | directories
  | types
  | all
deriving DecidableEq, Repr

inductive Hidden where
  | none
  | butTwo
  | all
deriving DecidableEq, Repr

structure Form where
  layout : Layout
  order : Order
  isReversed : Bool
  hidden : Hidden
  marks : Marks
  writing : Writing
  listsItself : Bool
  isRecursive : Bool
  followsLinks : Bool
  directoriesFirst : Bool
  showsBlocks : Bool
  isHuman : Bool
  isNumeric : Bool
  showsOwner : Bool
  showsGroup : Bool
  timeFormat : Option Text
  width : Nat
  ignored : List Text

structure Entry where
  name : Text
  node : Node
  target : Option Node

def sizeOf : Node → Nat
  | .directory _ _ => 4096
  | .file bytes _ => bytes.length
  | .link target _ => target.length
  | .device _ => 0

def blocksOf : Node → Nat
  | .directory _ _ => 4
  | .file bytes _ => (bytes.length + 4095) / 4096 * 4
  | .link _ _ => 0
  | .device _ => 0

def typeLetter : Node → Char
  | .directory _ _ => 'd'
  | .file _ _ => '-'
  | .link _ _ => 'l'
  | .device _ => 'c'

def linkCount : Node → Nat
  | .directory entries _ => 2 + (entries.filter (·.2.isDirectory)).length
  | _ => 1

def Entry.isDirectory (entry : Entry) : Bool :=
  entry.node.isDirectory || (entry.target.map Node.isDirectory).getD false

/-!
# Names
-/

def markOf (marks : Marks) (node : Node) : Text :=
  match marks, node with
  | .none, _ => []
  | _, .directory _ _ => ['/']
  | .directories, _ => []
  | _, .link _ _ => ['@']
  | .all, node => if node.isExecutable then ['*'] else []
  | .types, _ => []

def written (form : Form) (name : Text) : Text :=
  match form.writing with
  | .plain => name
  | .quoted =>
      '"' :: name.flatMap (fun c =>
        if c == '"' || c == '\\' then ['\\', c]
        else if isPrintable c then [c] else Program.escaped c) ++ ['"']
  | .escaped => name.flatMap fun c =>
      if c == ' ' || c == '\\' then ['\\', c]
      else if isPrintable c then [c] else Program.escaped c
  | .questions => name.map fun c => if isPrintable c then c else '?'

def label (form : Form) (entry : Entry) : Text :=
  written form entry.name ++ markOf form.marks entry.node

/-!
# Order
-/

def endingOf (name : Text) : Text :=
  match Text.splitLast '.' name with
  | some (_, ending) => '.' :: ending
  | none => []

def compareBy (order : Order) (a b : Entry) : Ordering :=
  let byName := Sorting.compareTexts a.name b.name
  match order with
  | .byName => byName
  | .byTime => (compare b.node.attributes.time a.node.attributes.time).then byName
  | .bySize => (compare (sizeOf b.node) (sizeOf a.node)).then byName
  | .byEnding => (Sorting.compareTexts (endingOf a.name) (endingOf b.name)).then byName
  | .byVersion => (Sorting.compareVersions a.name b.name).then byName
  | .unsorted => .eq

def sorted (form : Form) (entries : List Entry) : List Entry :=
  let sorted := entries.mergeSort fun a b =>
    let found := compareBy form.order a b
    (if form.isReversed then found.swap else found) != .gt
  let sorted := if form.order == .unsorted && form.isReversed then sorted.reverse else sorted
  if form.directoriesFirst then
    sorted.filter Entry.isDirectory ++ sorted.filter (!Entry.isDirectory ·)
  else sorted

/-!
# Lines
-/

/-- A size in the largest unit that leaves a number of at least one, rounded up. -/
def humanSize (bytes : Nat) : Text :=
  let power := (List.range 6).reverse.find? fun power => Nat.pow 1024 power ≤ bytes
  match power with
  | none | some 0 => Text.ofNat bytes
  | some power =>
      let tenths := (bytes * 10 + Nat.pow 1024 power - 1) / Nat.pow 1024 power
      let whole := (bytes + Nat.pow 1024 power - 1) / Nat.pow 1024 power
      let (number, power) :=
        if tenths < 100 then (Text.ofNat (tenths / 10) ++ '.' :: Text.ofNat (tenths % 10), power)
        else if whole < 1024 then (Text.ofNat whole, power)
        else ("1.0".toList, power + 1)
      number ++ [("BKMGTP".toList)[power]?.getD '?']

def sizeText (form : Form) (bytes : Nat) : Text :=
  if form.isHuman then humanSize bytes else Text.ofNat bytes

def blocksText (form : Form) (blocks : Nat) : Text :=
  if form.isHuman then humanSize (blocks * 1024) else Text.ofNat blocks

def halfYear : Nat := 15778476000

def timeText (form : Form) (now time : Nat) : Text :=
  let moment := Moment.ofSeconds (time / 1000)
  let template : Text :=
    match form.timeFormat with
    | some format => format
    | none =>
        if time ≤ now && now < time + halfYear then "%b %e %H:%M" else "%b %e  %Y"
  Moment.format moment (time % 1000 * 1000000) (template.length + 1) template

def modeText (node : Node) : Text :=
  typeLetter node :: Rights.toText node.attributes.mode

def detailed (form : Form) (now : Nat) (entries : List Entry) : List Text :=
  let columns := entries.map fun entry =>
    let node := entry.node
    let target : Text := match node with
      | .link target _ => " -> ".toList ++ written form target ++
          (if form.marks == .none then [] else
            (entry.target.map (markOf form.marks)).getD [])
      | _ => []
    let label := match node with
      | .link _ _ => written form entry.name
      | _ => label form entry
    let owner : Text := if form.isNumeric then "0" else "root"
    (blocksText form (blocksOf node), modeText node, Text.ofNat (linkCount node), owner,
      sizeText form (sizeOf node), timeText form now node.attributes.time, label ++ target)
  let widest := fun (f : Text × Text × Text × Text × Text × Text × Text → Text) =>
    ((columns.map fun column => (f column).length).max?).getD 0
  let blocks := widest (·.1)
  let links := widest (·.2.2.1)
  let sizes := widest (·.2.2.2.2.1)
  columns.map fun (block, mode, count, owner, size, time, name) =>
    (if form.showsBlocks then alignRight blocks block ++ [' '] else []) ++ mode ++ ' ' ::
      alignRight links count ++ ' ' :: (if form.showsOwner then owner ++ [' '] else []) ++
      (if form.showsGroup then owner ++ [' '] else []) ++ alignRight sizes size ++ ' ' ::
      time ++ ' ' :: name

def indentation : (fuel first last : Nat) → Text
  | 0, _, _ => []
  | fuel + 1, first, last =>
      if last ≤ first then []
      else if (first + 1) / 8 < last / 8 then
        '\t' :: indentation fuel (first + 8 - first % 8) last
      else ' ' :: indentation fuel (first + 1) last

def columnWidths? (width count : Nat) (goesDown : Bool) (labels : List Text) : Option (List Nat) :=
  let rows := (labels.length + count - 1) / count
  let widths := (List.range count).map fun column =>
    let cells := labels.zipIdx.filter fun (_, index) =>
      (if goesDown then index / rows else index % count) == column
    let gap := if column + 1 == count then 0 else 2
    max 3 (((cells.map fun (label, _) => label.length + gap).max?).getD 0)
  if Text.total widths < width then some widths else none

/-- One line of labels, each but the last filled up to the width of its column. -/
def rowText : (position : Nat) → List Nat → List Text → Text
  | position, width :: widths, label :: rest =>
      if rest.isEmpty then label
      else
        label ++ indentation (width + 1) (position + label.length) (position + width) ++
          rowText (position + width) widths rest
  | _, _, _ => []

def inColumns (width : Nat) (goesDown : Bool) (labels : List Text) : List Text :=
  if labels.isEmpty then []
  else
    let most := max 1 (min labels.length (width / 3))
    let found := (List.range most).reverse.findSome? fun less =>
      (columnWidths? width (less + 1) goesDown labels).map fun widths => (less + 1, widths)
    let (count, widths) := found.getD (1, [0])
    let rows := (labels.length + count - 1) / count
    (List.range rows).map fun row =>
      let cells := if goesDown then
          (List.range count).filterMap fun column => labels[column * rows + row]?
        else (labels.drop (row * count)).take count
      rowText 0 widths cells

def withCommas (width : Nat) (labels : List Text) : Text :=
  let (t, _) := labels.foldl (fun (found : Text × Nat) label =>
    let (t, position) := found
    if t.isEmpty then (label, label.length)
    else if width ≤ position + label.length + 2 + 1 then
      (t ++ ",\n".toList ++ label, label.length)
    else (t ++ ", ".toList ++ label, position + label.length + 2)) ([], 0)
  if labels.isEmpty then [] else t ++ ['\n']

def block (form : Form) (now : Nat) (entries : List Entry) : Text :=
  let blockWidth := ((entries.map fun entry =>
    (blocksText form (blocksOf entry.node)).length).max?).getD 0
  let labels := entries.map fun entry =>
    (if form.showsBlocks then alignRight blockWidth (blocksText form (blocksOf entry.node)) ++ [' ']
      else []) ++ label form entry
  match form.layout with
  | .single => labels.flatMap (· ++ ['\n'])
  | .detailed => (detailed form now entries).flatMap (· ++ ['\n'])
  | .downColumns => (inColumns form.width true labels).flatMap (· ++ ['\n'])
  | .acrossColumns => (inColumns form.width false labels).flatMap (· ++ ['\n'])
  | .commas => withCommas form.width labels

/-!
# Directories
-/

def isShown (form : Form) (name : Text) : Bool :=
  (form.hidden != .none || name.head? != some '.') &&
    !form.ignored.any fun pattern => Pattern.isMatch (Pattern.ofText false pattern) name

def entryAt? (files : FileTree) (form : Form) (follows : Bool) (name path : Text) :
    Except FileError Entry := do
  let target := (files.lookup path).toOption.map (·.2)
  let (_, node) ← if form.followsLinks || follows then files.lookup path else files.lookupLink path
  return ⟨name, node, target⟩

def entriesIn (files : FileTree) (form : Form) (path : Text) : List Entry :=
  let names := (files.namesIn path).toOption.getD []
  let own := (names.filter (isShown form)).filterMap fun name =>
    (entryAt? files form false name (path ++ '/' :: name)).toOption
  let two : List Text := if form.hidden == .all then [".", ".."] else []
  let special := two.filterMap fun name =>
    (entryAt? files form true name (path ++ '/' :: name)).toOption
  sorted form (special ++ own)

def body (form : Form) (now : Nat) (entries : List Entry) : Text :=
  let total := Text.total (entries.map fun entry => blocksOf entry.node)
  let head : Text := if form.layout == .detailed || form.showsBlocks then
    "total ".toList ++ blocksText form total ++ ['\n'] else []
  head ++ block form now entries

def sections (files : FileTree) (form : Form) (now : Nat) : (fuel : Nat) → (path : Text) →
    List (Text × Text)
  | 0, _ => []
  | fuel + 1, path =>
      let entries := entriesIn files form path
      let inner := if !form.isRecursive then [] else
        let isBelow := fun (entry : Entry) =>
          entry.node.isDirectory && entry.name != ['.'] && entry.name != ['.', '.']
        (entries.filter isBelow).flatMap fun entry =>
            let start := if path.getLast? == some '/' then path else path ++ ['/']
            sections files form now fuel (start ++ entry.name)
      (path, body form now entries) :: inner

/-!
# Options
-/

def plainWords : List (Text × Char × Valued) :=
  [("all", 'a', .no), ("almost-all", 'A', .no), ("escape", 'b', .no), ("directory", 'd', .no),
    ("human-readable", 'h', .no), ("inode", 'i', .no), ("kibibytes", 'k', .no),
    ("numeric-uid-gid", 'n', .no), ("literal", 'N', .no), ("no-group", 'G', .no),
    ("hide-control-chars", 'q', .no), ("quote-name", 'Q', .no), ("reverse", 'r', .no),
    ("recursive", 'R', .no), ("size", 's', .no), ("dereference", 'L', .no)]

def otherWords : List (Text × Char × Valued) :=
  [("ignore-backups", 'B', .no), ("ignore", 'I', .yes), ("hide", 'I', .yes), ("width", 'w', .yes),
    ("classify", 'F', .maybe), ("file-type", 'y', .no), ("indicator-style", 'j', .yes),
    ("color", 'J', .maybe), ("sort", 'K', .yes), ("time", 'M', .yes), ("time-style", 'O', .yes),
    ("full-time", 'P', .no), ("format", 'V', .yes), ("group-directories-first", 'Y', .no),
    ("dereference-command-line", 'H', .no), ("si", 'h', .no), ("zero", 'z', .no),
    ("show-control-chars", 'N', .no), ("quoting-style", 'W', .yes), ("block-size", 'e', .yes)]

def forms : OptionForms where
  letters := "abcdfghiklmnopqrstuvw:xABCDFGHI:LNQRST:UXZ1"
  words := plainWords ++ otherWords
  isOrdered := false

def orderOf (given : Given) : Order :=
  match given.last? "tSUXvfK" with
  | some ⟨'t', _⟩ => .byTime
  | some ⟨'S', _⟩ => .bySize
  | some ⟨'X', _⟩ => .byEnding
  | some ⟨'v', _⟩ => .byVersion
  | some ⟨'U', _⟩ | some ⟨'f', _⟩ => .unsorted
  | some ⟨_, some word⟩ =>
      if word == "time" then .byTime else if word == "size" then .bySize
      else if word == "extension" then .byEnding else if word == "version" then .byVersion
      else if word == "none" then .unsorted else .byName
  | _ => .byName

def layoutOf (given : Given) : Layout :=
  match given.last? "lnogC1xmVP" with
  | some ⟨'C', _⟩ => .downColumns
  | some ⟨'x', _⟩ => .acrossColumns
  | some ⟨'m', _⟩ => .commas
  | some ⟨'1', _⟩ => if "lnogP".toList.any given.has then .detailed else .single
  | some ⟨'V', some word⟩ =>
      if word == "long" || word == "verbose" then .detailed
      else if word == "commas" then .commas
      else if word == "across" || word == "horizontal" then .acrossColumns
      else if word == "vertical" then .downColumns else .single
  | some _ => .detailed
  | none => .single

def timeFormatOf (given : Given) : Option Text :=
  if given.has 'P' then some "%Y-%m-%d %H:%M:%S.%N %z"
  else
    match given.value? 'O' with
    | some ('+' :: format) => some format
    | some style =>
        if style == "full-iso" then some "%Y-%m-%d %H:%M:%S.%N %z"
        else if style == "long-iso" then some "%Y-%m-%d %H:%M"
        else none
    | none => none

def marksOf (given : Given) : Marks :=
  match given.last? "pFyj" with
  | some ⟨'p', _⟩ => .directories
  | some ⟨'F', value⟩ =>
      if value.any fun (word : Text) => word == "never" || word == "auto" then .none else .all
  | some ⟨'y', _⟩ => .types
  | some ⟨_, some word⟩ =>
      if word == "slash" then .directories else if word == "classify" then .all
      else if word == "file-type" then .types else .none
  | _ => .none

def form (given : Given) : Form where
  layout := layoutOf given
  order := orderOf given
  isReversed := given.has 'r'
  hidden :=
    match (given.last? "aAf").map (·.key) with
    | some 'A' => .butTwo
    | some _ => .all
    | none => .none
  marks := marksOf given
  writing :=
    match (given.last? "bQqN").map (·.key) with
    | some 'b' => .escaped
    | some 'Q' => .quoted
    | some 'q' => .questions
    | _ => .plain
  listsItself := given.has 'd'
  isRecursive := given.has 'R'
  followsLinks := given.has 'L'
  directoriesFirst := given.has 'Y'
  showsBlocks := given.has 's'
  isHuman := given.has 'h'
  isNumeric := given.has 'n'
  showsOwner := !given.has 'g'
  showsGroup := !given.has 'o' && !given.has 'G'
  timeFormat := timeFormatOf given
  width :=
    match (given.value? 'w').bind Text.toWord? with
    | some 0 => Nat.pow 2 30
    | some n => n
    | none => 80
  ignored := given.values 'I' ++ if given.has 'B' then (["*~", ".*~"] : List Text) else []

def sortWords : List Text :=
  ["none", "time", "size", "extension", "version", "width", "name"]

end Listing

def ls : Program := fun arguments => do
  let given ← given 2 Listing.forms arguments
  for word in given.values 'K' do
    if !Listing.sortWords.contains word then
      remark ("invalid argument " ++ quote word ++ " for '--sort'")
      writeTo .complaints ("Valid arguments are:\n" ++
        (Listing.sortWords.take 6).flatMap fun word => "  - ".toList ++ quote word ++ ['\n'])
      hint
      exit 1
  let form := Listing.form given
  let files ← files
  let operands := if given.operands.isEmpty then [['.']] else given.operands
  let mut entries := []
  for operand in operands do
    let follows := form.layout != .detailed && form.marks != .all && !form.listsItself ||
      given.has 'H'
    let isLost := (files.lookup operand).toOption.isNone
    match Listing.entryAt? files form (follows && !isLost) operand operand with
    | .ok entry => entries := entry :: entries
    | .error error =>
        remark ("cannot access " ++ quoteName operand ++ ": " ++ reason error)
        setStatus 2
  let all := Listing.sorted form entries.reverse
  let isListed := fun (entry : Listing.Entry) => entry.node.isDirectory && !form.listsItself
  let plain := all.filter (!isListed ·)
  let directories := all.filter isListed
  let now ← now
  let first := if plain.isEmpty then [] else [Listing.block form now plain]
  let sections := directories.flatMap fun entry =>
    Listing.sections files form now FileTree.pathLimit entry.name
  let showsPaths := form.isRecursive || 1 < operands.length
  let rest := sections.map fun (path, body) =>
    if showsPaths then path ++ ":\n".toList ++ body else body
  print ((first ++ rest).intersperse ['\n']).flatten

end Program
end Shell
end StubAssist

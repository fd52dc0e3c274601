import StubAssist.Shell.Calendar
import StubAssist.Shell.Difference
import StubAssist.Shell.Regex.Match
import StubAssist.Shell.Regex.Reader
import StubAssist.Shell.Pattern
import StubAssist.Shell.Program.Comparison
import StubAssist.Shell.Program.Facts

/-!
# Differences between files

How one file is made from another, line by line, in several notations.  Directories are
compared by their entries.
-/

namespace StubAssist
namespace Shell
namespace Program

open Activity

namespace Differing

inductive Style where
  | normal
  | unified
  | context
  | editScript
  | forwardScript
  | counted
  | columns
  | merged (name : Text)
deriving DecidableEq, Repr

def Style.isScript : Style → Bool
  | .editScript | .forwardScript => true
  | _ => false

def Style.isWhole : Style → Bool
  | .columns | .merged _ => true
  | _ => false

inductive Blanks where
  | all
  | trailing
  | amount
  | none
deriving DecidableEq, Repr

structure Form where
  style : Style
  around : Nat
  horizon : Nat
  isBrief : Bool
  reportsSame : Bool
  entersDirectories : Bool
  /-- Whether missing files are empty, all of them or only those of the first operand. -/
  takesMissing : Bool
  takesMissingFirst : Bool
  ignoresCase : Bool
  ignored : Blanks
  expandsTabs : Bool
  ignoresTabs : Bool
  ignoresEmpty : Bool
  ignoredLines : List Regex
  dropsReturns : Bool
  isText : Bool
  isMinimal : Bool
  startsWithTab : Bool
  labels : List Text
  width : Nat
  leftOnly : Bool
  leavesOutCommon : Bool
  heading : Option Regex
  excluded : List Pattern
  start : Option Text
  switches : Text

structure Line where
  text : Text
  isEnded : Bool
deriving DecidableEq, Repr

def linesOf (form : Form) (t : Text) : List Line :=
  (pieces '\n' t).map fun piece =>
    let (line, isEnded) := unended '\n' piece
    let line := if form.dropsReturns && isEnded && line.getLast? == some '\r' then line.dropLast
      else line
    ⟨line, isEnded⟩

/-!
# Which lines are the same
-/

def expandTabs : (column : Nat) → Text → Text
  | _, [] => []
  | column, c :: rest =>
      if c == '\t' then
        List.replicate (8 - column % 8) ' ' ++ expandTabs (column + 8 - column % 8) rest
      else if c == '\x08' then c :: expandTabs (column - 1) rest
      else c :: expandTabs (column + 1) rest

def squeezeBlanks (t : Text) : Text :=
  (List.splitBy (fun a b => isSpace a && isSpace b) t).flatMap fun part =>
    if (part.head?.map isSpace).getD false then [' '] else part

def dropTrailing (t : Text) : Text :=
  (t.reverse.dropWhile isSpace).reverse

def essence (form : Form) (line : Line) : Text × Bool :=
  let t := line.text
  let t := if form.ignoresTabs then expandTabs 0 t else t
  let (t, isLoose) := match form.ignored with
    | .all => (t.filter fun c => !isSpace c, true)
    | .amount => (dropTrailing (squeezeBlanks t), true)
    | .trailing => (dropTrailing t, true)
    | .none => (t, false)
  let t := if form.ignoresCase then t.map Char.toLower else t
  (t, line.isEnded || isLoose || form.style.isScript)

/-- Numbers for lines, the same for those that count as the same, and how many there are. -/
def number (essences : List (Text × Bool)) : List Nat × Nat :=
  let sorted := (essences.zip (List.range essences.length)).mergeSort fun a b =>
    if a.1.1 == b.1.1 then decide (a.1.2.toNat ≤ b.1.2.toNat) else decide (a.1.1 < b.1.1)
  let (found, _, count) := sorted.foldl (fun (found, before, count) (essence, index) =>
    let count := if before == some essence then count else count + 1
    ((index, count) :: found, some essence, count))
    (([] : List (Nat × Nat)), (none : Option (Text × Bool)), 0)
  ((found.mergeSort fun a b => a.1 ≤ b.1).map (·.2), count + 1)

def changes (form : Form) (first second : List Line) : List Difference.Change :=
  let (numbers, bound) := number ((first ++ second).map (essence form))
  let exact := fun (line : Line) => (line.text, line.isEnded || form.style.isScript)
  let ends := Difference.commonEnds form.horizon (first.map exact) (second.map exact)
  Difference.changes form.isMinimal bound ends (numbers.take first.length)
    (numbers.drop first.length)

def isIgnored (form : Form) (line : Line) : Bool :=
  let bare := match form.ignored with
    | .all | .amount => line.text.dropWhile isSpace
    | .trailing => if line.text.all isSpace then [] else line.text
    | .none => line.text
  (form.ignoresEmpty && bare.isEmpty) ||
    form.ignoredLines.any fun regex =>
      (Regex.Search.of regex false (.ofText none line.text)).hasMatch

structure Report where
  form : Form
  first : Array Line
  second : Array Line

def Report.deleted (report : Report) (change : Difference.Change) : List Line :=
  ((report.first.toList.drop change.first).take change.deleted)

def Report.inserted (report : Report) (change : Difference.Change) : List Line :=
  ((report.second.toList.drop change.second).take change.inserted)

def Report.isTrivial (report : Report) (change : Difference.Change) : Bool :=
  (report.form.ignoresEmpty || !report.form.ignoredLines.isEmpty) &&
    (report.deleted change ++ report.inserted change).all (isIgnored report.form)

/-!
# Lines
-/

def lineText (form : Form) (line : Line) : Text :=
  if form.expandsTabs then expandTabs 0 line.text else line.text

def Report.marked (report : Report) (mark : Text) (line : Line) : Text :=
  mark ++ lineText report.form line ++
    if line.isEnded then ['\n'] else "\n\\ No newline at end of file\n".toList

def Report.allMarked (report : Report) (mark : Char) (lines : List Line) : Text :=
  let mark := if report.form.startsWithTab then [mark, '\t'] else [mark, ' ']
  lines.flatMap (report.marked mark)

def range (separator : Char) (start count : Nat) : Text :=
  if count ≤ 1 then Text.ofNat (start + count)
  else Text.ofNat (start + 1) ++ separator :: Text.ofNat (start + count)

def letter (change : Difference.Change) : Char :=
  if change.deleted == 0 then 'a' else if change.inserted == 0 then 'd' else 'c'

def Report.normal (report : Report) (change : Difference.Change) : Text :=
  range ',' change.first change.deleted ++ letter change ::
    range ',' change.second change.inserted ++ '\n' ::
    report.allMarked '<' (report.deleted change) ++
    (if change.deleted != 0 && change.inserted != 0 then "---\n" else "").toList ++
    report.allMarked '>' (report.inserted change)

/-!
# Scripts
-/

/-- Lines as the text of a command; a line with only a point is written in two steps. -/
def scriptText : List Line → Text
  | [] => ['.', '\n']
  | line :: rest =>
      if line.text == "." then
        "..\n.\ns/.//\n".toList ++ if rest.isEmpty then [] else "a\n".toList ++ scriptText rest
      else line.text ++ '\n' :: scriptText rest

def Report.editStep (report : Report) (change : Difference.Change) : Text :=
  range ',' change.first change.deleted ++ letter change :: '\n' ::
    if change.inserted == 0 then [] else scriptText (report.inserted change)

def Report.forwardStep (report : Report) (change : Difference.Change) : Text :=
  letter change :: range ' ' change.first change.deleted ++ '\n' ::
    if change.inserted == 0 then []
    else (report.inserted change).flatMap (fun line => line.text ++ ['\n']) ++ ['.', '\n']

def Report.countedStep (report : Report) (change : Difference.Change) : Text :=
  (if change.deleted == 0 then []
    else 'd' :: Text.ofNat (change.first + 1) ++ ' ' :: Text.ofNat change.deleted ++ ['\n']) ++
  if change.inserted == 0 then []
  else
    'a' :: Text.ofNat (change.first + change.deleted) ++ ' ' :: Text.ofNat change.inserted ++
      '\n' :: (report.inserted change).flatMap fun line =>
        line.text ++ if line.isEnded then ['\n'] else []

/-!
# Lines around changes
-/

def hunks (report : Report) (changes : List Difference.Change) :
    List (List Difference.Change) :=
  let around := report.form.around
  changes.foldr (fun change hunks =>
    match hunks with
    | (next :: others) :: rest =>
        let limit := if report.isTrivial change || report.isTrivial next then around
          else 2 * around + 1
        if next.first - (change.first + change.deleted) < limit then
          (change :: next :: others) :: rest
        else [change] :: (next :: others) :: rest
    | _ => [change] :: hunks) []

/-- The lines that a hunk shows in both files: where they start and how many there are. -/
structure Extent where
  first : Nat
  firstCount : Nat
  second : Nat
  secondCount : Nat

def extent (report : Report) (hunk : List Difference.Change) : Option Extent := do
  let start ← hunk.head?
  let stop ← hunk.getLast?
  let around := report.form.around
  let before := min around start.first
  let after := min around (report.first.size - (stop.first + stop.deleted))
  let first := start.first - before
  let second := start.second - before
  return ⟨first, stop.first + stop.deleted + after - first, second,
    stop.second + stop.inserted + after - second⟩

def headingText (report : Report) (start : Nat) : Text :=
  match report.form.heading with
  | none => []
  | some regex =>
      let before := (report.first.toList.take start).reverse
      let found := before.find? fun line =>
        (Regex.Search.of regex false (.ofText none line.text)).hasMatch
      match found with
      | some line => ' ' :: (dropTrailing (line.text.take 40))
      | none => []

def Report.lineAt (report : Report) (index : Nat) : List Line :=
  (report.first[index]?).toList

def Report.commonLines (report : Report) (mark : Text) (start stop : Nat) : Text :=
  (List.range (stop - start)).flatMap fun i =>
    (report.lineAt (start + i)).flatMap (report.marked mark)

def unifiedRange (start count : Nat) : Text :=
  if count == 1 then Text.ofNat (start + 1)
  else Text.ofNat (if count == 0 then start else start + 1) ++ ',' :: Text.ofNat count

def Report.unified (report : Report) (hunk : List Difference.Change) : Text :=
  match extent report hunk with
  | none => []
  | some extent =>
      let mark := fun (c : Char) => if report.form.startsWithTab then
        (if c == ' ' then ['\t'] else [c, '\t']) else [c]
      let (body, place) := hunk.foldl (fun (body, place) change =>
        (body ++ report.commonLines (mark ' ') place change.first ++
          (report.deleted change).flatMap (report.marked (mark '-')) ++
          (report.inserted change).flatMap (report.marked (mark '+')),
          change.first + change.deleted)) (([] : Text), extent.first)
      "@@ -".toList ++ unifiedRange extent.first extent.firstCount ++ " +".toList ++
        unifiedRange extent.second extent.secondCount ++ " @@".toList ++
        headingText report extent.first ++ '\n' ::
        body ++ report.commonLines (mark ' ') place (extent.first + extent.firstCount)

def contextRange (start count : Nat) : Text :=
  if count ≤ 1 then Text.ofNat (start + count)
  else Text.ofNat (start + 1) ++ ',' :: Text.ofNat (start + count)

def Report.side (report : Report) (lines : Array Line) (start count : Nat)
    (runs : List (Nat × Nat × Char)) : Text :=
  (List.range count).flatMap fun i =>
    let index := start + i
    let run := runs.find? fun (first, size, _) => first ≤ index && index < first + size
    let mark := match run with
      | some (_, _, c) => c
      | none => ' '
    let mark := if report.form.startsWithTab then [mark, '\t'] else [mark, ' ']
    (lines[index]?.toList).flatMap (report.marked mark)

def Report.context (report : Report) (hunk : List Difference.Change) : Text :=
  match extent report hunk with
  | none => []
  | some extent =>
      let deletes := hunk.any fun change => change.deleted != 0
      let inserts := hunk.any fun change => change.inserted != 0
      let old := hunk.map fun change =>
        (change.first, change.deleted, if change.inserted == 0 then '-' else '!')
      let new := hunk.map fun change =>
        (change.second, change.inserted, if change.deleted == 0 then '+' else '!')
      "***************".toList ++ headingText report extent.first ++ "\n*** ".toList ++
        contextRange extent.first extent.firstCount ++ " ****\n".toList ++
        (if deletes then report.side report.first extent.first extent.firstCount old else []) ++
        "--- ".toList ++ contextRange extent.second extent.secondCount ++ " ----\n".toList ++
        if inserts then report.side report.second extent.second extent.secondCount new else []

/-!
# Side by side
-/

def columnWidths (form : Form) : Nat × Nat :=
  let step := if form.expandsTabs then 1 else 8
  let place := (form.width + step + 3) / (2 * step) * step
  let half := min (place - 3) (form.width - place)
  (half, if half == 0 then form.width else place)

def fitting (form : Form) (limit : Nat) : (column : Nat) → Text → Text × Nat
  | column, [] => ([], column)
  | column, c :: rest =>
      let next := if c == '\t' then column + 8 - column % 8 else column + 1
      if limit < next then
        if c == '\t' then ([], column) else fitting form limit column rest
      else
        let (shown, stop) := fitting form limit next rest
        let filled := if c == '\t' && form.expandsTabs then List.replicate (next - column) ' ' else [c]
        (filled ++ shown, stop)

def tabsTo (form : Form) : (fuel : Nat) → (column stop : Nat) → Text
  | 0, _, _ => []
  | fuel + 1, column, stop =>
      if stop ≤ column then []
      else
        let next := column + 8 - column % 8
        if !form.expandsTabs && next ≤ stop then '\t' :: tabsTo form fuel next stop
        else List.replicate (stop - column) ' '

def pairText (form : Form) (left right : Option Line) (sign : Char) : Text :=
  let (half, place) := columnWidths form
  let (leftText, column) :=
    match left with
    | some line => fitting form half 0 line.text
    | none => ([], 0)
  let sign := match left, right with
    | some a, some b =>
        if sign != ' ' then
          if sign == '|' && a.isEnded != b.isEnded then (if a.isEnded then '/' else '\\') else sign
        else sign
    | _, _ => sign
  let gutter := (half + place - 1) / 2
  let (middle, column) :=
    if sign == ' ' then ([], column)
    else (tabsTo form (place + 1) column gutter ++ [sign], gutter + 1)
  let isEnded := fun (line : Option Line) => (line.map (·.isEnded)).getD false
  let ending := if isEnded left || isEnded right then ['\n'] else []
  match right with
  | some line =>
      if line.text.isEmpty && line.isEnded then leftText ++ middle ++ ending
      else
        leftText ++ middle ++ tabsTo form (place + 1) column place ++
          (fitting form half 0 line.text).1 ++ ending
  | none => leftText ++ middle ++ ending

def Report.columns (report : Report) (changes : List Difference.Change) : Text :=
  let form := report.form
  let common := fun (start stop otherStart : Nat) =>
    if form.leavesOutCommon then []
    else
      (List.range (stop - start)).flatMap fun i =>
        let left := report.first[start + i]?
        let right := report.second[otherStart + i]?
        if form.leftOnly then pairText form left none '('
        else pairText form left right ' '
  let (body, place, other) := changes.foldl (fun (body, place, other) change =>
    let deleted := report.deleted change
    let inserted := report.inserted change
    let both := min change.deleted change.inserted
    (body ++ common place change.first other ++
      ((deleted.zip inserted).flatMap fun (a, b) => pairText form (some a) (some b) '|') ++
      ((inserted.drop both).flatMap fun b => pairText form none (some b) '>') ++
      ((deleted.drop both).flatMap fun a => pairText form (some a) none '<'),
      change.first + change.deleted, change.second + change.inserted))
    (([] : Text), 0, 0)
  body ++ common place report.first.size other

/-!
# Both files in one
-/

def Report.merged (report : Report) (name : Text) (changes : List Difference.Change) : Text :=
  let ended := fun (lines : List Line) => lines.flatMap fun line => line.text ++ ['\n']
  let common := fun (start stop : Nat) =>
    ((report.first.toList.drop start).take (stop - start)).flatMap fun line =>
      line.text ++ if line.isEnded then ['\n'] else []
  let (body, place) := changes.foldl (fun (body, place) change =>
    let deleted := ended (report.deleted change)
    let inserted := ended (report.inserted change)
    let block :=
      if change.deleted == 0 then
        "#ifdef " ++ name ++ '\n' :: inserted ++ "#endif /* " ++ name ++ " */\n".toList
      else
        "#ifndef " ++ name ++ '\n' :: deleted ++
          (if change.inserted == 0 then "#endif /* ! " ++ name ++ " */\n".toList
            else
              "#else /* " ++ name ++ " */\n".toList ++ inserted ++ "#endif /* " ++ name ++
                " */\n".toList)
    (body ++ common place change.first ++ block, change.first + change.deleted))
    (([] : Text), 0)
  body ++ common place report.first.size

/-!
# Files
-/

/-- What one of the two files is: its text, with its time, or nothing. -/
structure Source where
  name : Text
  text : Text
  time : Nat

def timeText (style : Style) (time : Nat) : Text :=
  let template : Text := if style == .context then "%a %b %e %H:%M:%S %Y"
    else "%Y-%m-%d %H:%M:%S.%N %z"
  Moment.format (Moment.ofSeconds (time / 1000 : Nat)) (time % 1000 * 1000000)
    (template.length + 1) template

def header (form : Form) (first second : Source) : Text :=
  let (markA, markB) : Text × Text :=
    if form.style == .context then ("*** ", "--- ") else ("--- ", "+++ ")
  let line := fun (mark : Text) (label : Option Text) (source : Source) =>
    mark ++ (match label with
      | some label => label
      | none => source.name ++ '\t' :: timeText form.style source.time) ++ ['\n']
  line markA form.labels[0]? first ++ line markB form.labels[1]? second

/-- What is shown for two texts, and whether they differ in anything that counts. -/
def Report.text (report : Report) (first second : Source) : Text × Bool :=
  let form := report.form
  let all := changes form report.first.toList report.second.toList
  let differs := all.any fun change => !report.isTrivial change
  let counting := all.filter fun change => !report.isTrivial change
  let shownHunks := (hunks report (all.dropWhile report.isTrivial)).filter fun hunk =>
    hunk.any fun change => !report.isTrivial change
  let shown := match form.style with
    | .normal => counting.flatMap report.normal
    | .unified => if differs then header form first second ++ shownHunks.flatMap report.unified
        else []
    | .context => if differs then header form first second ++ shownHunks.flatMap report.context
        else []
    | .editScript => counting.reverse.flatMap report.editStep
    | .forwardScript => counting.flatMap report.forwardStep
    | .counted => counting.flatMap report.countedStep
    | .columns => report.columns all
    | .merged name => report.merged name all
  (shown, differs)

/-- Says that two files differ or not; whether they are the same. -/
def tell (form : Form) (first second : Source) (same : Bool) : Activity Unit := do
  if same then
    if form.reportsSame then
      print ("Files " ++ first.name ++ " and ".toList ++ second.name ++ " are identical\n".toList)

def complainOfEnds (form : Form) (first second : Source) : Activity Unit := do
  if form.style.isScript then
    for source in [first, second] do
      if !source.text.isEmpty && source.text.getLast? != some '\n' then
        remark (source.name ++ ": No newline at end of file")
        writeTo .complaints "\n"
        setStatus 2

def compareTexts (form : Form) (title : Text) (first second : Source) : Activity Bool := do
  let isBinary := !form.isText &&
    (List.contains first.text '\x00' || List.contains second.text '\x00')
  let isPlain := form.ignored == .none && !form.ignoresCase && !form.ignoresEmpty &&
    !form.ignoresTabs && !form.dropsReturns && form.ignoredLines.isEmpty
  if first.text == second.text && !form.style.isWhole then
    if first.name != second.name then complainOfEnds form first second
    tell form first second true
    return true
  let differ := fun (start : Text) =>
    print (start ++ first.name ++ " and ".toList ++ second.name ++ " differ\n".toList)
  if isBinary then
    if first.text == second.text then
      tell form first second true
      return true
    else
      differ (if form.isBrief then "Files " else "Binary files ")
      return false
  if form.isBrief && isPlain then
    differ "Files "
    return false
  let report : Report :=
    ⟨form, (linesOf form first.text).toArray, (linesOf form second.text).toArray⟩
  let (shown, differs) := report.text first second
  if form.isBrief then
    if differs then differ "Files "
  else if !shown.isEmpty then print (title ++ shown)
  complainOfEnds form first second
  if !differs then tell form first second true
  return !differs

inductive Found where
  | directory (names : List Text)
  | text (source : Source)
  | missing
  | broken (error : FileError)

def look (path : Text) : Activity Found := do
  if path == "-" then
    match ← contents path with
    | .ok t => return .text ⟨path, t, (← now)⟩
    | .error error => return .broken error
  else
    match (← files).lookup path with
    | .ok (_, .directory entries _) => return .directory (entries.map (·.1))
    | .ok (_, node) =>
        match ← contents path with
        | .ok t => return .text ⟨path, t, node.attributes.time⟩
        | .error error => return .broken error
    | .error .notFound => return .missing
    | .error error => return .broken error

def worse (status : Nat) : Activity Unit :=
  modify fun scene => { scene with status := max scene.status status }

def inside (directory name : Text) : Text :=
  if directory.getLast? == some '/' then directory ++ name else directory ++ '/' :: name

def kindAt (path : Text) : Activity Text := do
  match (← files).lookup path with
  | .ok (_, node) => return kindOf node
  | .error _ => return "file"

def complainOf (path : Text) (found : Found) : Activity Unit := do
  match found with
  | .missing => remark (path ++ ": " ++ reason .notFound)
  | .broken error => remark (path ++ ": " ++ reason error)
  | _ => return ()

def isLost : Found → Bool
  | .missing | .broken _ => true
  | _ => false

def compare (form : Form) : (fuel : Nat) → (depth : Nat) → (first second : Text) → Activity Unit
  | 0, _, _, _ => return ()
  | fuel + 1, depth, first, second => do
      let a ← look first
      let b ← if first == second then pure a else look second
      let emptyFor := fun (name : Text) => Found.text ⟨name, [], 0⟩
      let adapt := fun (isFirst : Bool) (name : Text) (found other : Found) =>
        match found, other with
        | .missing, .text _ =>
            if form.takesMissing || (isFirst && form.takesMissingFirst) then emptyFor name
            else found
        | .missing, .directory _ =>
            if form.takesMissing || (isFirst && form.takesMissingFirst) then .directory []
            else found
        | _, _ => found
      let a' := adapt true first a b
      let b' := adapt false second b a
      match a', b' with
      | .text x, .text y =>
          let title : Text := if depth == 0 then []
            else "diff".toList ++ form.switches ++ ' ' :: quoteIfNeeded first ++ ' ' ::
              quoteIfNeeded second ++ ['\n']
          if !(← compareTexts form title x y) then worse 1
      | .directory namesA, .directory namesB =>
          let files ← files
          if (files.resolve first).toOption == (files.resolve second).toOption then return ()
          if depth != 0 && !form.entersDirectories then
            print ("Common subdirectories: " ++ first ++ " and ".toList ++ second ++ ['\n'])
          else
            let isIncluded := fun (name : Text) => !form.excluded.any fun p => p.isMatch name
            let all := ((namesA ++ namesB).filter isIncluded).mergeSort fun a b => !decide (b < a)
            for name in all.eraseReps do
              let isDue := depth != 0 || (match form.start with
                | some start => !decide (name < start)
                | none => true)
              if isDue then
                let inA := namesA.contains name
                let inB := namesB.contains name
                let takes := form.takesMissing || (!inA && form.takesMissingFirst)
                if (inA && inB) || takes then
                  compare form fuel (depth + 1) (inside first name) (inside second name)
                else
                  print ("Only in " ++ (if inA then first else second) ++ ": ".toList ++ name ++
                    ['\n'])
                  worse 1
      | .directory _, .text _ | .text _, .directory _ =>
          if depth == 0 then
            let isFirstDirectory := match a' with
              | .directory _ => true
              | _ => false
            if first == "-" || second == "-" then
              fail 2 "cannot compare '-' to a directory"
            if isFirstDirectory then
              compareNext (inside first (lastName second)) second
            else compareNext first (inside second (lastName first))
          else
            print ("File " ++ first ++ " is a ".toList ++ (← kindAt first) ++
              " while file ".toList ++ second ++ " is a ".toList ++ (← kindAt second) ++ ['\n'])
            worse 1
      | _, _ =>
          if isLost a' then complainOf first a'
          if isLost b' && first != second then complainOf second b'
          worse 2
where
  compareNext (first second : Text) : Activity Unit := do
    let a ← look first
    let b ← look second
    match a, b with
    | .text x, .text y => if !(← compareTexts form [] x y) then worse 1
    | _, _ =>
        if isLost a then complainOf first a
        if isLost b then complainOf second b
        worse 2

/-!
# Options
-/

def choose (style : Style) (chosen : Option Style) : Activity (Option Style) := do
  match chosen with
  | some other =>
      if other != style then misuseNamed 2 "conflicting output style options"
      return some style
  | none => return some style

def size (what t : Text) : Activity Nat := do
  match if t.isEmpty then none else Text.digitsFrom? 0 t with
  | some n => return n
  | none => misuseNamed 2 ("invalid " ++ what ++ " " ++ quote t)

def expression (t : Text) : Activity Regex := do
  match Regex.parse .basic t with
  | .ok regex => return regex
  | .error flaw => fail 2 (t ++ ": " ++ flaw.message)

/-- Words for options; some letters stand for options that have none. -/
def plainWords : List (Text × Char × Valued) :=
  [("brief", 'q', .no), ("context", '\x01', .maybe), ("ed", 'e', .no),
    ("exclude", 'x', .yes), ("expand-tabs", 't', .no), ("forward-ed", 'f', .no),
    ("horizon-lines", '\x02', .yes), ("ifdef", 'D', .yes), ("ignore-all-space", 'w', .no),
    ("ignore-blank-lines", 'B', .no), ("ignore-case", 'i', .no),
    ("ignore-matching-lines", 'I', .yes), ("ignore-space-change", 'b', .no),
    ("ignore-tab-expansion", 'E', .no), ("ignore-trailing-space", 'Z', .no),
    ("initial-tab", 'T', .no), ("label", 'L', .yes), ("left-column", '\x03', .no)]

def moreWords : List (Text × Char × Valued) :=
  [("minimal", 'd', .no), ("new-file", 'N', .no), ("normal", '\x04', .no), ("rcs", 'n', .no),
    ("recursive", 'r', .no), ("report-identical-files", 's', .no),
    ("show-c-function", 'p', .no), ("show-function-line", 'F', .yes), ("side-by-side", 'y', .no),
    ("speed-large-files", 'H', .no), ("starting-file", 'S', .yes),
    ("strip-trailing-cr", '\x05', .no), ("suppress-common-lines", '\x06', .no),
    ("text", 'a', .no), ("unidirectional-new-file", 'P', .no), ("unified", '\x07', .maybe),
    ("width", 'W', .yes), ("color", '\x08', .maybe), ("no-dereference", '\x0b', .no),
    ("ignore-file-name-case", '\x0c', .no), ("tabsize", '\x0e', .yes), ("paginate", 'l', .no)]

def forms : OptionForms where
  letters := "0123456789abBcC:dD:eEfF:hHiI:lL:nNpPqrsS:tTuU:vwW:x:X:yZ"
  words := plainWords ++ moreWords
  isOrdered := false

def switchesOf (arguments operands : List Text) : Text :=
  let (found, _) := arguments.foldl (fun (found, left) argument =>
    match left with
    | operand :: left =>
        if argument == operand then (found, left) else (found ++ [argument], operand :: left)
    | [] => (found ++ [argument], [])) (([] : List Text), operands)
  found.flatMap fun t => ' ' :: quoteIfNeeded t

def styleOf (given : Given) : Activity (Option Style × Option Nat) := do
  let mut style : Option Style := none
  let mut around : Option Nat := none
  for option in given.options do
    let value := option.value
    match option.key with
    | 'c' => style ← choose .context style
    | 'C' | '\x01' => do
        style ← choose .context style
        match value with
        | some t => around := some (max (← size "context length" t) (around.getD 0))
        | none => pure ()
    | 'u' => style ← choose .unified style
    | 'U' | '\x07' => do
        style ← choose .unified style
        match value with
        | some t => around := some (max (← size "context length" t) (around.getD 0))
        | none => pure ()
    | 'e' => style ← choose .editScript style
    | 'f' => style ← choose .forwardScript style
    | 'n' => style ← choose .counted style
    | 'y' => style ← choose .columns style
    | '\x04' => style ← choose .normal style
    | 'D' => style ← choose (.merged (value.getD [])) style
    | _ => pure ()
  return (style, around)

def digitsOf (given : Given) : Option Nat :=
  let digits := (given.options.filter fun option => option.key.isDigit).map (·.key)
  if digits.isEmpty then none else Text.digitsFrom? 0 digits

def blanksOf (given : Given) : Blanks :=
  if given.has 'w' then .all else if given.has 'b' then .amount
  else if given.has 'Z' then .trailing else .none

def formOf (given : Given) (arguments : List Text) : Activity Form := do
  let (style, around) ← styleOf given
  let heading ←
    match given.value? 'F' with
    | some t => do pure (some (← expression t))
    | none => if given.has 'p' then do pure (some (← expression "^[[:alpha:]$_]")) else pure none
  let mut ignoredLines := []
  for t in given.values 'I' do
    ignoredLines := ignoredLines ++ [← expression t]
  let width ←
    match given.value? 'W' with
    | some t => do
        match if t.isEmpty then none else Text.digitsFrom? 0 t with
        | some (n + 1) => pure (n + 1)
        | _ => misuseNamed 2 ("invalid width " ++ quote t)
    | none => pure 130
  let horizon ←
    match given.value? '\x02' with
    | some t => size "horizon length" t
    | none => pure 0
  if 2 < (given.values 'L').length then misuseNamed 2 "too many file label options"
  let style := style.getD (if given.has 'p' then .context else .normal)
  let around := match digitsOf given with
    | some n => n
    | none => around.getD 3
  let around := if style == .unified || style == .context then around else 0
  return {
    style := style, around := around, horizon := max horizon around, isBrief := given.has 'q',
    reportsSame := given.has 's', entersDirectories := given.has 'r',
    takesMissing := given.has 'N', takesMissingFirst := given.has 'P',
    ignoresCase := given.has 'i', ignored := blanksOf given, expandsTabs := given.has 't',
    ignoresTabs := given.has 'E', ignoresEmpty := given.has 'B', ignoredLines := ignoredLines,
    dropsReturns := given.has '\x05', isText := given.has 'a', isMinimal := given.has 'd',
    startsWithTab := given.has 'T', labels := given.values 'L', width := width,
    leftOnly := given.has '\x03', leavesOutCommon := given.has '\x06', heading := heading,
    excluded := (given.values 'x').map Pattern.ofArgument, start := given.value? 'S',
    switches := switchesOf arguments given.operands }

def depthLimit : Nat := 2048

end Differing

def diff : Program := fun arguments => do
  let given ← givenNamed 2 Differing.forms arguments
  let form ← Differing.formOf given arguments
  match given.operands with
  | [] => misuseNamed 2 ("missing operand after " ++ quote (arguments.getLastD
      (← surroundings).name))
  | [_] => misuseNamed 2 ("missing operand after " ++ quote (arguments.getLastD []))
  | [first, second] => Differing.compare form Differing.depthLimit 0 first second
  | _ :: _ :: extra :: _ => misuseNamed 2 ("extra operand " ++ quote extra)

end Program
end Shell
end StubAssist

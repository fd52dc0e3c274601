import StubAssist.Shell.Program

/-!
# Filled paragraphs

The words of a paragraph are put on lines of about the same width.  Of all ways to break
the paragraph into lines, the cheapest one is taken: a line costs by what it lacks, by
its difference from the next one, and by the words that it is broken between.
-/

namespace StubAssist
namespace Shell
namespace Program

open Activity

namespace Filling

/-- How lines are indented in a paragraph, and which lines make one. -/
inductive Kind where
  | plain
  | crown
  | tagged
  | split
deriving DecidableEq, Repr

structure Style where
  width : Nat
  goal : Nat
  kind : Kind
  isUniform : Bool
  /-- What each line starts with, without blanks around it, how many there are in front
  of it, and how long it is with those after it. -/
  mark : Text
  lead : Nat
  size : Nat
deriving DecidableEq, Repr

structure Word where
  text : Text
  space : Nat
  isOpening : Bool
  isPeriod : Bool
  isPunctuated : Bool
  isFinal : Bool
deriving DecidableEq, Repr

/-!
# The cheapest lines
-/

/-- How a part of the paragraph is broken best that starts with some word. -/
structure Plan where
  cost : Int
  count : Nat
  length : Nat
  isLast : Bool
deriving DecidableEq, Repr

def square (n : Int) : Int :=
  n * n

def shortCost (n : Int) : Int :=
  square (10 * n)

def raggedCost (n : Int) : Int :=
  shortCost n / 2

/-- What it costs to break before a word, after others, of which the nearest is first. -/
def breakCost (before : List Word) (word : Word) : Int :=
  let first : Int :=
    match before with
    | [] => 0
    | last :: others =>
        if last.isPeriod then (if last.isFinal then - square 50 else square 600)
        else if last.isPunctuated then - square 40
        else if (others.head?.map (·.isFinal)).getD false then
          square 200 / (last.text.length + 2 : Int)
        else 0
  let second : Int :=
    if word.isOpening then - square 40
    else if word.isFinal then square 150 / (word.text.length + 2 : Int)
    else 0
  square 70 + first + second

def lineCost (style : Style) (length : Nat) (next : Plan) : Int :=
  let lacking := shortCost ((style.goal : Int) - length)
  if next.isLast then lacking else lacking + raggedCost ((length : Int) - next.length)

/-- The best plan that starts with a word.  `count` words with `length` are on the line
so far, of which the last has `space` after it; the rest follow with their plans. -/
def plan (style : Style) (previous : Nat) (count length space : Nat) (best : Option Plan) :
    List (Word × Plan) → Option Plan
  | [] => better best ⟨extra, count, length, true⟩
  | (word, next) :: rest =>
      let best := better best
        ⟨lineCost style length next + next.cost + extra, count, length, false⟩
      let longer := length + space + word.text.length
      if longer < style.width then plan style previous (count + 1) longer word.space best rest
      else best
where
  /-- What a difference from the line before costs, if that has been written already. -/
  extra : Int := if previous == 0 then 0 else raggedCost ((length : Int) - previous)
  better (best : Option Plan) (other : Plan) : Option Plan :=
    match best with
    | some plan => if other.cost < plan.cost then some other else some plan
    | none => some other

def plans (style : Style) (first other previous : Nat) :
    (before : List Word) → List Word → List (Word × Plan)
  | _, [] => []
  | before, word :: rest =>
      let later := plans style first other previous (word :: before) rest
      let indent := if before.isEmpty then first else other
      let previous := if before.isEmpty then previous else 0
      match plan style previous 1 (indent + word.text.length) word.space none later with
      | some found => (word, { found with cost := found.cost + breakCost before word }) :: later
      | none => later

/-!
# Reading lines
-/

structure Start where
  indent : Nat
  column : Nat
  rest : Text
  isEnded : Bool
  hasTab : Bool
deriving DecidableEq, Repr

def skipBlanks (column : Nat) : Text → Nat × Text × Bool
  | ' ' :: rest => skipBlanks (column + 1) rest
  | '\t' :: rest =>
      let (column, rest, _) := skipBlanks (column + 8 - column % 8) rest
      (column, rest, true)
  | rest => (column, rest, false)

def common : Text → Text → Nat
  | a :: mark, b :: rest => if a == b then common mark rest + 1 else 0
  | _, _ => 0

def start (style : Style) (line : Text) (isEnded : Bool) : Start :=
  let (column, rest, hasTab) := skipBlanks 0 line
  if style.mark.isEmpty then ⟨min style.lead column, column, rest, isEnded, hasTab⟩
  else
    let count := common style.mark rest
    let after := rest.drop count
    if count < style.mark.length then ⟨column, column + count, after, isEnded, hasTab⟩
    else
      let (after, rest, hasMore) := skipBlanks (column + count) after
      ⟨column, after, rest, isEnded, hasTab || hasMore⟩

def Start.isText (start : Start) (style : Style) : Bool :=
  !start.rest.isEmpty && style.lead ≤ start.indent && start.indent + style.size ≤ start.column

def isPunctuation (c : Char) : Bool :=
  '!' ≤ c && c ≤ '~' && !c.isAlphanum

/-- A word with `space` blanks after it, which may be the last of a line, or of all. -/
def word (style : Style) (text : Text) (space : Nat) (isLast isEnd : Bool) : Word :=
  let closed := text.reverse
  let stem := match closed.dropWhile (List.contains ")]'\"".toList) with
    | [] => text.head?.toList
    | stem => stem
  let isPeriod := (stem.head?.map (List.contains ".?!".toList)).getD false
  let isFinal := isEnd || (isPeriod && (isLast || 1 < space))
  { text := text
    space := if isLast || style.isUniform then (if isFinal then 2 else 1) else space
    isOpening := (text.head?.map (List.contains "(['\x60\"".toList)).getD false
    isPeriod := isPeriod
    isPunctuated := (closed.head?.map isPunctuation).getD false
    isFinal := isFinal }

/-- The words of a line from a column on, and whether there is a tab between them;
`fuel` bounds the length of the line. -/
def words (style : Style) (isEnded : Bool) : (fuel : Nat) → (column : Nat) → Text →
    List Word × Bool
  | 0, _, _ => ([], false)
  | _, _, [] => ([], false)
  | fuel + 1, column, c :: t =>
      let text := c :: t.takeWhile (!isSpace ·)
      let after := t.dropWhile (!isSpace ·)
      let reached := column + text.length
      let (column, rest, hasTab) := skipBlanks reached after
      let found := word style text (column - reached) rest.isEmpty (rest.isEmpty && !isEnded)
      let (others, hasMore) := words style isEnded fuel column rest
      (found :: others, hasTab || hasMore)

/-!
# Writing lines
-/

def blanks (hasTabs : Bool) (column count : Nat) : Text :=
  let target := column + count
  let stop := target / 8 * 8
  if hasTabs && column + 1 < stop then
    List.replicate (stop / 8 - column / 8) '\t' ++ List.replicate (target - stop) ' '
  else List.replicate count ' '

def joined (hasTabs : Bool) : (column : Nat) → List Word → Text × Nat
  | column, [] => ([], column)
  | column, [word] => (word.text, column + word.text.length)
  | column, word :: others =>
      let reached := column + word.text.length
      let (rest, column) := joined hasTabs (reached + word.space) others
      (word.text ++ blanks hasTabs reached word.space ++ rest, column)

structure State where
  written : List Text
  hasTabs : Bool
  /-- The words that are not written yet, and those of them that start the paragraph. -/
  words : List Word
  indent : Nat
  first : Nat
  other : Nat
  /-- How long the last line was that has been written, if it is of this paragraph. -/
  previous : Nat

namespace State

def write (state : State) (t : Text) : State :=
  { state with written := t :: state.written }

def writeLine (state : State) (style : Style) (indent : Nat) (line : List Word) : State :=
  let front := blanks state.hasTabs 0 state.indent
  let column := state.indent + style.mark.length
  let (t, reached) := joined state.hasTabs (column + (indent - column)) line
  let t := front ++ style.mark ++ blanks state.hasTabs column (indent - column) ++ t
  { (state.write (t ++ ['\n'])) with previous := reached }

def writeLines (style : Style) (left : Nat) : (fuel : Nat) → (indent : Nat) → State →
    List (Word × Plan) → State
  | 0, _, state, _ => state
  | _, _, state, [] => state
  | fuel + 1, indent, state, (word, plan) :: rest =>
      let all := (word, plan) :: rest
      if all.length ≤ left then state
      else
        let state := state.writeLine style indent ((all.take plan.count).map (·.1))
        writeLines style left fuel state.other state (all.drop plan.count)

def planned (state : State) (style : Style) : List (Word × Plan) :=
  plans style state.first state.other state.previous [] state.words

def writeAll (state : State) (style : Style) : State :=
  let state := writeLines style 0 (state.words.length + 1) state.first state (state.planned style)
  { state with words := [], previous := 0 }

def stop : (fuel : Nat) → (best : Option Int) → (left : Nat) → List (Word × Plan) → Nat
  | 0, _, left, _ => left
  | _, _, left, [] => left
  | fuel + 1, best, left, (word, plan) :: rest =>
      let all := (word, plan) :: rest
      let after := all.drop plan.count
      let cost := plan.cost - ((after.head?.map (·.2.cost)).getD 0)
      let isBetter : Bool := match best with
        | some best => cost < best
        | none => true
      let best := if isBetter then cost else best.getD 0
      stop fuel (some (best + square 3)) (if isBetter then all.length else left) after

/-- Writes some of the words to make room for more, where a paragraph is too long. -/
def writeSome (state : State) (style : Style) : State :=
  let all := state.planned style
  let size := (all.head?.map (·.2.count)).getD 0
  let left := stop all.length none 0 (all.drop size)
  let state := writeLines style left (all.length + 1) state.first state all
  { state with words := state.words.drop (state.words.length - left) }

def room : Nat := 5000
def roomForWords : Nat := 998

def addWord (style : Style) (word : Word) : (fuel : Nat) → State → State
  | 0, state => state
  | fuel + 1, state =>
      let used := Text.total (state.words.map (·.text.length))
      if room < used + word.text.length then
        if state.words.isEmpty then
          addWord style { word with text := word.text.drop room } fuel
            (state.write (word.text.take room))
        else addWord style word fuel (state.writeSome style)
      else
        let state := if state.words.length == roomForWords then state.writeSome style else state
        { state with words := state.words ++ [word] }

/-- Adds the words of a line; `other` is how the lines are indented if there are too many. -/
def addLine (state : State) (style : Style) (start : Start) : State :=
  let (found, hasTab) :=
    Filling.words style start.isEnded (start.rest.length + 1) start.column start.rest
  let state := found.foldl (fun state word =>
    addWord style word (state.words.length + word.text.length + 2) state) state
  { state with hasTabs := state.hasTabs || hasTab }

def copy (state : State) (style : Style) (start : Start) : State :=
  let known := min (start.column - start.indent) style.mark.length
  let shown :=
    if start.rest.isEmpty then
      if start.indent < start.column then
        blanks state.hasTabs 0 start.indent ++ style.mark.take known ++
          (if !start.isEnded && start.indent + style.mark.length ≤ start.column then ['\n'] else [])
      else []
    else
      let column := start.indent + known
      blanks state.hasTabs 0 start.indent ++ style.mark.take known ++
        blanks state.hasTabs column (start.column - column) ++ start.rest
  state.write (shown ++ if start.isEnded then ['\n'] else [])

def continues (state : State) (style : Style) (start : Start) : Bool :=
  !start.rest.isEmpty && start.indent == state.indent && start.indent + style.size ≤ start.column

def otherIndent (state : State) (style : Style) (second : Option Start) : Nat :=
  match style.kind with
  | .plain | .split => state.first
  | .crown =>
      match second with
      | some start => start.column
      | none => state.first
  | .tagged =>
      match second.map (·.column) with
      | some column =>
          if column != state.first then column
          else otherwise
      | none => otherwise
where
  otherwise : Nat :=
    if state.other == state.first then (if state.first == 0 then 3 else 0) else state.other

end State

def next (style : Style) (state : State) : List (Text × Bool) → State × Option Start
  | [] => (state, none)
  | (line, isEnded) :: _ =>
      let found := start style line isEnded
      ({ state with hasTabs := state.hasTabs || found.hasTab }, some found)

/-- Adds lines to a paragraph as long as they go on with it, and then writes it. -/
def fillMore (style : Style) : List (Text × Bool) → State → State × List (Text × Bool)
  | [], state => (state, [])
  | line :: rest, state =>
      match next style state (line :: rest) with
      | (state, none) => (state, rest)
      | (state, some found) =>
          if style.kind != .split && state.continues style found && found.column == state.other &&
              (style.kind != .tagged || found.column != state.first) then
            fillMore style rest (state.addLine style found)
          else (state, line :: rest)

def closed (words : List Word) : List Word :=
  match words.reverse with
  | last :: others => ({ last with isPeriod := true, isFinal := true } :: others).reverse
  | [] => []

def fillAll (style : Style) : (fuel : Nat) → State → List (Text × Bool) → State
  | 0, state, _ => state
  | _, state, [] => state
  | fuel + 1, state, line :: rest =>
      match next style state (line :: rest) with
      | (state, none) => state
      | (state, some found) =>
          if !found.isText style then fillAll style fuel (state.copy style found) rest
          else
            let state := { state with indent := found.indent, first := found.column, previous := 0 }
            let state := state.addLine style found
            let (state, second) := next style state rest
            let second := second.filter (state.continues style)
            let state := { state with other := state.otherIndent style second }
            let (state, rest) := fillMore style rest state
            let state := { state with words := closed state.words }
            fillAll style fuel (state.writeAll style) rest

def fill (style : Style) (t : Text) : Text :=
  let lines := (pieces '\n' t).map (unended '\n')
  let state := fillAll style (lines.length + 1) ⟨[], false, [], 0, 0, 0, 0⟩ lines
  state.written.reverse.flatten

/-!
# Options
-/

def forms : OptionForms where
  letters := "0123456789cstuw:p:g:"
  words := [("crown-margin", 'c', .no), ("prefix", 'p', .yes), ("split-only", 's', .no),
    ("tagged-paragraph", 't', .no), ("uniform-spacing", 'u', .no), ("width", 'w', .yes),
    ("goal", 'g', .yes)]
  isOrdered := false

def width (limit : Nat) (t : Text) : Activity Nat := do
  let complaint := "invalid width: " ++ quote t
  match quantity? [] t with
  | none => fail 1 complaint
  | some n =>
      if Nat.pow 2 64 ≤ n then fail 1 (complaint ++ ": Value too large for defined data type")
      if limit < n then fail 1 (complaint ++ ": Numerical result out of range")
      return n

def style (ownWidth : Option Text) (given : Given) : Activity Style := do
  match given.options.find? (·.key.isDigit) with
  | some option =>
      misuse 1 ("invalid option -- " ++ option.key ::
        "; -WIDTH is recognized only when it is the first\noption; use -w N instead")
  | none => pure ()
  let asked := (given.value? 'w').or ownWidth
  let chosen ← match asked with
    | some t => (do return some (← width 2500 t) : Activity (Option Nat))
    | none => pure none
  let most := chosen.getD 75
  let (most, goal) ← match given.value? 'g' with
    | some t => (do
        let goal ← width most t
        return (if chosen.isSome then most else goal + 10, goal) : Activity (Nat × Nat))
    | none => pure (most, most * 187 / 200)
  let full := (given.value? 'p').getD []
  let bare := full.dropWhile (· == ' ')
  let kind : Kind :=
    if given.has 's' then .split else if given.has 'c' then .crown
    else if given.has 't' then .tagged else .plain
  return {
    width := most
    goal := goal
    kind := kind
    isUniform := given.has 'u'
    mark := (bare.reverse.dropWhile (· == ' ')).reverse
    lead := full.length - bare.length
    size := bare.length }

end Filling

def fmt : Program := fun arguments => do
  let (ownWidth, arguments) := match arguments with
    | ('-' :: c :: rest) :: others =>
        if c.isDigit then (some (c :: rest), others) else (none, arguments)
    | _ => (none, arguments)
  let given ← given 1 Filling.forms arguments
  let style ← Filling.style ownWidth given
  for operand in orInput given.operands do
    match ← contents operand with
    | .ok t => print (Filling.fill style t)
    | .error error =>
        complain (if isReadFailure error then "read error" else unopened operand error)
  checkInput "closing standard input" given.operands

end Program
end Shell
end StubAssist

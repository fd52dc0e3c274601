import StubAssist.Shell.Regex

/-!
# Reading regular expressions

The two notations of POSIX, with the usual additions: in the basic one the operators
are hidden by backslashes, in the extended one their meanings are.  Dialects differ in
what they make of operators that have nothing to work on.
-/

namespace StubAssist
namespace Shell
namespace Regex

inductive Flaw where
  | invalid
  | unknownCollation
  | unknownClass
  | trailingBackslash
  | unknownReference
  | openBracket
  | openGroup
  | openInterval
  | invalidInterval
  | invalidRange
  | nothingToRepeat
  | tooBig
  | strayClosing
deriving DecidableEq, Repr

def Flaw.message : Flaw → Text
  | invalid => "Invalid regular expression"
  | unknownCollation => "Invalid collation character"
  | unknownClass => "Invalid character class name"
  | trailingBackslash => "Trailing backslash"
  | unknownReference => "Invalid back reference"
  | openBracket => "Unmatched [, [^, [:, [., or [="
  | openGroup => "Unmatched ( or \\("
  | openInterval => "Unmatched \\\x7b"
  | invalidInterval => "Invalid content of \\\x7b\\\x7d"
  | invalidRange => "Invalid range end"
  | nothingToRepeat => "Invalid preceding regular expression"
  | tooBig => "Regular expression too big"
  | strayClosing => "Unmatched ) or \\)"

/-- What becomes of an operator that has nothing to repeat. -/
inductive Lonely where
  | plain
  | skipped
  | flawed
deriving DecidableEq, Repr

structure Dialect where
  isExtended : Bool
  lonely : Lonely
  repeatsOnce : Bool
  /-- Whether the opening of something that is no interval is an ordinary character. -/
  keepsBadIntervals : Bool
  keepsClosing : Bool
  allowsEmptyRanges : Bool
  splitsLines : Bool
  staysInLines : Bool
deriving DecidableEq, Repr

namespace Dialect

def basic : Dialect :=
  ⟨false, .plain, true, false, false, false, false, false⟩

def extended : Dialect :=
  ⟨true, .flawed, false, false, false, false, false, false⟩

def basicLines : Dialect :=
  ⟨false, .plain, false, false, false, false, true, false⟩

def extendedLines : Dialect :=
  ⟨true, .skipped, false, true, true, false, true, false⟩

def lenient : Dialect :=
  ⟨false, .plain, false, false, false, true, false, false⟩

end Dialect

/-!
# Brackets
-/

inductive Element where
  | character (c : Char)
  | charClass (kind : CharClass)
deriving DecidableEq, Repr

def nameUntil (mark : Char) : (size : Nat) → (found : Text) → Text → Except Flaw (Text × Text)
  | 0, _, _ => .error .openBracket
  | size + 1, found, c :: d :: rest =>
      if c == mark && d == ']' then .ok (found.reverse, rest)
      else nameUntil mark size (c :: found) (d :: rest)
  | _, _, _ => .error .openBracket

/-- Reads an element; a dash that is not the last may only stand in front. -/
def element (acceptsDash : Bool) : Text → Except Flaw (Element × Text)
  | [] => .error .openBracket
  | '[' :: mark :: rest => do
      if mark == ':' then
        let (name, rest) ← nameUntil ':' 32 [] rest
        match CharClass.ofName? name with
        | some kind => return (.charClass kind, rest)
        | none => throw .unknownClass
      else if mark == '.' || mark == '=' then
        let (name, rest) ← nameUntil mark 32 [] rest
        match name with
        | [c] => return (.character c, rest)
        | _ => throw .unknownCollation
      else return (.character '[', mark :: rest)
  | '-' :: rest =>
      if acceptsDash || rest.head? == some ']' then .ok (.character '-', rest)
      else .error .invalidRange
  | c :: rest => .ok (.character c, rest)

def elements (dialect : Dialect) : (fuel : Nat) → (isFirst : Bool) → OctetSet → Text →
    Except Flaw (OctetSet × Text)
  | 0, _, _, _ => .error .openBracket
  | fuel + 1, isFirst, set, t => do
      let (start, rest) ← element isFirst t
      let (set, rest) ←
        match start, rest with
        | .charClass kind, rest => pure (set.union (.ofPredicate kind.contains), rest)
        | .character _, ['-'] => throw .openBracket
        | .character first, '-' :: c :: after =>
            if c == ']' then pure (set.union (.single first), rest)
            else
              match ← element true (c :: after) with
              | (.charClass _, _) => throw .invalidRange
              | (.character last, rest) =>
                  if last < first && !dialect.allowsEmptyRanges then throw .invalidRange
                  pure (set.union (.range first last), rest)
        | .character c, rest => pure (set.union (.single c), rest)
      match rest with
      | [] => throw .openBracket
      | ']' :: rest => return (set, rest)
      | rest => elements dialect fuel false set rest

def negated (dialect : Dialect) (set : OctetSet) : OctetSet :=
  if dialect.staysInLines then (set.union (.single '\n')).complement else set.complement

def bracket (dialect : Dialect) (t : Text) : Except Flaw (OctetSet × Text) := do
  let (isNegated, t) :=
    match t with
    | '^' :: rest => (true, rest)
    | t => (false, t)
  match t with
  | [] => throw .invalid
  | ']' :: rest =>
      -- a closing bracket in front is an ordinary element, which a range may start with
      let (set, rest) ← elements dialect (t.length + 1) true .empty (']' :: rest)
      return (if isNegated then negated dialect set else set, rest)
  | t =>
      let (set, rest) ← elements dialect (t.length + 1) true .empty t
      return (if isNegated then negated dialect set else set, rest)

/-!
# Tokens
-/

inductive Token where
  | char (c : Char)
  | any
  | bracket
  | set (octets : OctetSet)
  | opening
  | closing
  | bar
  | star
  | plus
  | question
  | openInterval
  | closeInterval
  | anchor (anchor : Anchor)
  | reference (index : Nat)
  | finish
  | trailingBackslash
deriving DecidableEq, Repr

def wordSet : OctetSet :=
  .ofPredicate fun c => c.isAlphanum || c == '_'

def spaceSet : OctetSet :=
  .ofPredicate CharClass.space.contains

def hiddenToken (dialect : Dialect) (c : Char) : Token :=
  if c.isDigit && c != '0' then .reference (c.toNat - '0'.toNat)
  else
    match c with
    | '<' => .anchor .wordStart
    | '>' => .anchor .wordEnd
    | 'b' => .anchor .wordBoundary
    | 'B' => .anchor .insideOrOutside
    | '`' => .anchor .textStart
    | '\'' => .anchor .textEnd
    | 'w' => .set wordSet
    | 'W' => .set wordSet.complement
    | 's' => .set spaceSet
    | 'S' => .set spaceSet.complement
    | c =>
        if dialect.isExtended then .char c
        else
          match c with
          | '(' => .opening
          | ')' => .closing
          | '|' => .bar
          | '+' => .plus
          | '?' => .question
          | '\x7b' => .openInterval
          | '\x7d' => .closeInterval
          | c => .char c

/-- Whether a dollar sign stands before the end of the expression, or of a part of it. -/
def endsPart : Text → Bool
  | [] => true
  | '\\' :: c :: _ => c == ')' || c == '|'
  | c :: _ => c == '\n'

/-- The first token; a caret has its meaning everywhere or only in some places. -/
def token (dialect : Dialect) (isAtStart : Bool) : Text → Token × Text
  | [] => (.finish, [])
  | ['\\'] => (.trailingBackslash, [])
  | '\\' :: c :: rest => (hiddenToken dialect c, rest)
  | c :: rest =>
      let plain := (Token.char c, rest)
      match c with
      | '.' => (.any, rest)
      | '[' => (.bracket, rest)
      | '*' => (.star, rest)
      | '\n' => if dialect.splitsLines then (.bar, rest) else plain
      | '^' => if dialect.isExtended || isAtStart then (.anchor .lineStart, rest) else plain
      | '$' =>
          if dialect.isExtended || endsPart rest then (.anchor .lineEnd, rest) else plain
      | c =>
          if !dialect.isExtended then plain
          else
            match c with
            | '(' => (.opening, rest)
            | ')' => (.closing, rest)
            | '|' => (.bar, rest)
            | '+' => (.plus, rest)
            | '?' => (.question, rest)
            | '\x7b' => (.openInterval, rest)
            | '\x7d' => (.closeInterval, rest)
            | _ => plain

/-!
# Intervals
-/

def repetitionLimit : Nat := 32767

inductive Amount where
  | missing
  | number (n : Nat)
  | bad
deriving DecidableEq, Repr

/-- Reads a number up to a comma or the end of the interval; tells which of them ended it. -/
def amount (dialect : Dialect) : (fuel : Nat) → Amount → Text → Amount × Token × Text
  | 0, found, t => (found, .finish, t)
  | fuel + 1, found, t =>
      match token dialect false t with
      | (.finish, rest) => (.bad, .finish, rest)
      | (.closeInterval, rest) => (found, .closeInterval, rest)
      | (.char ',', rest) => (found, .char ',', rest)
      | (.char c, rest) =>
          let next := match found with
            | .bad => .bad
            | .missing => if c.isDigit then .number (c.toNat - '0'.toNat) else .bad
            | .number n =>
                if c.isDigit then .number (min (repetitionLimit + 1) (10 * n + c.toNat - '0'.toNat))
                else .bad
          amount dialect fuel next rest
      | (_, rest) => amount dialect fuel .bad rest

/--
Reads an interval after its opening: how often at least and at most.  The answer is
`none` for what is no interval but ordinary characters.
-/
def interval (dialect : Dialect) (t : Text) : Except Flaw (Option (Nat × Option Nat × Text)) := do
  let fuel := t.length + 1
  let (least, ending, rest) := amount dialect fuel .missing t
  let isComma := ending == .char ','
  let least ←
    match least with
    | .missing => if isComma then pure (Amount.number 0) else throw .invalidInterval
    | least => pure least
  let (most, ending, rest) :=
    if least == .bad then (.bad, ending, rest)
    else if ending == .closeInterval then (least, ending, rest)
    else if isComma then amount dialect fuel .missing rest
    else (.bad, ending, rest)
  match least, most with
  | .number least, .missing =>
      if ending != .closeInterval then throw .invalidInterval
      if repetitionLimit < least then throw .tooBig
      return some (least, none, rest)
  | .number least, .number most =>
      if most < least || ending != .closeInterval then throw .invalidInterval
      if repetitionLimit < most then throw .tooBig
      return some (least, some most, rest)
  | _, _ =>
      if dialect.keepsBadIntervals then return none
      throw (if ending == .finish then .openInterval else .invalidInterval)

/-!
# Expressions
-/

structure Cursor where
  rest : Text
  isAtStart : Bool
  groups : Nat
  closed : List Nat

abbrev Reading := StateT Cursor (Except Flaw)

namespace Reading

def peek (dialect : Dialect) : Reading Token := do
  let cursor ← get
  return (token dialect cursor.isAtStart cursor.rest).1

def skip (dialect : Dialect) : Reading Unit :=
  modify fun cursor =>
    { cursor with rest := (token dialect cursor.isAtStart cursor.rest).2, isAtStart := false }

def repetition? (dialect : Dialect) : Reading (Option (Nat × Option Nat)) := do
  match ← peek dialect with
  | .star => do
      skip dialect
      return some (0, none)
  | .plus => do
      skip dialect
      return some (1, none)
  | .question => do
      skip dialect
      return some (0, some 1)
  | .openInterval => do
      let before ← get
      skip dialect
      match interval dialect (← get).rest with
      | .error flaw => throw flaw
      | .ok none =>
          set before
          return none
      | .ok (some (least, most, rest)) =>
          modify fun cursor => { cursor with rest := rest }
          return some (least, most)
  | _ => return none

def withRepetitions (dialect : Dialect) : (fuel : Nat) → Regex → Reading Regex
  | 0, regex => return regex
  | fuel + 1, regex => do
      match ← repetition? dialect with
      | none => return regex
      | some (least, most) =>
          let next ← peek dialect
          if dialect.repeatsOnce && (next == .star || next == .openInterval) then
            throw .nothingToRepeat
          withRepetitions dialect fuel (.repetition least most regex)

/-- Makes a lonely operator what the dialect says; the answer is `none` if it is left out. -/
def lonely (dialect : Dialect) (c : Char) : Reading (Option Regex) := do
  match dialect.lonely with
  | .flawed => throw .nothingToRepeat
  | .plain => do
      skip dialect
      return some (.char c)
  | .skipped => do
      discard (repetition? dialect)
      return none

end Reading

open Reading

mutual

def alternatives (dialect : Dialect) : (fuel depth : Nat) → Reading Regex
  | 0, _ => return .empty
  | fuel + 1, depth => do
      let first ← branch dialect fuel depth
      if (← peek dialect) == .bar then
        skip dialect
        modify fun cursor => { cursor with isAtStart := true }
        return .either first (← alternatives dialect fuel depth)
      else return first

def branch (dialect : Dialect) : (fuel depth : Nat) → Reading Regex
  | 0, _ => return .empty
  | fuel + 1, depth => do
      match ← peek dialect with
      | .bar | .finish => return .empty
      | .closing =>
          if depth != 0 then return .empty
          if !dialect.keepsClosing then throw .strayClosing
          skip dialect
          let regex ← withRepetitions dialect fuel (.char ')')
          return .sequence regex (← branch dialect fuel depth)
      | _ =>
          let regex ← part dialect fuel depth
          return .sequence regex (← branch dialect fuel depth)

def part (dialect : Dialect) : (fuel depth : Nat) → Reading Regex
  | 0, _ => return .empty
  | fuel + 1, depth => do
      match ← peek dialect with
      | .anchor anchor =>
          skip dialect
          return .meets anchor
      | .trailingBackslash => throw .trailingBackslash
      | .char c =>
          skip dialect
          withRepetitions dialect fuel (.char c)
      | .any =>
          skip dialect
          withRepetitions dialect fuel (.oneOf (negated dialect .empty))
      | .set octets =>
          skip dialect
          withRepetitions dialect fuel (.oneOf octets)
      | .reference index =>
          if !(← get).closed.contains index then throw .unknownReference
          skip dialect
          withRepetitions dialect fuel (.reference index)
      | .bracket =>
          skip dialect
          match bracket dialect (← get).rest with
          | .error flaw => throw flaw
          | .ok (set, rest) =>
              modify fun cursor => { cursor with rest := rest }
              withRepetitions dialect fuel (.oneOf set)
      | .opening =>
          skip dialect
          let index := (← get).groups + 1
          modify fun cursor => { cursor with groups := index, isAtStart := true }
          let body ← alternatives dialect fuel (depth + 1)
          if (← peek dialect) != .closing then throw .openGroup
          skip dialect
          modify fun cursor => { cursor with closed := index :: cursor.closed }
          withRepetitions dialect fuel (.group index body)
      | .star => orNothing dialect fuel depth '*'
      | .plus => orNothing dialect fuel depth '+'
      | .question => orNothing dialect fuel depth '?'
      | .openInterval =>
          if dialect.repeatsOnce then throw .nothingToRepeat
          let isPlain := match interval dialect (token dialect false (← get).rest).2 with
            | .ok none => true
            | _ => false
          if isPlain then
            skip dialect
            withRepetitions dialect fuel (.char '\x7b')
          else orNothing dialect fuel depth '\x7b'
      | .closeInterval =>
          skip dialect
          withRepetitions dialect fuel (.char '\x7d')
      | .closing | .bar | .finish => return .empty

def orNothing (dialect : Dialect) : (fuel depth : Nat) → (c : Char) → Reading Regex
  | 0, _, _ => return .empty
  | fuel + 1, _, c => do
      match ← lonely dialect c with
      | some regex => withRepetitions dialect fuel regex
      | none => return .empty

end

def parse (dialect : Dialect) (t : Text) : Except Flaw Regex := do
  let (regex, _) ← (alternatives dialect (4 * t.length + 8) 0).run ⟨t, true, 0, []⟩
  return regex

end Regex
end Shell
end StubAssist

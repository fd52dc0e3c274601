import StubAssist.Shell.Regex.Match

/-!
# Scripts of line editors

A script is a list of steps.  A step names the lines that it is for and what is done to
the space that holds the current line.
-/

namespace StubAssist
namespace Shell
namespace Program
namespace Edit

structure Expression where
  regex : Regex
  ignoresCase : Bool
  hasLines : Bool

inductive Address where
  | line (number : Nat)
  | steps (first step : Nat)
  | last
  /-- Lines that match; without an expression of its own, the one that was used last. -/
  | matching (expression : Option Expression)

inductive Ending where
  | at (address : Address)
  | further (count : Nat)
  | multiple (number : Nat)

structure Selection where
  first : Option Address
  last : Option Ending
  isNegated : Bool

inductive Casing where
  | upper
  | lower
  | asIs
  | upperNext
  | lowerNext
deriving DecidableEq, Repr

inductive Piece where
  | text (t : Text)
  | group (index : Nat)
  | casing (casing : Casing)
deriving DecidableEq, Repr

structure Substitution where
  /-- What is replaced; without an expression of its own, what the last one matches. -/
  expression : Option Expression
  replacement : List Piece
  first : Nat
  isGlobal : Bool
  prints : Bool
  executes : Bool
  target : Option Text

inductive Turn where
  | always
  /-- If something has been replaced since a line was read or the last such turn. -/
  | ifReplaced
  | unlessReplaced
deriving DecidableEq, Repr

inductive Action where
  | nothing
  | block (stop : Nat)
  | jump (turn : Turn) (target : Nat)
  | substitute (substitution : Substitution)
  | transliterate (pairs : List (Char × Char))
  | append (t : Text)
  | insert (t : Text)
  | change (t : Text)
  | delete
  | deleteFirst
  | print
  | printFirst
  | next
  | join
  | hold
  | holdMore
  | get
  | getMore
  | exchange
  | clear
  | number
  | fileName
  | list (width : Option Nat)
  | quit (status : Nat)
  | quitSilently (status : Nat)
  | read (path : Text)
  | readLine (path : Text)
  | write (path : Text)
  | writeFirst (path : Text)
  | execute (command : Text)

structure Step where
  selection : Selection
  action : Action

structure Script where
  steps : Array Step
  isSilent : Bool

/-!
# Escapes
-/

def digit? (base : Nat) (c : Char) : Option Nat :=
  let value :=
    if c.isDigit then some (c.toNat - '0'.toNat)
    else if 'a' ≤ c && c ≤ 'f' then some (c.toNat - 'a'.toNat + 10)
    else if 'A' ≤ c && c ≤ 'F' then some (c.toNat - 'A'.toNat + 10)
    else none
  value.filter (· < base)

def numbered? (base size : Nat) (t : Text) : Option (Char × Text) :=
  let digits := (t.take size).takeWhile fun c => (digit? base c).isSome
  if digits.isEmpty then none
  else
    let n := (digits.filterMap (digit? base)).foldl (fun n d => base * n + d) 0
    some (Char.ofNat (n % 256), t.drop digits.length)

/-- The character that stands for another one after a backslash, and what follows it. -/
def escape? : Text → Option (Char × Text)
  | 'a' :: rest => some ('\x07', rest)
  | 'f' :: rest => some ('\x0c', rest)
  | 'n' :: rest => some ('\n', rest)
  | 'r' :: rest => some ('\r', rest)
  | 't' :: rest => some ('\t', rest)
  | 'v' :: rest => some ('\x0b', rest)
  | 'c' :: c :: rest => some (Char.ofNat (c.toUpper.toNat ^^^ 0x40), rest)
  | 'd' :: rest => numbered? 10 3 rest
  | 'o' :: rest => numbered? 8 3 rest
  | 'x' :: rest => numbered? 16 2 rest
  | _ => none

/-- A text in which escapes are replaced and other hidden characters stand for themselves. -/
def plainText : (fuel : Nat) → Text → Text
  | 0, t => t
  | fuel + 1, '\\' :: rest =>
      match escape? rest, rest with
      | some (c, rest), _ => c :: plainText fuel rest
      | none, c :: rest => c :: plainText fuel rest
      | none, [] => []
  | fuel + 1, c :: rest => c :: plainText fuel rest
  | _ + 1, [] => []

/-- An expression in which escapes are replaced and everything else stays hidden. -/
def plainExpression : (fuel : Nat) → Text → Text
  | 0, t => t
  | fuel + 1, '\\' :: rest =>
      match escape? rest, rest with
      | some (c, rest), _ => c :: plainExpression fuel rest
      | none, ['c'] => ['\\']
      | none, 'd' :: rest => 'd' :: plainExpression fuel rest
      | none, 'o' :: rest => 'o' :: plainExpression fuel rest
      | none, 'x' :: rest => 'x' :: plainExpression fuel rest
      | none, c :: rest => '\\' :: c :: plainExpression fuel rest
      | none, [] => ['\\']
  | fuel + 1, c :: rest => c :: plainExpression fuel rest
  | _ + 1, [] => []

def casing? (c : Char) : Option Casing :=
  match c with
  | 'U' => some .upper
  | 'L' => some .lower
  | 'E' => some .asIs
  | 'u' => some .upperNext
  | 'l' => some .lowerNext
  | _ => none

def consText (c : Char) : List Piece → List Piece
  | .text t :: rest => .text (c :: t) :: rest
  | pieces => .text [c] :: pieces

def piecesOf : (fuel : Nat) → Text → List Piece
  | 0, _ => []
  | fuel + 1, '\\' :: rest =>
      match escape? rest, rest with
      | some (c, rest), _ => consText c (piecesOf fuel rest)
      | none, [] => consText '\\' []
      | none, ['c'] => consText '\\' []
      | none, c :: rest =>
          if c.isDigit then .group (c.toNat - '0'.toNat) :: piecesOf fuel rest
          else
            match casing? c with
            | some casing => .casing casing :: piecesOf fuel rest
            | none => consText c (piecesOf fuel rest)
  | fuel + 1, '&' :: rest => .group 0 :: piecesOf fuel rest
  | fuel + 1, c :: rest => consText c (piecesOf fuel rest)
  | _ + 1, [] => []

def greatestGroup (pieces : List Piece) : Nat :=
  pieces.foldl (fun n piece =>
    match piece with
    | .group index => max n index
    | _ => n) 0

end Edit
end Program
end Shell
end StubAssist

import StubAssist.Symbol
import StubAssist.Text.Lines
import StubAssist.Go.Code

/-!
# Type declarations

Finds the `struct` and `interface` declarations of a Go source and the lines
that they cover.  A declaration is looked for on one line: after the word `type`
at top level, or as a member of a `type (` group.  Its last line is the one that
closes the brace it opens.
-/

namespace StubAssist
namespace Go

/-!
# Heads
-/

/-- Drops words up to and including the first that holds a closing bracket. -/
def skipTypeParameters : List Text → List Text
  | [] => []
  | word :: words => if List.contains word ']' then words else skipTypeParameters words

def kindOfWord (word : Text) : Option SymbolKind :=
  if (['s', 't', 'r', 'u', 'c', 't'] : Text).isPrefixOf word then some .struct
  else if (['i', 'n', 't', 'e', 'r', 'f', 'a', 'c', 'e'] : Text).isPrefixOf word then
    some .interface
  else none

/--
The name and the kind that the words after `type` declare.  A type parameter
list that its first word leaves open is skipped.
-/
def headOf : List Text → Option (Text × SymbolKind)
  | [] => none
  | name :: words =>
      let words :=
        if List.contains name '[' && !List.contains name ']' then skipTypeParameters words
        else words
      match words with
      | [] => none
      | kindWord :: _ => (kindOfWord kindWord).map fun kind => (name.takeWhile (· != '['), kind)

/-!
# Packages
-/

def packageOfLine (line : Text) : Option Text :=
  match Text.words (stripLineComment line) with
  | ['p', 'a', 'c', 'k', 'a', 'g', 'e'] :: name :: _ => some name
  | _ => none

def packageName (source : Text) : Option Text :=
  (Text.lines source).findSome? packageOfLine

/-!
# Last lines
-/

/-- The open braces of a declaration, and whether it has opened one at all. -/
structure Braces where
  depth : Nat
  opened : Bool
deriving DecidableEq, Repr

namespace Braces

def none : Braces := ⟨0, false⟩

def descend (braces : Braces) : Braces := ⟨braces.depth + 1, true⟩

def ascend (braces : Braces) : Braces := { braces with depth := braces.depth - 1 }

def areClosed (braces : Braces) : Bool :=
  braces.opened && braces.depth == 0

end Braces

/-- Reads code characters up to the closing brace that balances the braces. -/
def readBraces (braces : Braces) : List Char → Braces × Bool
  | [] => (braces, false)
  | c :: code =>
      if c = '{' then readBraces braces.descend code
      else if c = '}' then
        if braces.ascend.areClosed then (braces.ascend, true) else readBraces braces.ascend code
      else readBraces braces code

/--
How many lines after the first of `lines` the declaration that begins there
ends.  One that opens no brace ends on the first line it does not leave inside a
raw string, which counts as its first; one that never closes runs to the end.
-/
def linesToClose (braces : Braces) (inRaw : Bool) (passed : Nat) : List Text → Nat
  | [] => passed - 1
  | line :: lines =>
      let (braces, closed) := readBraces braces (codeChars inRaw line)
      let inRaw := rawAfter inRaw line
      if closed then passed
      else if !braces.opened && !inRaw then 0
      else linesToClose braces inRaw (passed + 1) lines

/-!
# The scan
-/

/-- Where a line begins: the depth inside an open group, and the raw string flag. -/
structure ScanState where
  group : Option Int
  inRaw : Bool
deriving DecidableEq, Repr

namespace ScanState

def initial : ScanState := ⟨none, false⟩

end ScanState

def groupOpening : Text :=
  ['t', 'y', 'p', 'e', ' ', '(']

/-- A group stays open as long as its depth is not negative. -/
def groupAfter (depth : Int) : Option Int :=
  if 0 ≤ depth then some depth else none

def scanDeclaration (state : ScanState) (line : Text) :
    Option (Text × SymbolKind) × ScanState :=
  let change := nestingChange (codeChars state.inRaw line)
  let inRaw := rawAfter state.inRaw line
  if state.inRaw then
    (none, ⟨state.group.map (· + change), inRaw⟩)
  else
    let code := Text.trim (stripLineComment line)
    match state.group with
    | some depth =>
        let head :=
          if depth != 0 || code.head? == some ')' then none else headOf (Text.words code)
        (head, ⟨groupAfter (depth + change), inRaw⟩)
    | none =>
        if groupOpening.isPrefixOf code then
          (none, ⟨groupAfter (change - 1), inRaw⟩)
        else
          match Text.words code with
          | ['t', 'y', 'p', 'e'] :: words => (headOf words, ⟨none, inRaw⟩)
          | _ => (none, ⟨none, inRaw⟩)

def declarationsFrom (package : Option Text) (state : ScanState) (index : Nat) :
    List Text → List Symbol
  | [] => []
  | line :: lines =>
      let (head, next) := scanDeclaration state line
      let found :=
        match head with
        | none => []
        | some (name, kind) =>
            let last := index + linesToClose .none false 0 (line :: lines)
            [⟨name, kind, .ofLines index last, package⟩]
      found ++ declarationsFrom package next (index + 1) lines

def typeDeclarations (source : Text) : List Symbol :=
  declarationsFrom (packageName source) .initial 0 (Text.lines source)

end Go
end StubAssist

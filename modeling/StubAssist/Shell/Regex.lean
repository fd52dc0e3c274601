import StubAssist.Shell.CharClass

/-!
# Regular expressions

Expressions for texts whose characters are octets.  Besides the usual operators there
are places that have to be met, groups that remember what they matched, and references
to those.
-/

namespace StubAssist
namespace Shell

structure OctetSet where
  bits : Nat
deriving DecidableEq, Repr

namespace OctetSet

def contains (set : OctetSet) (c : Char) : Bool :=
  set.bits.testBit c.toNat

def empty : OctetSet := ⟨0⟩

def all : OctetSet := ⟨Nat.pow 2 256 - 1⟩

def single (c : Char) : OctetSet := ⟨1 <<< c.toNat⟩

def union (a b : OctetSet) : OctetSet := ⟨a.bits ||| b.bits⟩

def complement (set : OctetSet) : OctetSet := ⟨set.bits ^^^ all.bits⟩

def ofPredicate (p : Char → Bool) : OctetSet :=
  ⟨(List.range 256).foldl (fun bits n => if p (Char.ofNat n) then bits ||| 1 <<< n else bits) 0⟩

def range (first last : Char) : OctetSet :=
  ofPredicate fun c => first ≤ c && c ≤ last

def foldCase (set : OctetSet) : OctetSet :=
  ofPredicate fun c => set.contains c || set.contains c.toLower || set.contains c.toUpper

end OctetSet

inductive Anchor where
  | textStart
  | textEnd
  | lineStart
  | lineEnd
  | wordStart
  | wordEnd
  | wordBoundary
  | insideOrOutside
deriving DecidableEq, Repr

inductive Regex where
  | empty
  | oneOf (octets : OctetSet)
  | meets (anchor : Anchor)
  | group (index : Nat) (body : Regex)
  | reference (index : Nat)
  | sequence (first second : Regex)
  | either (first second : Regex)
  /-- From `least` up to `most` times; without an upper limit, any number from there. -/
  | repetition (least : Nat) (most : Option Nat) (body : Regex)
deriving DecidableEq, Repr

namespace Regex

def char (c : Char) : Regex :=
  oneOf (.single c)

def literal (t : Text) : Regex :=
  t.foldr (fun c rest => sequence (char c) rest) empty

/-- How many groups there are; they are numbered by their opening from one on. -/
def groupCount : Regex → Nat
  | empty | oneOf _ | meets _ | reference _ => 0
  | group index body => max index (groupCount body)
  | sequence first second | either first second => max (groupCount first) (groupCount second)
  | repetition _ _ body => groupCount body

def hasReference : Regex → Bool
  | empty | oneOf _ | meets _ => false
  | reference _ => true
  | group _ body | repetition _ _ body => hasReference body
  | sequence first second | either first second => hasReference first || hasReference second

def foldCase : Regex → Regex
  | oneOf octets => oneOf octets.foldCase
  | group index body => group index (foldCase body)
  | sequence first second => sequence (foldCase first) (foldCase second)
  | either first second => either (foldCase first) (foldCase second)
  | repetition least most body => repetition least most (foldCase body)
  | empty => empty
  | meets anchor => meets anchor
  | reference index => reference index

end Regex
end Shell
end StubAssist

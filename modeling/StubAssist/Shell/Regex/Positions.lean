import StubAssist.Shell.Regex

/-!
# Sets of positions

An expression takes a set of positions in a text to the positions where its matches from
there can end.  A set is a natural number with a bit for each position, so that an
expression without references is followed from all positions at once.
-/

namespace StubAssist
namespace Shell
namespace Regex

abbrev Positions := Nat

structure Subject where
  characters : Array Char
  divider : Option Char

namespace Subject

def ofText (divider : Option Char) (t : Text) : Subject :=
  ⟨t.toArray, divider⟩

def length (subject : Subject) : Nat :=
  subject.characters.size

def positions (subject : Subject) (p : Nat → Bool) : Positions :=
  (List.range (subject.length + 1)).foldr (fun i bits => 2 * bits + if p i then 1 else 0) 0

def charBefore (subject : Subject) (i : Nat) : Option Char :=
  if i == 0 then none else subject.characters[i - 1]?

def charAfter (subject : Subject) (i : Nat) : Option Char :=
  subject.characters[i]?

def isWord (c : Option Char) : Bool :=
  (c.map fun c => c.isAlphanum || c == '_').getD false

def isDivider (subject : Subject) (c : Option Char) : Bool :=
  c.isSome && c == subject.divider

def isAt (subject : Subject) (i : Nat) : Anchor → Bool
  | .textStart => i == 0
  | .textEnd => i == subject.length
  | .lineStart => i == 0 || subject.isDivider (subject.charBefore i)
  | .lineEnd => i == subject.length || subject.isDivider (subject.charAfter i)
  | .wordStart => !isWord (subject.charBefore i) && isWord (subject.charAfter i)
  | .wordEnd => isWord (subject.charBefore i) && !isWord (subject.charAfter i)
  | .wordBoundary => isWord (subject.charBefore i) != isWord (subject.charAfter i)
  | .insideOrOutside => isWord (subject.charBefore i) == isWord (subject.charAfter i)

def before (subject : Subject) (octets : OctetSet) : Positions :=
  subject.characters.foldr (fun c bits => 2 * bits + if octets.contains c then 1 else 0) 0

end Subject

/-- An expression with the positions in a text where its parts can be met. -/
inductive Track where
  | stay
  | step (places : Positions)
  | check (places : Positions)
  | group (index : Nat) (body : Track)
  | sequence (first second : Track)
  | either (first second : Track)
  | repetition (least : Nat) (most : Option Nat) (body : Track)

namespace Track

/-- Puts an expression without references on a text; a reference is taken for nothing. -/
def ofRegex (subject : Subject) : Regex → Track
  | .empty => stay
  | .oneOf octets => step (subject.before octets)
  | .meets anchor => check (subject.positions (subject.isAt · anchor))
  | .group index body => group index (ofRegex subject body)
  | .reference _ => stay
  | .sequence first second => sequence (ofRegex subject first) (ofRegex subject second)
  | .either first second => either (ofRegex subject first) (ofRegex subject second)
  | .repetition least most body => repetition least most (ofRegex subject body)

def closure (f : Positions → Positions) : (fuel : Nat) → (new all : Positions) → Positions
  | 0, _, all => all
  | fuel + 1, new, all =>
      let found := f new
      let more := found ^^^ (found &&& all)
      if more == 0 then all else closure f fuel more (all ||| more)

def upTo (f : Positions → Positions) : (count : Nat) → Positions → Positions
  | 0, set => set
  | count + 1, set => if set == 0 then 0 else set ||| upTo f count (f set)

def times (f : Positions → Positions) : (count : Nat) → Positions → Positions
  | 0, set => set
  | count + 1, set => if set == 0 then 0 else times f count (f set)

/-- The places that a function leads to in as many rounds as a repetition allows. -/
def repeated (size : Nat) (f : Positions → Positions) (least : Nat) (most : Option Nat)
    (set : Positions) : Positions :=
  let start := times f least set
  match most with
  | none => closure f (size + 1) start start
  | some most => upTo f (most - least) start

def forward (size : Nat) : Track → Positions → Positions
  | stay, set => set
  | step places, set => 2 * (set &&& places)
  | check places, set => set &&& places
  | group _ body, set => forward size body set
  | sequence first second, set => forward size second (forward size first set)
  | either first second, set => forward size first set ||| forward size second set
  | repetition least most body, set =>
      repeated size (fun set => forward size body set) least most set

def backward (size : Nat) : Track → Positions → Positions
  | stay, set => set
  | step places, set => set / 2 &&& places
  | check places, set => set &&& places
  | group _ body, set => backward size body set
  | sequence first second, set => backward size first (backward size second set)
  | either first second, set => backward size first set ||| backward size second set
  | repetition least most body, set =>
      repeated size (fun set => backward size body set) least most set

end Track

abbrev Captures := List (Nat × Nat × Nat)

namespace Track

def atLeast (size first : Nat) : Positions :=
  (Nat.pow 2 (size + 1 - first) - 1) <<< first

def lowest? : (size : Nat) → Positions → Option Nat
  | size, set =>
      if set == 0 then none
      else (List.range (size + 1)).find? (set.testBit ·)

def highest? (set : Positions) : Option Nat :=
  if set == 0 then none else some set.log2

def rounds (size : Nat) (body : Track) :
    (fuel least : Nat) → (most : Option Nat) → (start stop : Nat) → List (Nat × Nat)
  | 0, _, _, _, _ => []
  | fuel + 1, least, most, start, stop =>
      if start == stop && least == 0 then []
      else
        let rest := repetition (least - 1) (most.map (· - 1)) body
        let ends := forward size body (1 <<< start) &&& backward size rest (1 <<< stop)
        match highest? ends with
        | none => []
        | some next =>
            if next == start then [(start, next)]
            else (start, next) :: rounds size body fuel (least - 1) (most.map (· - 1)) next stop

/-- The spans of the groups in a match with a given span: of two parts, the first is longest. -/
def captures (size : Nat) : Track → (start stop : Nat) → Captures → Captures
  | stay, _, _, found => found
  | step _, _, _, found => found
  | check _, _, _, found => found
  | group index body, start, stop, found =>
      captures size body start stop ((index, start, stop) :: found)
  | sequence first second, start, stop, found =>
      let middles := forward size first (1 <<< start) &&& backward size second (1 <<< stop)
      let middle := (highest? middles).getD start
      captures size second middle stop (captures size first start middle found)
  | either first second, start, stop, found =>
      if (forward size first (1 <<< start)).testBit stop then captures size first start stop found
      else captures size second start stop found
  | repetition least most body, start, stop, found =>
      (rounds size body (stop - start + 1) least most start stop).foldl
        (fun found (start, stop) => captures size body start stop found) found

end Track
end Regex
end Shell
end StubAssist

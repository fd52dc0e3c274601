import StubAssist.Shell.Program

/-!
# Texts in few characters

Bytes can be written with the characters of an alphabet alone: some bits make up one
character each.  The text is filled up to whole groups.
-/

namespace StubAssist
namespace Shell
namespace Program

open Activity

/-- An alphabet with two to the power of some bits letters. -/
structure Alphabet where
  letters : Text
  bits : Nat
  bytes : Nat
  characters : Nat
deriving DecidableEq, Repr

namespace Alphabet

def capitals : Text := "ABCDEFGHIJKLMNOPQRSTUVWXYZ".toList

def base64 : Alphabet :=
  ⟨capitals ++ capitals.map Char.toLower ++ "0123456789+/".toList, 6, 3, 4⟩

def base32 : Alphabet :=
  ⟨capitals ++ "234567".toList, 5, 5, 8⟩

def value? (alphabet : Alphabet) (c : Char) : Option Nat :=
  alphabet.letters.idxOf? c

def holds (alphabet : Alphabet) (c : Char) : Bool :=
  List.contains alphabet.letters c

def groups (size : Nat) : (fuel : Nat) → Text → List Text
  | 0, _ => []
  | _, [] => []
  | fuel + 1, t => t.take size :: groups size fuel (t.drop size)

def encodeGroup (alphabet : Alphabet) (group : Text) : Text :=
  let number := group.foldl (fun n c => 256 * n + c.toNat) 0 * Nat.pow 256 (alphabet.bytes - group.length)
  let used := (8 * group.length + alphabet.bits - 1) / alphabet.bits
  let all := (List.range alphabet.characters).map fun i =>
    alphabet.letters.getD
      (number / Nat.pow 2 (alphabet.bits * (alphabet.characters - 1 - i)) % Nat.pow 2 alphabet.bits) '='
  all.take used ++ List.replicate (alphabet.characters - used) '='

def encode (alphabet : Alphabet) (t : Text) : Text :=
  (groups alphabet.bytes t.length t).flatMap alphabet.encodeGroup

def bytesOf (alphabet : Alphabet) (characters : Text) : Text :=
  let number := characters.foldl (fun n c =>
    Nat.pow 2 alphabet.bits * n + (alphabet.value? c).getD 0) 0
  let count := alphabet.bits * characters.length
  let whole := count / 8
  (List.range whole).map fun i => Char.ofNat (number / Nat.pow 2 (count - 8 * (i + 1)) % 256)

def sizes (alphabet : Alphabet) : List Nat :=
  (List.range alphabet.bytes).map fun i => (8 * (i + 1) + alphabet.bits - 1) / alphabet.bits

/-- The bytes for a group, and whether it is right; what comes before a wrong character
counts as far as it makes up bytes that must be there. -/
def decodeGroup (alphabet : Alphabet) (group : Text) : Text × Bool :=
  let known := group.takeWhile alphabet.holds
  let filling := group.drop known.length
  let isRight := group.length == alphabet.characters && filling.all (· == '=') &&
    List.contains alphabet.sizes known.length
  let sizes := alphabet.sizes.filter (· ≤ known.length)
  let isShort := alphabet.bits == 5 && group.length < alphabet.characters
  (if isShort then [] else alphabet.bytesOf (known.take (sizes.getLast?.getD 0)), isRight)

/-- The bytes for a text up to the first wrong group, and whether there was none. -/
def decodeGroups (alphabet : Alphabet) : List Text → Text × Bool
  | [] => ([], true)
  | group :: rest =>
      let (t, isRight) := alphabet.decodeGroup group
      if isRight then
        let (others, isRight) := decodeGroups alphabet rest
        (t ++ others, isRight)
      else (t, false)

def decode (alphabet : Alphabet) (t : Text) : Text × Bool :=
  alphabet.decodeGroups (groups alphabet.characters t.length t)

end Alphabet

def wrapped (width : Nat) (t : Text) : Text :=
  if width == 0 then t else (Alphabet.groups width t.length t).flatMap (· ++ ['\n'])

def encodingProgram (alphabet : Alphabet) : Program := fun arguments => do
  let given ← given 1
    { letters := "diw:"
      words := [("decode", 'd', .no), ("ignore-garbage", 'i', .no), ("wrap", 'w', .yes)]
      isOrdered := false } arguments
  let width ← match given.value? 'w' with
    | none => pure 76
    | some t =>
        match quantity? [] t with
        | some n => pure (if n < Nat.pow 2 63 then n else 0)
        | none => fail 1 ("invalid wrap size: " ++ quote t)
  refuseExtra 1 1 given.operands
  let operand := given.operands.headD ['-']
  match ← flow operand with
  | .error error =>
      fail 1 (if isReadFailure error then "read error: " ++ reason error else about operand error)
  | .ok (t, hasMore) =>
      if hasMore then
        if !given.has 'd' then
          let whole := t.take (t.length / alphabet.bytes * alphabet.bytes)
          let written := wrapped width (alphabet.encode whole)
          print (if width == 0 then written else endedLines '\n' written)
        continueForever
      if given.has 'd' then
        let kept := t.filter fun c =>
          if given.has 'i' then alphabet.holds c || c == '=' else c != '\n'
        let (decoded, isRight) := alphabet.decode kept
        print decoded
        if !isRight then fail 1 "invalid input"
      else print (wrapped width (alphabet.encode t))

def base64 : Program := encodingProgram .base64

def base32 : Program := encodingProgram .base32

end Program
end Shell
end StubAssist

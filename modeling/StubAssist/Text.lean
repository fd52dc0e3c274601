/-!
# Text

A text is the sequence of its Unicode scalar values.  This module holds the
vocabulary that every other module shares: blank characters, trimming, words,
pieces between separators, and the size of a text in UTF-8.
-/

namespace StubAssist

abbrev Text := List Char

instance : Coe String Text := ⟨String.toList⟩

namespace Text

/-!
# Blank characters

The `White_Space` property of the Unicode character database.
-/

def isBlank (c : Char) : Bool :=
  let n := c.toNat
  (9 ≤ n && n ≤ 13) || n == 0x20 || n == 0x85 || n == 0xA0 || n == 0x1680 ||
    (0x2000 ≤ n && n ≤ 0x200A) || n == 0x2028 || n == 0x2029 || n == 0x202F ||
    n == 0x205F || n == 0x3000

theorem isBlank_of_isWhitespace {c : Char} (h : c.isWhitespace = true) :
    isBlank c = true := by
  simp only [Char.isWhitespace, Bool.or_eq_true, decide_eq_true_eq] at h
  rcases h with ((h | h) | h) | h <;> subst h <;> decide

def trimStart (t : Text) : Text :=
  t.dropWhile isBlank

def trimEnd (t : Text) : Text :=
  (t.reverse.dropWhile isBlank).reverse

def trim (t : Text) : Text :=
  trimEnd (trimStart t)

def isAllBlank (t : Text) : Bool :=
  (trim t).isEmpty

/-!
# Pieces and words
-/

/-- The pieces between the characters that satisfy `p`, empty ones included. -/
def splitBy (p : Char → Bool) : Text → List Text
  | [] => [[]]
  | c :: rest =>
      if p c then [] :: splitBy p rest
      else
        match splitBy p rest with
        | [] => [[c]]
        | piece :: pieces => (c :: piece) :: pieces

/-- The maximal runs of characters that are not blank. -/
def words (t : Text) : List Text :=
  (splitBy isBlank t).filter (fun piece => !piece.isEmpty)

/-- Splits around the first `sep`, which belongs to neither part. -/
def splitFirst (sep : Char) : Text → Option (Text × Text)
  | [] => none
  | c :: rest =>
      if c = sep then some ([], rest)
      else (splitFirst sep rest).map fun (before, after) => (c :: before, after)

def splitLast (sep : Char) : Text → Option (Text × Text)
  | [] => none
  | c :: rest =>
      match splitLast sep rest with
      | some (before, after) => some (c :: before, after)
      | none => if c = sep then some ([], rest) else none

def contains (needle : Text) : Text → Bool
  | [] => needle.isEmpty
  | c :: rest => needle.isPrefixOf (c :: rest) || contains needle rest

def afterPrefix? : (start : Text) → Text → Option Text
  | [], t => some t
  | _ :: _, [] => none
  | a :: start, c :: rest => if a = c then afterPrefix? start rest else none

/-- The text up to the first occurrence of `needle` and the text after it. -/
def splitAround (needle : Text) : Text → Option (Text × Text)
  | [] => if needle.isEmpty then some ([], []) else none
  | c :: rest =>
      match afterPrefix? needle (c :: rest) with
      | some after => some ([], after)
      | none => (splitAround needle rest).map fun (before, after) => (c :: before, after)

def joinWith (sep : Text) : List Text → Text
  | [] => []
  | [t] => t
  | t :: ts => t ++ sep ++ joinWith sep ts

/-!
# Sizes and numerals
-/

def byteSize (t : Text) : Nat :=
  t.foldl (fun n c => n + c.utf8Size) 0

def total (sizes : List Nat) : Nat :=
  sizes.foldl (· + ·) 0

def ofNat (n : Nat) : Text :=
  Nat.toDigits 10 n

def digit? (c : Char) : Option Nat :=
  if c.isDigit then some (c.toNat - '0'.toNat) else none

def digitsFrom? (n : Nat) : Text → Option Nat
  | [] => some n
  | c :: rest => (digit? c).bind fun d => digitsFrom? (10 * n + d) rest

def wordLimit : Nat := Nat.pow 2 64

/--
The word a decimal numeral denotes: at least one digit, at most one leading
plus sign, and a value below `wordLimit`.
-/
def toWord? (t : Text) : Option Nat :=
  let digits :=
    match t with
    | '+' :: rest => rest
    | _ => t
  if digits.isEmpty then none
  else (digitsFrom? 0 digits).filter (· < wordLimit)

end Text
end StubAssist

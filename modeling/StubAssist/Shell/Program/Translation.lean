import StubAssist.Shell.Program

/-!
# Translating characters

Sets of characters are described by strings, which can hold ranges, classes, repeated
characters and escapes.  A character of the first set becomes the one at the same place
of the second set, or goes; runs of a character can be made one.
-/

namespace StubAssist
namespace Shell
namespace Program

open Activity

namespace Translation

/-!
# Descriptions of sets
-/

inductive Item where
  | character (c : Char)
  | range (first last : Char)
  | charClass (name : Text)
  | equivalents (c : Char)
  | repeated (c : Char) (count : Option Nat)
deriving DecidableEq, Repr

abbrev Mark := Char × Bool

def unescape : (fuel : Nat) → Text → List Mark
  | 0, _ => []
  | _, [] => []
  | fuel + 1, '\\' :: c :: rest =>
      let digits := (c :: rest).takeWhile fun c => '0' ≤ c && c ≤ '7'
      if digits.isEmpty then
        let meant := match c with
          | 'a' => '\x07'
          | 'b' => '\x08'
          | 'f' => '\x0c'
          | 'n' => '\n'
          | 'r' => '\r'
          | 't' => '\t'
          | 'v' => '\x0b'
          | c => c
        (meant, true) :: unescape fuel rest
      else
        let value := fun (t : Text) => t.foldl (fun n c => 8 * n + (c.toNat - '0'.toNat)) 0
        let three := digits.take 3
        let used := if value three < 256 then three else digits.take 2
        (Char.ofNat (value used), true) :: unescape fuel ((c :: rest).drop used.length)
  | fuel + 1, c :: rest => (c, false) :: unescape fuel rest

def classNames : List Text :=
  ["alnum", "alpha", "blank", "cntrl", "digit", "graph", "lower", "print", "punct", "space",
    "upper", "xdigit"]

def isInClass (name : Text) (c : Char) : Bool :=
  let isGraph := '!' ≤ c && c ≤ '~'
  if name == "alnum" then c.isAlphanum
  else if name == "alpha" then c.isAlpha
  else if name == "blank" then c == ' ' || c == '\t'
  else if name == "cntrl" then c < ' ' || c == '\x7f'
  else if name == "digit" then c.isDigit
  else if name == "graph" then isGraph
  else if name == "lower" then c.isLower
  else if name == "print" then isGraph || c == ' '
  else if name == "punct" then isGraph && !c.isAlphanum
  else if name == "space" then isSpace c
  else if name == "upper" then c.isUpper
  else name == "xdigit" && (c.isDigit || List.contains "abcdefABCDEF".toList c)

def allCharacters : List Char :=
  (List.range 256).map Char.ofNat

def members (name : Text) : List Char :=
  allCharacters.filter (isInClass name)

def untilClosing (kind : Char) : (found : Text) → List Mark → Option (Text × List Mark)
  | found, (c, false) :: (']', false) :: rest =>
      if c == kind then some (found.reverse, rest)
      else untilClosing kind (c :: found) ((']', false) :: rest)
  | found, (c, _) :: rest => untilClosing kind (c :: found) rest
  | _, [] => none

def untilBracket : (found : Text) → List Mark → Option (Text × List Mark)
  | found, (']', false) :: rest => some (found.reverse, rest)
  | found, (c, false) :: rest => untilBracket (c :: found) rest
  | _, _ => none

/-- The number of repetitions; a zero in front makes it octal, and zero means as many as needed. -/
def repeatCount? (t : Text) : Option (Option Nat) :=
  if t.isEmpty then some none
  else
    let n :=
      if t.head? == some '0' then
        if t.all fun c => '0' ≤ c && c ≤ '7' then
          some (t.foldl (fun n c => 8 * n + (c.toNat - '0'.toNat)) 0) else none
      else Text.digitsFrom? 0 t
    n.map fun n => if n == 0 then none else some n

def shown (c : Char) : Text :=
  if c == '\\' then "\\\\" else if isPrintable c then [c] else escaped c

def items : (fuel : Nat) → List Mark → Except Text (List Item)
  | 0, _ => .ok []
  | _, [] => .ok []
  | fuel + 1, marks => do
      let special : Option (Item × List Mark) ←
        match marks with
        | ('[', false) :: (':', false) :: rest =>
            match untilClosing ':' [] rest with
            | some (name, after) =>
                if name.isEmpty then throw ("missing character class name '[::]'" : Text)
                else if classNames.contains name then pure (some (.charClass name, after))
                else throw ("invalid character class " ++ quote name)
            | none => pure none
        | ('[', false) :: ('=', false) :: rest =>
            match untilClosing '=' [] rest with
            | some (name, after) =>
                match name with
                | [] => throw ("missing equivalence class character '[==]'" : Text)
                | [c] => pure (some (.equivalents c, after))
                | name =>
                    throw (name ++ ": equivalence class operand must be a single character")
            | none => pure none
        | ('[', false) :: (c, _) :: ('*', false) :: rest =>
            match untilBracket [] rest with
            | some (digits, after) =>
                match repeatCount? digits with
                | some count => pure (some (.repeated c count, after))
                | none =>
                    throw ("invalid repeat count " ++ quote digits ++ " in [c*n] construct")
            | none => pure none
        | _ => pure none
      match special, marks with
      | some (item, after), _ => return item :: (← items fuel after)
      | none, (first, _) :: ('-', false) :: (last, _) :: after =>
          if last < first then
            throw ("range-endpoints of '" ++ shown first ++ '-' :: shown last ++
              "' are in reverse collating sequence order")
          return .range first last :: (← items fuel after)
      | none, (c, _) :: after => return .character c :: (← items fuel after)
      | none, [] => return []

def parse (t : Text) : Except Text (List Item) :=
  let marks := unescape (t.length + 1) t
  items (marks.length + 1) marks

/-!
# Sets
-/

namespace Item

def characters : Item → List Char
  | .character c => [c]
  | .range first last =>
      (List.range (last.toNat + 1 - first.toNat)).map fun i => Char.ofNat (first.toNat + i)
  | .charClass name => members name
  | .equivalents c => [c]
  | .repeated c count => List.replicate (count.getD 0) c

def isCase : Item → Bool
  | .charClass name => name == "lower" || name == "upper"
  | _ => false

def isClass : Item → Bool
  | .charClass _ => true
  | _ => false

def isOpenRepeat : Item → Bool
  | .repeated _ none => true
  | _ => false

end Item

def characters (items : List Item) : List Char :=
  items.flatMap Item.characters

def filled (size : Nat) (items : List Item) : List Item :=
  let missing := size - (characters items).length
  items.map fun
    | .repeated c none => .repeated c (some missing)
    | item => item

def pairs : List Item → List Item → List (Char × Char)
  | first, second =>
      let a := first.flatMap fun item => (Item.characters item).map fun c => (c, item.isCase)
      let b := second.flatMap fun item => (Item.characters item).map fun c => (c, item.isCase)
      (a.zip b).map fun ((x, isCaseA), (y, isCaseB)) =>
        if isCaseA && isCaseB then (x, if y.isUpper then x.toUpper else x.toLower) else (x, y)

def squeeze (isInSet : Char → Bool) (t : Text) : Text :=
  (t.foldl (fun (found : Text) c =>
    match found with
    | last :: _ => if last == c && isInSet c then found else c :: found
    | [] => [c]) []).reverse

def complement (set : List Char) : List Char :=
  allCharacters.filter (!List.contains set ·)

def checkFirst (items : List Item) : Activity Unit := do
  if items.any Item.isOpenRepeat then
    fail 1 "the [c*] repeat construct may not appear in string1"

def checkSecond (isTranslating isCutShort isComplement : Bool) (first second : List Item) :
    Activity Unit := do
  if 1 < (second.filter Item.isOpenRepeat).length then
    fail 1 "only one [c*] repeat construct may appear in string2"
  if isTranslating then
    if second.any fun | .equivalents _ => true | _ => false then
      fail 1 "[=c=] expressions may not appear in string2 when translating"
    if second.any fun item => item.isClass && !item.isCase then
      fail 1 ("when translating, the only character classes that may appear in\n" ++
        "string2 are 'upper' and 'lower'")
    let sizeFirst := if isComplement then (complement (characters first)).length
      else (characters first).length
    let sizeSecond := (characters second).length
    let isOpen := second.any Item.isOpenRepeat
    if sizeSecond < sizeFirst && !isOpen && !isCutShort then
      if sizeSecond == 0 then
        fail 1 "when not truncating set1, string2 must be non-empty"
      if (second.getLast?.map Item.isClass).getD false then
        fail 1 ("when translating with string1 longer than string2,\n" ++
          "the latter string must not end with a character class")
    let isAligned := fun (count : Nat) =>
      let place := fun (items : List Item) =>
        (items.zipIdx.filter fun (item, _) => item.isCase).map fun (_, index) =>
          (characters (items.take index)).length
      (place second).take count == ((place first).filter (List.contains (place second))).take count
    let cases := second.filter Item.isCase
    if !cases.isEmpty && (isComplement || !isAligned cases.length) then
      fail 1 "misaligned [:upper:] and/or [:lower:] construct"
    if isComplement && (complement (characters first)).length != 0 &&
        1 < (characters second).eraseDups.length && first.any Item.isClass then
      fail 1 ("when translating with complemented character classes,\n" ++
        "string2 must map all characters in the domain to one")

end Translation

def tr : Program := fun arguments => do
  let forms : OptionForms :=
    { letters := "+AcCdst"
      words := [("complement", 'c', .no), ("delete", 'd', .no), ("squeeze-repeats", 's', .no),
        ("truncate-set1", 't', .no)]
      isOrdered := true }
  let given ← given 1 forms arguments
  let isComplement := given.has 'c' || given.has 'C'
  let deletes := given.has 'd'
  let squeezes := given.has 's'
  let isTranslating := !deletes && (given.operands.length == 2 || !squeezes)
  let least := if deletes == squeezes then 2 else 1
  let most := if deletes && !squeezes then 1 else 2
  if given.operands.length < least then
    match given.operands.getLast? with
    | none => misuse 1 "missing operand"
    | some operand =>
      remark ("missing operand after " ++ quote operand)
      writeTo .complaints (if squeezes
        then "Two strings must be given when both deleting and squeezing repeats.\n"
        else "Two strings must be given when translating.\n")
      hint
      exit 1
  match given.operands.drop most with
  | operand :: _ =>
      remark ("extra operand " ++ quote operand)
      if most == 1 && given.operands.length == 2 then
        writeTo .complaints
          "Only one string may be given when deleting without squeezing repeats.\n"
      hint
      exit 1
  | [] => pure ()
  let parse := fun (t : Text) => do
    let backslashes := (t.reverse.takeWhile (· == '\\')).length
    if backslashes % 2 == 1 then
      remark "warning: an unescaped backslash at end of string is not portable"
    match Translation.parse t with
    | .ok items => pure items
    | .error flaw => fail 1 flaw
  let first ← parse (given.operands.headD [])
  let second ← match given.operands.drop 1 with
    | t :: _ => parse t
    | [] => pure []
  Translation.checkFirst first
  if given.operands.length == 2 then
    Translation.checkSecond isTranslating (given.has 't') isComplement first second
  let firstSet := Translation.characters first
  let firstSet := if isComplement then Translation.complement firstSet else firstSet
  let secondItems := Translation.filled firstSet.length second
  let secondSet := Translation.characters secondItems
  match ← flow "-" with
  | .error error => fail 1 ("read error: " ++ reason error)
  | .ok (t, hasMore) =>
      if deletes then
        let kept := t.filter (!List.contains firstSet ·)
        print (if squeezes then Translation.squeeze (List.contains secondSet) kept else kept)
      else if !isTranslating then print (Translation.squeeze (List.contains firstSet) t)
      else
        let pairs :=
          if isComplement then firstSet.zip secondSet else Translation.pairs first secondItems
        let covered := min firstSet.length secondSet.length
        let beyond := if given.has 't' then [] else
          (firstSet.drop covered).map fun c => (c, secondSet.getLast?.getD c)
        let all := (pairs ++ beyond).reverse
        let table := (Translation.allCharacters.map fun c => (all.lookup c).getD c).toArray
        let changed := t.map fun c => table[c.toNat]?.getD c
        print (if squeezes then Translation.squeeze (List.contains secondSet) changed else changed)
      if hasMore then continueForever

end Program
end Shell
end StubAssist

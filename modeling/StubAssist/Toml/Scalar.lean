import StubAssist.Toml.Quoted
import StubAssist.Toml.Value

/-!
# TOML scalars

Numbers, booleans and dates are written without quotes.  Each is recognised from
its whole token.  The shape of a number is checked when it is read; a number of
the right shape may still turn out to have no value, and that matters only to
those who ask for it.
-/

namespace StubAssist
namespace Toml

/-!
# Numbers
-/

/-- The digits of a run in which single underscores may stand between digits. -/
def digitRun? (isDigit : Char → Bool) (t : Text) : Option Text :=
  let groups := Text.splitBy (· == '_') t
  if groups.all (fun group => !group.isEmpty && group.all isDigit) then some groups.flatten
  else none

def digitOf (c : Char) : Nat :=
  if c.isDigit then c.toNat - '0'.toNat else c.toLower.toNat - 'a'.toNat + 10

def valueOf (base : Nat) (digits : Text) : Nat :=
  digits.foldl (fun n c => base * n + digitOf c) 0

def wholeDigits? (t : Text) : Option Text :=
  (digitRun? Char.isDigit t).filter fun digits => digits.length == 1 || digits.head? != some '0'

def splitSign : Text → Bool × Text
  | '+' :: rest => (false, rest)
  | '-' :: rest => (true, rest)
  | t => (false, t)

def isHexDigit (c : Char) : Bool :=
  c.isDigit || ('a' ≤ c && c ≤ 'f') || ('A' ≤ c && c ≤ 'F')

def isOctalDigit (c : Char) : Bool :=
  '0' ≤ c && c ≤ '7'

def isBinaryDigit (c : Char) : Bool :=
  c == '0' || c == '1'

/--
Whether underscores stand between digits, where every hexadecimal digit counts
as one.  Of a group in the middle only the ends are looked at, of the last one
only the start.
-/
def underscoresFit (t : Text) : Bool :=
  match Text.splitBy (· == '_') t with
  | [] => true
  | [_] => true
  | first :: groups =>
      let starts := fun (group : Text) => (group.head?.map isHexDigit).getD false
      let ends := fun (group : Text) =>
        group.length == 1 || (group.getLast?.map isHexDigit).getD false
      !first.isEmpty && ends first && groups.all starts && groups.dropLast.all ends

def integerOf (base : Nat) (isDigit : Char → Bool) (t : Text) : Value :=
  let digits := t.filter (· != '_')
  if digits.isEmpty || !digits.all isDigit then .unreadable
  else .integer (valueOf base digits)

def based? (base : Nat) (isDigit : Char → Bool) (t : Text) : Option Value :=
  if t.all (fun c => isDigit c || c == '_') && underscoresFit t then
    some (integerOf base isDigit t)
  else none

/--
A decimal integer without its sign.  Zero does not stand in front of anything, and
what comes after an underscore does not look like a part of a float.
-/
def decimal? (t : Text) : Option Value :=
  let leading := t.takeWhile Char.isDigit
  let rest := t.drop leading.length
  if leading.isEmpty then none
  else if rest.isEmpty then
    if leading.length == 1 || leading.head? != some '0' then some (integerOf 10 Char.isDigit t)
    else none
  else if rest.head? == some '_' && leading.head? != some '0' &&
      rest.all (fun c => c != ' ' && c != '.' && c != 'e' && c != 'E') && underscoresFit t then
    some (integerOf 10 Char.isDigit t)
  else none

def negate : Value → Value
  | .integer n => .integer (-n)
  | value => value

def integer? : Text → Option Value
  | '0' :: 'x' :: rest => based? 16 isHexDigit rest
  | '0' :: 'o' :: rest => based? 8 isOctalDigit rest
  | '0' :: 'b' :: rest => based? 2 isBinaryDigit rest
  | t =>
      let (negative, digits) := splitSign t
      (decimal? digits).map fun value => if negative then negate value else value

/-- Decimal exponents beyond this bound leave the range of floats. -/
def exponentBound : Int := 400

/-- The float nearest to `digits * 10 ^ exponent`. -/
def floatOf (negative : Bool) (digits : Text) (exponent : Int) : Value :=
  let mantissa := valueOf 10 digits
  let magnitude := (Text.ofNat mantissa).length + exponent
  if mantissa = 0 || magnitude < -exponentBound then .float (if negative then -0.0 else 0.0)
  else if exponentBound < magnitude then .unreadable
  else
    let x := Float.ofScientific mantissa (exponent < 0) exponent.natAbs
    if x.isInf then .unreadable else .float (if negative then -x else x)

def exponent? (t : Text) : Option Int :=
  let (negative, digits) := splitSign t
  (digitRun? Char.isDigit digits).map fun digits =>
    let n : Int := ↑(valueOf 10 digits)
    if negative then -n else n

def floatParts? (t : Text) : Option (Text × Text × Int) := do
  let (number, exponent) :=
    match Text.splitFirst 'e' (t.map fun c => if c == 'E' then 'e' else c) with
    | some (number, exponent) => (number, some exponent)
    | none => (t, none)
  let exponent ←
    match exponent with
    | some exponent => exponent? exponent
    | none => some 0
  match Text.splitFirst '.' number with
  | some (whole, fraction) =>
      return (← wholeDigits? whole, ← digitRun? Char.isDigit fraction, exponent)
  | none => return (← wholeDigits? number, [], exponent)

def float? (t : Text) : Option Value :=
  let (negative, rest) := splitSign t
  if rest == ['i', 'n', 'f'] then
    some (.float (if negative then -1.0 / 0.0 else 1.0 / 0.0))
  else if rest == ['n', 'a', 'n'] then some (.float (0.0 / 0.0))
  else
    (floatParts? rest).map fun (whole, fraction, exponent) =>
      floatOf negative (whole ++ fraction) (exponent - fraction.length)

/-!
# Dates and times
-/

def twoDigits? (a b : Char) : Option Nat :=
  if a.isDigit && b.isDigit then some (10 * digitOf a + digitOf b) else none

def isLeapYear (year : Nat) : Bool :=
  year % 4 == 0 && (year % 100 != 0 || year % 400 == 0)

def daysIn (year month : Nat) : Nat :=
  if month == 2 then (if isLeapYear year then 29 else 28)
  else if month == 4 || month == 6 || month == 9 || month == 11 then 30
  else 31

def isDate : Text → Bool
  | [a, b, c, d, '-', e, f, '-', g, h] =>
      match twoDigits? a b, twoDigits? c d, twoDigits? e f, twoDigits? g h with
      | some century, some year, some month, some day =>
          1 ≤ month && month ≤ 12 && 1 ≤ day && day ≤ daysIn (100 * century + year) month
      | _, _, _, _ => false
  | _ => false

def isBelow (bound : Nat) (n? : Option Nat) : Bool :=
  n?.any (· < bound)

def isFraction : Text → Bool
  | [] => true
  | '.' :: digits => !digits.isEmpty && digits.all Char.isDigit
  | _ => false

/-- Hours and minutes, then perhaps seconds, which may be a leap second. -/
def isTime : Text → Bool
  | a :: b :: ':' :: c :: d :: rest =>
      isBelow 24 (twoDigits? a b) && isBelow 60 (twoDigits? c d) &&
        match rest with
        | [] => true
        | ':' :: e :: f :: fraction => isBelow 61 (twoDigits? e f) && isFraction fraction
        | _ => false
  | _ => false

def isOffset : Text → Bool
  | ['Z'] => true
  | ['z'] => true
  | [sign, a, b, ':', c, d] =>
      (sign == '+' || sign == '-') && isBelow 24 (twoDigits? a b) && isBelow 60 (twoDigits? c d)
  | _ => false

def isTimeWithOffset (t : Text) : Bool :=
  let clock := t.takeWhile fun c => c.isDigit || c == ':' || c == '.'
  let offset := t.drop clock.length
  isTime clock && (offset.isEmpty || isOffset offset)

def isDatetime (t : Text) : Bool :=
  isTime t || isDate t ||
    (isDate (t.take 10) &&
      match t.drop 10 with
      | c :: rest => (c == 'T' || c == 't' || c == ' ') && isTimeWithOffset rest
      | [] => false)

/-!
# Tokens
-/

def isAtomChar (c : Char) : Bool :=
  !List.contains ".=,[]{} \t#\r\n".toList c

def scalar? (token : Text) : Option Value :=
  if token == ['t', 'r', 'u', 'e'] then some (.boolean true)
  else if token == ['f', 'a', 'l', 's', 'e'] then some (.boolean false)
  else if isDatetime token then some .datetime
  else
    (integer? token).or (float? token)

/-- Whether a token goes on after blanks, as a date does with its time. -/
def goesOn (t : Text) : Bool :=
  match t.dropWhile isSpaceOrTab with
  | [] => false
  | c :: _ => isAtomChar c && c != '"' && c != '\''

def splitToken : Text → Text × Text
  | [] => ([], [])
  | c :: rest =>
      if isAtomChar c || c == '.' || (isSpaceOrTab c && goesOn rest) then
        let (token, rest) := splitToken rest
        (c :: token, rest)
      else ([], c :: rest)

end Toml
end StubAssist

import StubAssist.Shell.Extended
import StubAssist.Shell.Format
import StubAssist.Shell.Program

/-!
# Templates

Texts with places that arguments are put into, as often as there are arguments left.
-/

namespace StubAssist
namespace Shell
namespace Program

open Activity

namespace Template

/-- Arguments that are left, and what went wrong with others. -/
structure Remaining where
  arguments : List Text
  hasFailed : Bool
  isTooWide : Bool
deriving DecidableEq, Repr

abbrev Filling := StateT Remaining Activity

def next : Filling (Option Text) := do
  let remaining ← get
  set { remaining with arguments := remaining.arguments.drop 1 }
  return remaining.arguments.head?

def complain (t : Text) : Filling Unit := do
  remark t
  modify fun remaining => { remaining with hasFailed := true }

/-!
# Escapes
-/

def codePoint? (count : Nat) (t : Text) : Option Nat :=
  let digits := t.take count
  if digits.length == count && digits.all fun c => (Extended.hexDigit? c).isSome then
    some (digits.foldl (fun n c => 16 * n + (Extended.hexDigit? c).getD 0) 0)
  else none

/--
Prints what an escape stands for, and returns the text after it.  Octal digits may come
after a zero that does not count, if `zeroLeads`.
-/
def escape (zeroLeads : Bool) (t : Text) : Activity Text := do
  match t with
  | [] =>
      print ['\\']
      return []
  | 'x' :: rest =>
      let digits := (rest.take 2).takeWhile fun c => (Extended.hexDigit? c).isSome
      match codePoint? digits.length digits with
      | some n =>
          if digits.isEmpty then fail 1 "missing hexadecimal number in escape"
          print [Char.ofNat n]
          return rest.drop digits.length
      | none => return rest
  | 'c' :: _ => exit 0
  | c :: rest =>
      if c == '"' then
        print [c]
        return rest
      else if c == 'u' || c == 'U' then
        let count := if c == 'u' then 4 else 8
        match codePoint? count rest with
        | none => fail 1 "missing hexadecimal number in escape"
        | some n =>
            let digits := Extended.hexDigits count n
            if 0xd800 ≤ n && n ≤ 0xdfff then
              fail 1 ("invalid universal character name \\" ++ c :: digits)
            if n < 0x80 then print [Char.ofNat n]
            else print ('\\' :: (if n < 0x10000 then 'u' else 'U') ::
              (Extended.hexDigits (if n < 0x10000 then 4 else 8) n).map Char.toUpper)
            return rest.drop count
      else
        let (bytes, after) := Format.escape zeroLeads t
        print (Octets.ofBytes bytes)
        if after.length != t.length then return after
        print [c]
        return rest

def expand : (fuel : Nat) → Text → Activity Unit
  | 0, _ => return ()
  | _ + 1, [] => return ()
  | fuel + 1, '\\' :: rest => do expand fuel (← escape true rest)
  | fuel + 1, t => do
      let plain := t.takeWhile (· != '\\')
      print plain
      expand fuel (t.drop plain.length)

/-!
# Numbers
-/

def quoted? (t : Text) : Option (Nat × Text) :=
  match t with
  | q :: c :: rest => if q == '\'' || q == '"' then some (c.toNat, rest) else none
  | _ => none

def warnOfRest (rest : Text) : Filling Unit := do
  if !rest.isEmpty then
    remark ("warning: " ++ rest ++
      ": character(s) following character constant have been ignored")

def verify (t rest : Text) (isOutside : Bool) : Filling Unit := do
  if isOutside then complain (quote t ++ ": Numerical result out of range")
  else if rest.isEmpty then return ()
  else if rest == t then complain (quote t ++ ": expected a numeric value")
  else complain (quote t ++ ": value not completely converted")

def integer (least greatest : Int) (t : Text) : Filling Int := do
  match quoted? t with
  | some (n, rest) =>
      warnOfRest rest
      return n
  | none =>
      match Arithmetic.readInteger? t with
      | none =>
          verify t t false
          return 0
      | some (n, rest) =>
          let isOutside := n < least || greatest < n
          verify t rest isOutside
          return if !isOutside then n else if n < 0 && least == -Int.pow 2 63 then least else greatest

def signed (t : Text) : Filling Int :=
  integer (-Int.pow 2 63) (Int.pow 2 63 - 1) t

def unsigned (t : Text) : Filling Int :=
  integer (1 - Int.pow 2 64) (Int.pow 2 64 - 1) t

def fraction (t : Text) : Filling (Bool × Fraction) := do
  match quoted? t with
  | some (n, rest) =>
      warnOfRest rest
      return (false, .finite n 1)
  | none =>
      match Extended.read? t with
      | none =>
          verify t t false
          return (false, .finite 0 1)
      | some (isNegative, value, isOutside, rest) =>
          verify t rest isOutside
          return (isNegative, value)

/-!
# Directives
-/

def size (what : Text) (t : Text) : Filling (Option Int × Text) := do
  match t with
  | '*' :: rest =>
      let argument := (← next).getD []
      let n ← if argument.isEmpty then pure 0 else signed argument
      let isTooSmall := what == "field width" && n < -Int.pow 2 31
      if isTooSmall || Int.pow 2 31 ≤ n then
        Activity.fail 1 ("invalid " ++ what ++ ": " ++ quote argument)
      return (some n, rest)
  | _ =>
      let digits := t.takeWhile Char.isDigit
      return ((Text.digitsFrom? 0 digits).map Int.ofNat, t.drop digits.length)

def conversions (flags : Text) (hasPrecision : Bool) : Text :=
  let isAllowed := fun (c : Char) =>
    let allowed := fun (flag : Char) (letters : Text) =>
      !List.contains flags flag || !List.contains letters c
    allowed '\'' "aAceEosxX" && allowed 'I' "aAceEosxX" && allowed '#' "cdisu" &&
      allowed '0' "cs" && !(hasPrecision && c == 'c')
  "aAcdeEfFgGiosuxX".toList.filter isAllowed

def hexFraction (directive : Format.Directive) (isNegative : Bool) (value : Fraction) :
    Utf8.Bytes :=
  let text := Extended.hexText directive.precision directive.marked value
  let isFinite := match value with
    | .finite _ _ => true
    | _ => false
  let isUpper := directive.conversion == 'A'
  let cased := fun (t : Text) => Octets.bytes (if isUpper then t.map Char.toUpper else t)
  { directive with precision := none }.pad
    (directive.sign isNegative ++ if isFinite then cased "0x" else []) (cased text) isFinite

def carryOut (directive : Format.Directive) (argument : Text) : Filling Unit := do
  let shown := fun (bytes : Utf8.Bytes) => (print (Octets.ofBytes bytes) : Filling Unit)
  match directive.conversion with
  | 's' => shown (directive.text (Octets.bytes argument))
  | 'c' => shown (directive.text [((Octets.bytes argument).head?.getD 0)])
  | c =>
      if c == 'd' || c == 'i' then shown (directive.number (← signed argument))
      else if List.contains "ouxX".toList c then shown (directive.number (← unsigned argument))
      else
        let (isNegative, value) ← fraction argument
        if c == 'a' || c == 'A' then shown (hexFraction directive isNegative value)
        else shown (directive.fraction isNegative value)

def directive (t : Text) : Filling Text := do
  match t with
  | '%' :: rest =>
      print ['%']
      return rest
  | 'b' :: rest =>
      let argument := (← next).getD []
      expand (argument.length + 1) argument
      return rest
  | 'q' :: rest =>
      match ← next with
      | some argument => print (quoteIfNeeded argument)
      | none => pure ()
      return rest
  | _ =>
      let flags := t.takeWhile (List.contains "-+ #0'I".toList ·)
      let (width, rest) ← size "field width" (t.drop flags.length)
      let (precision, rest) ←
        match rest with
        | '.' :: rest => do
            let (precision, rest) ← size "precision" rest
            pure (some (precision.getD 0), rest)
        | _ => pure (none, rest)
      let rest := rest.dropWhile (List.contains "lLhjtz".toList ·)
      let source := '%' :: t.take (t.length - rest.length)
      match rest with
      | [] => Activity.fail 1 (source ++ ": invalid conversion specification")
      | conversion :: rest =>
          if !List.contains (conversions flags precision.isSome) conversion then
            Activity.fail 1 (source ++ conversion :: ": invalid conversion specification".toList)
          let width := width.getD 0
          let directive : Format.Directive :=
            { leftAligned := List.contains flags '-' || width < 0
              zeroFilled := List.contains flags '0'
              plusSign := List.contains flags '+'
              blankSign := List.contains flags ' '
              marked := List.contains flags '#'
              width := width.natAbs
              precision := precision.bind fun p => if p < 0 then none else some p.toNat
              conversion := conversion }
          let argument := (← next).getD []
          if Format.sizeLimit ≤ max directive.width (directive.precision.getD 0) then
            modify fun remaining => { remaining with isTooWide := true }
          else carryOut directive argument
          return rest

def fill : (fuel : Nat) → Text → Filling Unit
  | 0, _ => return ()
  | _ + 1, [] => return ()
  | fuel + 1, '%' :: rest => do fill fuel (← directive rest)
  | fuel + 1, '\\' :: rest => do fill fuel (← escape false rest)
  | fuel + 1, t => do
      let plain := t.takeWhile fun c => c != '%' && c != '\\'
      print plain
      fill fuel (t.drop plain.length)

def fillAll (template : Text) : (fuel : Nat) → Filling Unit
  | 0 => return ()
  | fuel + 1 => do
      let before := (← get).arguments.length
      fill (template.length + 1) template
      let after := (← get).arguments.length
      if after != before && after != 0 then fillAll template fuel

end Template

def printf : Program := fun arguments => do
  let arguments := match arguments with
    | ['-', '-'] :: rest => rest
    | arguments => arguments
  match arguments with
  | [] => misuse 1 "missing operand"
  | template :: arguments =>
      let filling := Template.fillAll template (arguments.length + 1)
      let (_, remaining) ← filling.run ⟨arguments, false, false⟩
      match remaining.arguments with
      | [] => pure ()
      | argument :: _ =>
          remark ("warning: ignoring excess arguments, starting with " ++ quote argument)
      if remaining.isTooWide then remark "write error"
      if remaining.hasFailed || remaining.isTooWide then setStatus 1

end Program
end Shell
end StubAssist

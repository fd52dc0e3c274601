import StubAssist.Shell.Fraction
import StubAssist.Shell.Octets

/-!
# Formatted output

Templates with directives for arguments, and escapes for characters and bytes.
Widths and lengths count bytes.
-/

namespace StubAssist
namespace Shell
namespace Format

open Utf8 (Bytes)

/-!
# Escapes
-/

def octalDigit (c : Char) : Bool :=
  '0' ≤ c && c ≤ '7'

def octalByte (digits : Text) : UInt8 :=
  UInt8.ofNat (digits.foldl (fun n c => 8 * n + (c.toNat - '0'.toNat)) 0)

def controlEscape? (c : Char) : Option UInt8 :=
  match c with
  | 'a' => some 7
  | 'b' => some 8
  | 'e' => some 27
  | 't' => some 9
  | 'n' => some 10
  | 'v' => some 11
  | 'f' => some 12
  | 'r' => some 13
  | '\\' => some 92
  | _ => none

/--
The bytes of what follows a backslash; one that has no meaning stands for itself alone.
Octal digits may come after a zero that does not count, if `zeroLeads`.
-/
def escape (zeroLeads : Bool) (t : Text) : Bytes × Text :=
  match t with
  | [] => ([92], [])
  | c :: rest =>
      match controlEscape? c with
      | some b => ([b], rest)
      | none =>
          if octalDigit c then
            let t := if zeroLeads && c == '0' && (rest.head?.map octalDigit).getD false then rest
              else t
            let digits := (t.take 3).takeWhile octalDigit
            ([octalByte digits], t.drop digits.length)
          else ([92], t)

/-- Expands escapes up to the one that stops all output; says whether it was met. -/
def expand : (fuel : Nat) → Text → Bytes × Bool
  | 0, _ => ([], false)
  | _ + 1, [] => ([], false)
  | _ + 1, '\\' :: 'c' :: _ => ([], true)
  | fuel + 1, '\\' :: rest =>
      let (bytes, rest) := escape true rest
      let (more, isStopped) := expand fuel rest
      (bytes ++ more, isStopped)
  | fuel + 1, c :: rest =>
      let (more, isStopped) := expand fuel rest
      (Octets.bytes [c] ++ more, isStopped)

/-!
# Directives
-/

structure Directive where
  leftAligned : Bool
  zeroFilled : Bool
  plusSign : Bool
  blankSign : Bool
  marked : Bool
  width : Nat
  precision : Option Nat
  conversion : Char
deriving DecidableEq, Repr

namespace Directive

def pad (directive : Directive) (sign body : Bytes) (isNumber : Bool) : Bytes :=
  let missing := directive.width - (sign.length + body.length)
  if directive.leftAligned then sign ++ body ++ List.replicate missing 32
  else if isNumber && directive.zeroFilled && directive.precision.isNone then
    sign ++ List.replicate missing 48 ++ body
  else List.replicate missing 32 ++ sign ++ body

def text (directive : Directive) (bytes : Bytes) : Bytes :=
  let bytes :=
    match directive.precision with
    | some n => bytes.take n
    | none => bytes
  directive.pad [] bytes false

def digits (directive : Directive) (base n : Nat) : Bytes :=
  let body :=
    if n == 0 && directive.precision == some 0 then []
    else Octets.bytes (Nat.toDigits base n)
  List.replicate (directive.precision.getD 1 - body.length) 48 ++ body

def sign (directive : Directive) (isNegative : Bool) : Bytes :=
  if isNegative then [45] else if directive.plusSign then [43]
  else if directive.blankSign then [32] else []

def number (directive : Directive) (n : Int) : Bytes :=
  let unsigned := Arithmetic.bits n
  match directive.conversion with
  | 'o' =>
      let digits := directive.digits 8 unsigned
      directive.pad (if directive.marked && digits.head? != some 48 then [48] else []) digits true
  | 'u' => directive.pad [] (directive.digits 10 unsigned) true
  | 'x' =>
      directive.pad (if directive.marked && unsigned != 0 then [48, 120] else [])
        (directive.digits 16 unsigned) true
  | 'X' =>
      directive.pad (if directive.marked && unsigned != 0 then [48, 88] else [])
        ((directive.digits 16 unsigned).map fun b => if 97 ≤ b && b ≤ 102 then b - 32 else b) true
  | _ =>
      directive.pad (directive.sign (n < 0)) (directive.digits 10 n.natAbs) true

def fraction (directive : Directive) (isNegative : Bool) (value : Fraction) : Bytes :=
  let form := directive.conversion.toLower
  let text := value.toText form (directive.precision.getD 6) directive.marked
  let text := if directive.conversion.isUpper then text.map Char.toUpper else text
  let isFinite := match value with
    | .finite _ _ => true
    | _ => false
  { directive with precision := none }.pad (directive.sign isNegative) (Octets.bytes text) isFinite

end Directive

structure Progress where
  written : Bytes
  arguments : List Text
  hasRead : Bool
  complaints : List Text
  isStopped : Bool
  failure : Option Text
deriving DecidableEq, Repr

namespace Progress

def write (progress : Progress) (bytes : Bytes) : Progress :=
  { progress with written := bytes.reverseAux progress.written }

def fail (progress : Progress) (reason : Text) : Progress :=
  { progress with failure := some reason }

def next (progress : Progress) : Option Text × Progress :=
  match progress.arguments with
  | [] => (none, progress)
  | a :: rest => (some a, { progress with arguments := rest, hasRead := true })

/--
The next argument as a number within limits: a quote in front takes the code of a
byte.  What cannot be read is left out, with a complaint.
-/
def nextNumber (least greatest : Int) (progress : Progress) : Int × Progress :=
  let (argument, progress) := progress.next
  let complain := fun (n : Int) (reason : Text) =>
    (n, { progress with complaints := progress.complaints ++ [reason] })
  match argument with
  | none => (0, progress)
  | some [] => (0, progress)
  | some t =>
      if t.head? == some '\'' || t.head? == some '"' then
        ((((Octets.bytes (t.drop 1)).head?.getD 0).toNat : Int), progress)
      else
        match Arithmetic.readInteger? t with
        | none => complain 0 (t ++ ": expected numeric value")
        | some (n, rest) =>
            let near := if n < least || greatest < n then
              (if n < 0 && least < 0 then least else greatest) else n
            if !rest.isEmpty then complain near (t ++ ": not completely converted")
            else if near != n then complain near (t ++ ": Numerical result out of range")
            else (n, progress)

def nextSigned (progress : Progress) : Int × Progress :=
  progress.nextNumber (-Int.pow 2 63) (Int.pow 2 63 - 1)

def nextUnsigned (progress : Progress) : Int × Progress :=
  let (n, progress) := progress.nextNumber (1 - Int.pow 2 64) (Int.pow 2 64 - 1)
  (if n ≤ 1 - Int.pow 2 64 then Int.pow 2 64 - 1 else n, progress)

def nextFraction (progress : Progress) : Bool × Fraction × Progress :=
  let (argument, progress) := progress.next
  let complain := fun (reason : Text) =>
    { progress with complaints := progress.complaints ++ [argument.getD [] ++ reason] }
  match argument with
  | none => (false, .finite 0 1, progress)
  | some [] => (false, .finite 0 1, progress)
  | some t =>
      if t.head? == some '\'' || t.head? == some '"' then
        (false, .finite ((Octets.bytes (t.drop 1)).head?.getD 0).toNat 1, progress)
      else
        match Fraction.read? t with
        | none => (false, .finite 0 1, complain ": expected numeric value")
        | some (isNegative, value, isOutside, rest) =>
            (isNegative, value,
              if !rest.isEmpty then complain ": not completely converted"
              else if isOutside then complain ": Numerical result out of range"
              else progress)

def nextSize (progress : Progress) : Int × Progress :=
  let (n, progress) := progress.nextSigned
  (n.bmod (Nat.pow 2 32), progress)

end Progress

def readSize (t : Text) (progress : Progress) : Option Int × Text × Progress :=
  match t with
  | '*' :: rest =>
      let (n, progress) := progress.nextSize
      (some n, rest, progress)
  | _ =>
      let digits := t.takeWhile Char.isDigit
      ((Text.digitsFrom? 0 digits).filter (fun _ => !digits.isEmpty) |>.map Int.ofNat,
        t.dropWhile Char.isDigit, progress)

def flags : List Char :=
  "-+ #0".toList

/-- Reads a directive after its percent sign; `none` if the template ends in it. -/
def readDirective (t : Text) (progress : Progress) : Option (Directive × Text × Progress) :=
  let signs := t.takeWhile flags.contains
  let (width, rest, progress) := readSize (t.dropWhile flags.contains) progress
  let (precision, rest, progress) :=
    match rest with
    | '.' :: rest =>
        let (precision, rest, progress) := readSize rest progress
        (some (precision.getD 0), rest, progress)
    | _ => (none, rest, progress)
  match rest with
  | [] => none
  | conversion :: rest =>
      let width := width.getD 0
      some
        ({ leftAligned := List.contains signs '-' || width < 0
           zeroFilled := List.contains signs '0'
           plusSign := List.contains signs '+'
           blankSign := List.contains signs ' '
           marked := List.contains signs '#'
           width := width.natAbs
           precision := precision.bind fun p => if p < 0 then none else some p.toNat
           conversion := conversion }, rest, progress)

def sizeLimit : Nat := Nat.pow 2 31 - 1

def carryOut (directive : Directive) (source : Text) (progress : Progress) : Progress :=
  if sizeLimit ≤ max directive.width (directive.precision.getD 0) then
    progress.fail "xvsnprintf failed"
  else
    match directive.conversion with
    | 's' =>
        let (argument, progress) := progress.next
        progress.write (directive.text (Octets.bytes (argument.getD [])))
    | 'c' =>
        let (argument, progress) := progress.next
        let byte := (Octets.bytes (argument.getD [])).head?.getD 0
        progress.write ({ directive with precision := none }.text [byte])
    | 'b' =>
        let (argument, progress) := progress.next
        let argument := argument.getD []
        let (bytes, isStopped) := expand (argument.length + 1) argument
        { progress.write (directive.text bytes) with isStopped := isStopped }
    | c =>
        if c == 'd' || c == 'i' then
          let (n, progress) := progress.nextSigned
          progress.write (directive.number n)
        else if c == 'o' || c == 'u' || c == 'x' || c == 'X' then
          let (n, progress) := progress.nextUnsigned
          progress.write (directive.number n)
        else if List.contains "eEfFgG".toList c then
          let (isNegative, value, progress) := progress.nextFraction
          progress.write (directive.fraction isNegative value)
        else progress.fail ('%' :: source ++ ": invalid directive")

def pass : (fuel : Nat) → Text → Progress → Progress
  | 0, _, progress => progress
  | _ + 1, [], progress => progress
  | fuel + 1, '%' :: '%' :: rest, progress => pass fuel rest (progress.write [37])
  | fuel + 1, '%' :: rest, progress =>
      match readDirective rest progress with
      | none => progress.fail "missing format character"
      | some (directive, after, progress) =>
          let source := rest.take (rest.length - after.length)
          let progress := carryOut directive source progress
          if progress.isStopped || progress.failure.isSome then progress
          else pass fuel after progress
  | fuel + 1, '\\' :: rest, progress =>
      let (bytes, rest) := escape false rest
      pass fuel rest (progress.write bytes)
  | fuel + 1, c :: rest, progress =>
      let plain := rest.takeWhile fun c => c != '%' && c != '\\'
      pass fuel (rest.drop plain.length) (progress.write (Octets.bytes (c :: plain)))

def passes (template : Text) : (fuel : Nat) → Progress → Progress
  | 0, progress => progress
  | fuel + 1, progress =>
      let after := pass (template.length + 1) template { progress with hasRead := false }
      if after.isStopped || after.failure.isSome || after.arguments.isEmpty || !after.hasRead then
        after
      else passes template fuel after

/-- The output for a template, complaints on its arguments, and what stopped it early. -/
def format (template : Text) (arguments : List Text) : Bytes × List Text × Option Text :=
  let progress := passes template (arguments.length + 1) ⟨[], arguments, false, [], false, none⟩
  (progress.written.reverse, progress.complaints, progress.failure)

end Format
end Shell
end StubAssist

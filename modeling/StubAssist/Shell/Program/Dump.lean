import StubAssist.Shell.Arithmetic
import StubAssist.Shell.Program

/-!
# Dumps

Octets written out as numbers or as characters, block by block.  Each block is written
in one or more forms, which are spread so that they stand below each other.
-/

namespace StubAssist
namespace Shell
namespace Program

open Activity

namespace Dump

inductive Base where
  | signed
  | unsigned
  | octal
  | hexadecimal
deriving DecidableEq, Repr

inductive Kind where
  | names
  | characters
  | numbers (base : Base) (size : Nat)
deriving DecidableEq, Repr

structure Form where
  kind : Kind
  showsText : Bool
deriving DecidableEq, Repr

namespace Kind

def size : Kind → Nat
  | numbers _ size => size
  | _ => 1

def width : Kind → Nat
  | numbers base size =>
      match base, size with
      | .signed, 1 => 4
      | .signed, 2 => 6
      | .signed, 4 => 11
      | .signed, _ => 20
      | .unsigned, 1 => 3
      | .unsigned, 2 => 5
      | .unsigned, 4 => 10
      | .unsigned, _ => 20
      | .octal, 1 => 3
      | .octal, 2 => 6
      | .octal, 4 => 11
      | .octal, _ => 22
      | .hexadecimal, _ => 2 * size
  | _ => 3

end Kind

def controlNames : List Text :=
  partsAt ' ' <| "nul soh stx etx eot enq ack bel bs ht nl vt ff cr so si ".toList ++
    "dle dc1 dc2 dc3 dc4 nak syn etb can em sub esc fs gs rs us sp".toList

def characterText (c : Char) : Text :=
  match c with
  | '\x00' => "\\0"
  | '\x07' => "\\a"
  | '\x08' => "\\b"
  | '\x0c' => "\\f"
  | '\n' => "\\n"
  | '\x0d' => "\\r"
  | '\t' => "\\t"
  | '\x0b' => "\\v"
  | _ => if isPrintable c then [c] else octalDigits c.toNat

/-- The number that octets stand for, the lowest first unless `isBig`. -/
def valueOf (isBig : Bool) (octets : Text) : Nat :=
  (if isBig then octets else octets.reverse).foldl (fun n c => 256 * n + c.toNat) 0

def fieldText (isBig : Bool) (kind : Kind) (octets : Text) : Text :=
  match kind with
  | .names =>
      let code := (octets.headD '\x00').toNat % 128
      if code == 127 then "del" else controlNames[code]?.getD [Char.ofNat code]
  | .characters => characterText (octets.headD '\x00')
  | .numbers base size =>
      let n := valueOf isBig (octets ++ List.replicate (size - octets.length) '\x00')
      let filled := fun (digits : Text) => List.replicate (kind.width - digits.length) '0' ++ digits
      match base with
      | .unsigned => Text.ofNat n
      | .signed =>
          if n < Nat.pow 2 (8 * size - 1) then Text.ofNat n else '-' :: Text.ofNat (Nat.pow 2 (8 * size) - n)
      | .octal => filled (Nat.toDigits 8 n)
      | .hexadecimal => filled (Nat.toDigits 16 n)

def groups (size : Nat) : (fuel : Nat) → Text → List Text
  | 0, _ => []
  | _, [] => []
  | fuel + 1, t => t.take size :: groups size fuel (t.drop size)

/--
Fields with blanks in front of each; `padding` blanks are spread over all the fields that
a block can have, of which `left` remain.
-/
def spread (width padding count : Nat) : (left rest : Nat) → List Text → Text
  | _, _, [] => []
  | left, rest, field :: fields =>
      let next := padding * (left - 1) / count
      alignRight (rest - next + width) field ++ spread width padding count (left - 1) next fields

structure Layout where
  forms : List Form
  blockSize : Nat
  addressBase : Option Nat
  isBig : Bool
  showsAll : Bool

namespace Layout

def blockWidth (layout : Layout) : Nat :=
  (layout.forms.map fun form =>
    (form.kind.width + 1) * (layout.blockSize / form.kind.size)).foldl max 0

def address (layout : Layout) (n : Nat) : Text :=
  match layout.addressBase with
  | none => []
  | some base =>
      let digits := Nat.toDigits base n
      let width := if base == 16 then 6 else 7
      List.replicate (width - digits.length) '0' ++ digits

def block (layout : Layout) (position : Nat) (octets : Text) : Text :=
  let address := layout.address position
  layout.forms.zipIdx.flatMap fun (form, index) =>
    let count := layout.blockSize / form.kind.size
    let padding := layout.blockWidth - form.kind.width * count
    let fields := (groups form.kind.size (octets.length + 1) octets).map
      (fieldText layout.isBig form.kind)
    let missing := count - fields.length
    let trailer :=
      if !form.showsText then []
      else
        List.replicate (missing * form.kind.width + padding * missing / count) ' ' ++
          "  >".toList ++ octets.map (fun c => if isPrintable c then c else '.') ++ ['<']
    (if index == 0 then address else List.replicate address.length ' ') ++
      spread form.kind.width padding count count padding fields ++ trailer ++ ['\n']

/-- All blocks; those that repeat the one before them are left out. -/
def blocks (layout : Layout) : (position : Nat) → (before : Option Text) → (isGap : Bool) →
    List Text → Text
  | _, _, _, [] => []
  | position, before, isGap, octets :: rest =>
      if !layout.showsAll && before == some octets && octets.length == layout.blockSize &&
          !rest.isEmpty then
        (if isGap then [] else "*\n".toList) ++
          layout.blocks (position + octets.length) before true rest
      else if !layout.showsAll && before == some octets && octets.length == layout.blockSize then
        if isGap then [] else "*\n".toList
      else
        layout.block position octets ++
          layout.blocks (position + octets.length) (some octets) false rest

end Layout

/-!
# Options
-/

def sizeAfter (t : Text) : Nat × Text :=
  let digits := t.takeWhile Char.isDigit
  if !digits.isEmpty then ((Text.digitsFrom? 0 digits).getD 0, t.drop digits.length)
  else
    match t with
    | 'C' :: rest => (1, rest)
    | 'S' :: rest => (2, rest)
    | 'I' :: rest => (4, rest)
    | 'L' :: rest => (8, rest)
    | _ => (4, t)

def formsOf (source : Text) : (fuel : Nat) → Text → Except Text (List Form)
  | 0, _ => .ok []
  | _, [] => .ok []
  | fuel + 1, letter :: rest => do
      let (kind, rest) ←
        if letter == 'a' then pure (Kind.names, rest)
        else if letter == 'c' then pure (Kind.characters, rest)
        else
          let base? : Option Base := match letter with
            | 'd' => some .signed
            | 'u' => some .unsigned
            | 'o' => some .octal
            | 'x' => some .hexadecimal
            | _ => none
          match base? with
          | none =>
              throw ("invalid character '" ++ letter :: "' in type string " ++ quote source)
          | some base =>
              let (size, rest) := sizeAfter rest
              if size == 1 || size == 2 || size == 4 || size == 8 then
                pure (Kind.numbers base size, rest)
              else
                throw ("invalid type string " ++ quote source ++
                  ";\nthis system doesn't provide a " ++ Text.ofNat size ++ "-byte integral type")
      let showsText := rest.head? == some 'z'
      let rest := if showsText then rest.drop 1 else rest
      return ⟨kind, showsText⟩ :: (← formsOf source fuel rest)

def shorthand? (letter : Char) : Option Kind :=
  match letter with
  | 'a' => some .names
  | 'b' => some (.numbers .octal 1)
  | 'c' => some .characters
  | 'd' => some (.numbers .unsigned 2)
  | 'i' => some (.numbers .signed 4)
  | 'l' => some (.numbers .signed 8)
  | 'o' => some (.numbers .octal 2)
  | 's' => some (.numbers .signed 2)
  | 'x' => some (.numbers .hexadecimal 2)
  | 'B' => some (.numbers .octal 2)
  | 'D' => some (.numbers .unsigned 4)
  | 'H' | 'X' => some (.numbers .hexadecimal 4)
  | 'h' => some (.numbers .hexadecimal 2)
  | 'I' | 'L' => some (.numbers .signed 8)
  | 'O' => some (.numbers .octal 4)
  | _ => none

def amount? (t : Text) : Option Nat := do
  let (n, rest) := Arithmetic.readNumber t
  if !(t.head?.map Char.isDigit).getD false then none
  else return n * (← unit? "bEGKkMmPTYZ0".toList rest)

def oldOffset? (t : Text) : Option Nat := do
  let t := if t.head? == some '+' then t.drop 1 else t
  let (t, unit) := if t.getLast? == some 'b' then (t.dropLast, 512) else (t, 1)
  let (base, digits) :=
    if t.getLast? == some '.' then (10, t.dropLast)
    else
      match t with
      | '0' :: 'x' :: rest => (16, rest)
      | _ => (8, t)
  let (n, rest) := Arithmetic.readDigits base 0 digits
  if digits.isEmpty || !rest.isEmpty then none else some (n * unit)

def forms : OptionForms where
  letters := "A:abcdfij:loN:S:st:vw::xBDFHhILOX"
  words := [("skip-bytes", 'j', .yes), ("address-radix", 'A', .yes), ("read-bytes", 'N', .yes),
    ("format", 't', .yes), ("output-duplicates", 'v', .no), ("strings", 'S', .maybe),
    ("traditional", 'T', .no), ("width", 'w', .maybe), ("endian", 'E', .yes)]
  isOrdered := false

def inputOf (operands : List Text) : Activity Text := do
  let mut found : List Text := []
  let mut isAny := false
  for operand in orInput operands do
    match ← contents operand with
    | .ok t =>
        found := t :: found
        isAny := true
    | .error error =>
        complain (about (sourceName operand) error)
        if isReadFailure error then isAny := true
  if !isAny then leave
  return found.reverse.flatten

def addressBase (given : Given) : Activity (Option Nat) := do
  match given.value? 'A' with
  | none => return some 8
  | some ['d'] => return some 10
  | some ['o'] => return some 8
  | some ['x'] => return some 16
  | some ['n'] => return none
  | some t =>
      fail 1 ("invalid output address radix '" ++ t.take 1 ++
        "'; it must be one character from [doxn]")

def amountOf (given : Given) (key : Char) : Activity (Option Nat) := do
  match given.value? key with
  | none => return none
  | some t =>
      match amount? t with
      | some n => return some n
      | none => fail 1 ("invalid -" ++ key :: " argument ".toList ++ quote t)

end Dump

open Dump in
def od : Program := fun arguments => do
  let given ← given 1 Dump.forms arguments
  let addressBase ← addressBase given
  let mut forms : List Form := []
  for option in given.options do
    match option.key, option.value with
    | 't', some t =>
        match formsOf t (t.length + 1) t with
        | .ok more => forms := forms ++ more
        | .error flaw => fail 1 flaw
    | key, _ =>
        match shorthand? key with
        | some kind => forms := forms ++ [⟨kind, false⟩]
        | none => pure ()
  if forms.isEmpty then forms := [⟨.numbers .octal 2, false⟩]
  let skipped ← amountOf given 'j'
  let limit ← amountOf given 'N'
  let isModern := given.options.any fun option => List.contains "AjNtSwv".toList option.key
  let (operands, offset) :=
    match isModern, given.operands with
    | false, [t] =>
        if t.head? == some '+' then (if (oldOffset? t).isSome then ([], oldOffset? t)
          else ([t], none)) else ([t], none)
    | false, [path, t] =>
        if (t.head?.map fun c => c == '+' || c.isDigit).getD false && (oldOffset? t).isSome then
          ([path], oldOffset? t)
        else ([path, t], none)
    | _, operands => (operands, none)
  let isBig ←
    match given.value? 'E' with
    | none => pure false
    | some word =>
        if !word.isEmpty && word.isPrefixOf "little".toList then pure false
        else if !word.isEmpty && word.isPrefixOf "big".toList then pure true
        else
          remark ("invalid argument " ++ quote word ++ " for '--endian'")
          writeTo .complaints "Valid arguments are:\n  - 'little'\n  - 'big'\n"
          hint
          exit 1
  let start := offset.getD (skipped.getD 0)
  let input ← inputOf operands
  if input.length < start then fail 1 "cannot skip past end of combined input"
  let octets := input.drop start
  let octets := (limit.map octets.take).getD octets
  let unit := (forms.map (·.kind.size)).foldl max 1
  let blockSize ←
    match given.last? ['w'] with
    | none => pure (unit * (16 / unit))
    | some ⟨_, none⟩ => pure 32
    | some ⟨_, some t⟩ =>
        match amount? t with
        | none => fail 1 ("invalid -w argument " ++ quote t)
        | some n =>
            if n % unit != 0 || n == 0 then
              remark ("warning: invalid width " ++ Text.ofNat n ++ "; using " ++ Text.ofNat unit ++
                " instead")
              pure unit
            else pure n
  let layout : Layout := ⟨forms, blockSize, addressBase, isBig, given.has 'v'⟩
  print (layout.blocks start none false (groups blockSize (octets.length + 1) octets))
  if addressBase.isSome then printLine (layout.address (start + octets.length))
  checkInput "standard input" operands

end Program
end Shell
end StubAssist

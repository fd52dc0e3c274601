import StubAssist.Shell.Program.Paths

/-!
# Comparing bytes

Two texts are compared byte by byte, up to the first difference or for all of them.
-/

namespace StubAssist
namespace Shell
namespace Program

open Activity

def misuseNamed {α : Type} (status : Nat) (complaint : Text) : Activity α := do
  remark complaint
  remark ("Try '" ++ (← surroundings).name ++ " --help' for more information.")
  exit status

/-- Reads options, or gives up with a status and advice with the name of the program. -/
def givenNamed (status : Nat) (forms : OptionForms) (arguments : List Text) : Activity Given := do
  match forms.read? arguments with
  | .ok (options, operands) => return ⟨options, operands⟩
  | .error flaw => misuseNamed status flaw

namespace Comparison

structure Form where
  showsBytes : Bool
  showsAll : Bool
  isSilent : Bool
  limit : Option Nat
deriving DecidableEq, Repr

def visible (c : Char) : Text :=
  let low := fun (n : Nat) => if n < 32 then ['^', Char.ofNat (n + 64)]
    else if n == 127 then ['^', '?'] else [Char.ofNat n]
  if c.toNat < 128 then low c.toNat else ['M', '-'] ++ low (c.toNat - 128)

def octal (c : Char) : Text :=
  alignRight 3 (Nat.toDigits 8 c.toNat)

def endText (form : Form) (name t : Text) : Text :=
  if t.isEmpty then "EOF on ".toList ++ name ++ " which is empty".toList
  else
    let lines := (t.filter (· == '\n')).length
    let start := "EOF on " ++ name ++ " after byte ".toList ++ Text.ofNat t.length
    if form.showsAll then start
    else if t.getLast? == some '\n' then start ++ ", line " ++ Text.ofNat lines
    else start ++ ", in line " ++ Text.ofNat (lines + 1)

def differences : (position : Nat) → Text → Text → List (Nat × Char × Char)
  | position, a :: first, b :: second =>
      if a == b then differences (position + 1) first second
      else (position, a, b) :: differences (position + 1) first second
  | _, _, _ => []

/-- How many characters two texts have in common at their start, and how many lines. -/
def commonStart : (count lines : Nat) → Text → Text → Nat × Nat
  | count, lines, a :: first, b :: second =>
      if a == b then commonStart (count + 1) (if a == '\n' then lines + 1 else lines) first second
      else (count, lines)
  | count, lines, _, _ => (count, lines)

def compare (form : Form) (nameA a nameB b : Text) : Activity Bool := do
  let cut := fun (t : Text) => match form.limit with
    | some n => t.take n
    | none => t
  let a := cut a
  let b := cut b
  let shorter := if a.length < b.length then some (nameA, a)
    else if b.length < a.length then some (nameB, b) else none
  let complainOfEnd := (do
    match shorter with
    | some (name, t) => if !form.isSilent then remark (endText form name t)
    | none => pure () : Activity Unit)
  if form.showsAll then
    let found := differences 1 a b
    let width := (Text.ofNat (min a.length b.length)).length
    for (position, x, y) in found do
      print (alignRight width (Text.ofNat position) ++ ' ' :: octal x ++
        (if form.showsBytes then ' ' :: alignLeft 4 (visible x) else []) ++ ' ' :: octal y ++
        (if form.showsBytes then ' ' :: visible y else []) ++ ['\n'])
    complainOfEnd
    return found.isEmpty && shorter.isNone
  else
    let (count, lines) := commonStart 0 0 a b
    match a[count]?, b[count]? with
    | some x, some y =>
        if !form.isSilent then
          let what : Text := if form.showsBytes then "byte " else "char "
          print (nameA ++ ' ' :: nameB ++ " differ: " ++ what ++ Text.ofNat (count + 1) ++
            ", line " ++ Text.ofNat (lines + 1) ++
            (if form.showsBytes then
              " is ".toList ++ octal x ++ ' ' :: visible x ++ ' ' :: octal y ++ ' ' :: visible y
            else []) ++ ['\n'])
        return false
    | _, _ =>
        complainOfEnd
        return shorter.isNone

def size (option t : Text) : Activity Nat := do
  let isNumber := (t.head?.map Char.isDigit).getD false
  match if isNumber then quantity? "kKMGTPEZY" t else none with
  | some n => return n
  | none => misuseNamed 2 ("invalid --" ++ option ++ " value " ++ quote t)

end Comparison

def cmp : Program := fun arguments => do
  let forms : OptionForms :=
    { letters := "bci:ln:sv"
      words := [("print-bytes", 'b', .no), ("print-chars", 'c', .no), ("ignore-initial", 'i', .yes),
        ("verbose", 'l', .no), ("bytes", 'n', .yes), ("silent", 's', .no), ("quiet", 's', .no)]
      isOrdered := false }
  let given ← givenNamed 2 forms arguments
  let mut skips : Nat × Nat := (0, 0)
  let mut limit := none
  for option in given.options do
    match option.key, option.value with
    | 'i', some t =>
        match Text.splitFirst ':' t with
        | some (first, second) =>
            skips := (← Comparison.size "ignore-initial" first,
              ← Comparison.size "ignore-initial" second)
        | none =>
            let n ← Comparison.size "ignore-initial" t
            skips := (n, n)
    | 'n', some t => limit := some (← Comparison.size "bytes" t)
    | _, _ => pure ()
  if given.has 'l' && given.has 's' then misuseNamed 2 "options -l and -s are incompatible"
  let (nameA, rest) ←
    match given.operands with
    | [] => misuseNamed 2 ("missing operand after " ++ quote (← surroundings).name)
    | name :: rest => pure (name, rest)
  let nameB := rest.headD ['-']
  match rest.drop 1 with
  | first :: more =>
      skips := (← Comparison.size "ignore-initial" first, skips.2)
      match more with
      | second :: extra =>
          skips := (skips.1, ← Comparison.size "ignore-initial" second)
          match extra with
          | operand :: _ => misuseNamed 2 ("extra operand " ++ quote operand)
          | [] => pure ()
      | [] => pure ()
  | [] => pure ()
  let form : Comparison.Form :=
    { showsBytes := given.has 'b' || given.has 'c'
      showsAll := given.has 'l'
      isSilent := given.has 's'
      limit := limit }
  let read := fun (name : Text) => (do
    match ← contents name with
    | .ok t => return t
    | .error error =>
        if given.has 's' then exit 2 else fail 2 (quoteTopic name ++ ": " ++ reason error) :
      Activity Text)
  let a ← read nameA
  let b ← if nameB == nameA then pure a else read nameB
  if nameA == nameB && skips.1 == skips.2 then return ()
  let same ← Comparison.compare form nameA (a.drop skips.1) nameB (b.drop skips.2)
  if !same then setStatus 1

end Program
end Shell
end StubAssist

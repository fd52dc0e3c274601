import StubAssist.Shell.Program

/-!
# Repeated lines

Lines that are equal and follow each other are told apart from single ones.
-/

namespace StubAssist
namespace Shell
namespace Program

open Activity

namespace Repeats

structure Comparison where
  skippedFields : Nat
  skippedCharacters : Nat
  width : Option Nat
  ignoresCase : Bool
deriving DecidableEq, Repr

def dropFields : Nat → Text → Text
  | 0, t => t
  | count + 1, t => dropFields count ((t.dropWhile isBlank).dropWhile (!isBlank ·))

def Comparison.part (comparison : Comparison) (line : Text) : Text :=
  let t := (dropFields comparison.skippedFields line).drop comparison.skippedCharacters
  let t := match comparison.width with
    | some width => t.take width
    | none => t
  if comparison.ignoresCase then t.map Char.toUpper else t

def groups (comparison : Comparison) (lines : List Text) : List (List Text) :=
  (lines.foldr (fun line (found : List (Text × List Text)) =>
    let part := comparison.part line
    match found with
    | (next, group) :: others =>
        if part == next then (next, line :: group) :: others
        else (part, [line]) :: found
    | [] => [(part, [line])]) []).map (·.2)

inductive Spacing where
  | none
  | before
  | between
  | after
  | around
deriving DecidableEq, Repr

def spaced (spacing : Spacing) (ending : Char) (blocks : List Text) : Text :=
  let blank : Text := [ending]
  match spacing with
  | .none => blocks.flatten
  | .before => (blocks.map (blank ++ ·)).flatten
  | .between => (blocks.intersperse blank).flatten
  | .after => (blocks.map (· ++ blank)).flatten
  | .around => blank ++ (blocks.map (· ++ blank)).flatten

def forms : OptionForms where
  letters := "cdDuif:s:w:z0123456789"
  words := [("count", 'c', .no), ("repeated", 'd', .no), ("all-repeated", 'D', .maybe),
    ("unique", 'u', .no), ("ignore-case", 'i', .no), ("skip-fields", 'f', .yes),
    ("skip-chars", 's', .yes), ("check-chars", 'w', .yes), ("zero-terminated", 'z', .no),
    ("group", 'G', .maybe)]
  isOrdered := false

def number (given : Given) (key : Char) (what : Text) : Activity (Option Nat) := do
  match given.value? key with
  | none => return none
  | some t =>
      match Text.toWord? t with
      | some n => return some n
      | none => fail 1 (t ++ ": invalid number of " ++ what)

def wordOf (option : Text) (words : List (Text × Spacing)) (t : Text) : Activity Spacing := do
  let exact := words.filter (·.1 == t)
  match if exact.isEmpty then words.filter (t.isPrefixOf ·.1) else exact with
  | [(_, spacing)] => return spacing
  | found =>
      let flaw : Text := if found.isEmpty then "invalid" else "ambiguous"
      remark (flaw ++ " argument " ++ quote t ++ " for '--" ++ option ++ ['\''])
      writeTo .complaints ("Valid arguments are:\n" ++
        words.flatMap fun (word, _) => "  - ".toList ++ quote word ++ ['\n'])
      hint
      exit 1

def repeatedWords : List (Text × Spacing) :=
  [("none", .none), ("prepend", .before), ("separate", .between)]

def groupWords : List (Text × Spacing) :=
  [("prepend", .before), ("append", .after), ("separate", .between), ("both", .around)]

/-- A number after a dash is a number of fields to skip, and one after a plus of characters. -/
def modernize (arguments : List Text) : List Text :=
  arguments.map fun
    | sign :: c :: rest =>
        let isCount := (c :: rest).all Char.isDigit
        if isCount && sign == '-' then "-f" ++ c :: rest
        else if isCount && sign == '+' then "-s" ++ c :: rest
        else sign :: c :: rest
    | argument => argument

end Repeats

def uniq : Program := fun arguments => do
  let given ← given 1 Repeats.forms (Repeats.modernize arguments)
  let comparison : Repeats.Comparison :=
    { skippedFields := (← Repeats.number given 'f' "fields to skip").getD 0
      skippedCharacters := (← Repeats.number given 's' "bytes to skip").getD 0
      width := ← Repeats.number given 'w' "bytes to compare"
      ignoresCase := given.has 'i' }
  let spacing ←
    match given.value? 'D' with
    | none => pure Repeats.Spacing.none
    | some t => Repeats.wordOf "all-repeated" Repeats.repeatedWords t
  let grouping ←
    match given.last? "G" with
    | none => pure none
    | some ⟨_, none⟩ => pure (some Repeats.Spacing.between)
    | some ⟨_, some t⟩ => do pure (some (← Repeats.wordOf "group" Repeats.groupWords t))
  refuseExtra 1 2 given.operands
  if grouping.isSome && "cdDu".toList.any given.has then
    misuse 1 "--group is mutually exclusive with -c/-d/-D/-u"
  if given.has 'D' && given.has 'c' then
    misuse 1 "printing all duplicated lines and repeat counts is meaningless"
  let ending := if given.has 'z' then '\x00' else '\n'
  let operand := given.operands.headD ['-']
  match ← contents operand with
  | .error error =>
      let ofName := quoteName operand ++ ": " ++ reason error
      fail 1 (if isReadFailure error then "error reading " ++ ofName else about operand error)
  | .ok t =>
      let groups := Repeats.groups comparison (records ending t)
      let kept := groups.filter fun group =>
        let isRepeated := (group.drop 1) != []
        !(isRepeated && given.has 'u') && !(!isRepeated && (given.has 'd' || given.has 'D'))
      let block := fun (group : List Text) => group.flatMap (· ++ [ending])
      let shown :=
        match grouping with
        | some .between => Repeats.spaced .between ending (kept.map block)
        | some spacing =>
            if kept.isEmpty then [] else Repeats.spaced spacing ending (kept.map block)
        | none =>
            if given.has 'D' then Repeats.spaced spacing ending (kept.map block)
            else kept.flatMap fun group =>
              let count := if given.has 'c' then
                alignRight 7 (Text.ofNat group.length) ++ [' '] else []
              count ++ group.headD [] ++ [ending]
      match (given.operands.drop 1).head? with
      | none => print shown
      | some ['-'] => print shown
      | some path =>
          match (← files).write path (Octets.bytes shown) with
          | .ok files => setFiles files
          | .error error => fail 1 (about path error)

end Program
end Shell
end StubAssist

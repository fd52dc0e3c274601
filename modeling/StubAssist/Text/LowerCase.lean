import StubAssist.Text
import StubAssist.Text.CaseTable

/-!
# Lower case

The full lower-case mapping.  It is character by character, with two special
rules: a capital I with a dot keeps the dot as a combining mark, and a capital
sigma takes its final form at the end of a word.
-/

namespace StubAssist
namespace Text

def inRanges (ranges : List (Nat × Nat)) (c : Char) : Bool :=
  ranges.any fun (first, last) => first ≤ c.toNat && c.toNat ≤ last

def isCased (c : Char) : Bool :=
  inRanges casedRanges c

def isCaseIgnorable (c : Char) : Bool :=
  inRanges caseIgnorableRanges c

def CaseRun.covers (run : CaseRun) (n : Nat) : Bool :=
  run.first ≤ n && n ≤ run.last && (n - run.first) % run.step == 0

def lowerChar (c : Char) : Char :=
  if c.toNat < 128 then c.toLower
  else
    match lowerCaseRuns.find? (·.covers c.toNat) with
    | some run => Char.ofNat (c.toNat + run.offset).toNat
    | none => c

/-- Whether a cased character comes first once ignorable ones are skipped. -/
def casedAhead (t : Text) : Bool :=
  ((t.dropWhile isCaseIgnorable).head?.map isCased).getD false

/--
The lower-case form of a capital sigma between `before`, nearest character
first, and `after`: final when a letter precedes it and none follows.
-/
def lowerSigma (before after : Text) : Char :=
  if casedAhead before && !casedAhead after then 'ς' else 'σ'

def lowerCaseFrom (before : Text) : Text → Text
  | [] => []
  | c :: rest =>
      if c = 'Σ' then lowerSigma before rest :: lowerCaseFrom (c :: before) rest
      else if c = 'İ' then 'i' :: '\u0307' :: lowerCaseFrom (c :: before) rest
      else lowerChar c :: lowerCaseFrom (c :: before) rest

def lowerCase (t : Text) : Text :=
  lowerCaseFrom [] t

end Text
end StubAssist

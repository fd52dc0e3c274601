import Mathlib.Data.List.Infix
import StubAssist.Proofs.Go.Code

/-!
# Where declarations end

The lines of a declaration are read brace by brace until one closes the first that was
opened.  What the lines of the first part of a source come to is all that reading the
rest of it depends on: `endingOf_append` cuts the reading between any two lines, and
`readBraces_append` between any two code characters.  Braces that balance inside an open
declaration leave it where it was.
-/

namespace StubAssist
namespace Go

/-!
# Braces that stay within a depth
-/

/-- No part of the code closes more braces than `depth` and those that it opens. -/
def StaysWithin (depth : Nat) (code : List Char) : Prop :=
  forall part, part <+: code -> part.count '}' ≤ depth + part.count '{'

/-- The braces of the code balance, and none closes before it is opened. -/
structure BracesBalance (code : List Char) : Prop where
  even : code.count '{' = code.count '}'
  within : StaysWithin 0 code

instance (depth : Nat) (code : List Char) : Decidable (StaysWithin depth code) :=
  decidable_of_iff
    (forall part, part ∈ code.inits -> part.count '}' ≤ depth + part.count '{')
    (by simp only [List.mem_inits, StaysWithin])

instance (code : List Char) : Decidable (BracesBalance code) :=
  decidable_of_iff (code.count '{' = code.count '}' ∧ StaysWithin 0 code)
    ⟨fun h => ⟨h.left, h.right⟩, fun h => ⟨h.even, h.within⟩⟩

theorem staysWithin_nil (depth : Nat) :
    StaysWithin depth [] := by
  intro part hpart
  rw [List.prefix_nil.mp hpart]
  exact Nat.zero_le _

theorem staysWithin_open {depth : Nat} {code : List Char} :
    StaysWithin depth ('{' :: code) ↔ StaysWithin (depth + 1) code := by
  constructor
  · intro hwithin part hpart
    have hle := hwithin ('{' :: part) (List.cons_prefix_cons.mpr ⟨rfl, hpart⟩)
    simp at hle
    omega
  · intro hwithin part hpart
    rcases List.prefix_cons_iff.mp hpart with hnil | ⟨more, hcons, hmore⟩
    · rw [hnil]
      exact Nat.zero_le _
    · have hle := hwithin more hmore
      rw [hcons]
      simp
      omega

theorem staysWithin_close {depth : Nat} {code : List Char} :
    StaysWithin (depth + 1) ('}' :: code) ↔ StaysWithin depth code := by
  constructor
  · intro hwithin part hpart
    have hle := hwithin ('}' :: part) (List.cons_prefix_cons.mpr ⟨rfl, hpart⟩)
    simp at hle
    omega
  · intro hwithin part hpart
    rcases List.prefix_cons_iff.mp hpart with hnil | ⟨more, hcons, hmore⟩
    · rw [hnil]
      exact Nat.zero_le _
    · have hle := hwithin more hmore
      rw [hcons]
      simp
      omega

theorem not_staysWithin_close (code : List Char) :
    ¬ StaysWithin 0 ('}' :: code) := by
  intro hwithin
  have hle := hwithin ['}'] ⟨code, rfl⟩
  simp at hle

theorem staysWithin_other
    {depth : Nat} {c : Char} {code : List Char} (hopen : c ≠ '{') (hclose : c ≠ '}') :
    StaysWithin depth (c :: code) ↔ StaysWithin depth code := by
  constructor
  · intro hwithin part hpart
    have hle := hwithin (c :: part) (List.cons_prefix_cons.mpr ⟨rfl, hpart⟩)
    simpa [hopen, hclose] using hle
  · intro hwithin part hpart
    rcases List.prefix_cons_iff.mp hpart with hnil | ⟨more, hcons, hmore⟩
    · rw [hnil]
      exact Nat.zero_le _
    · rw [hcons]
      simpa [hopen, hclose] using hwithin more hmore

/-!
# Reading braces
-/

theorem readBraces_open (braces : Braces) (code : List Char) :
    readBraces braces ('{' :: code) = readBraces braces.descend code := rfl

theorem readBraces_ascend_closed
    {braces : Braces} (code : List Char) (hclosed : braces.ascend.areClosed = true) :
    readBraces braces ('}' :: code) = (braces.ascend, true) := by
  simp [readBraces, hclosed]

theorem readBraces_ascend_open
    {braces : Braces} (code : List Char) (hopen : ¬ braces.ascend.areClosed = true) :
    readBraces braces ('}' :: code) = readBraces braces.ascend code := by
  simp [readBraces, hopen]

theorem readBraces_close (depth : Nat) (code : List Char) :
    readBraces ⟨depth + 2, true⟩ ('}' :: code) = readBraces ⟨depth + 1, true⟩ code := rfl

theorem readBraces_other
    {c : Char} (braces : Braces) (code : List Char) (hopen : c ≠ '{') (hclose : c ≠ '}') :
    readBraces braces (c :: code) = readBraces braces code := by
  rw [readBraces, if_neg hopen, if_neg hclose]

theorem readBraces_append (braces : Braces) (code more : List Char) :
    readBraces braces (code ++ more) =
      if (readBraces braces code).2 then readBraces braces code
      else readBraces (readBraces braces code).1 more := by
  fun_induction readBraces braces code with
  | case1 braces =>
      rfl
  | case2 braces code ih =>
      exact ih
  | case3 braces code hclosed =>
      rw [List.cons_append, readBraces_ascend_closed _ hclosed]
      rfl
  | case4 braces code hopen _ ih =>
      rw [List.cons_append, readBraces_ascend_open _ hopen]
      exact ih
  | case5 braces c code hopen hclose ih =>
      rw [List.cons_append, readBraces_other braces _ hopen hclose]
      exact ih

theorem readBraces_append_of_open
    {braces next : Braces} {code : List Char} (more : List Char)
    (hcode : readBraces braces code = (next, false)) :
    readBraces braces (code ++ more) = readBraces next more := by
  rw [readBraces_append, hcode]
  rfl

theorem exists_closing
    {braces : Braces} {code : List Char} (hclosed : (readBraces braces code).2 = true) :
    exists body tail next,
      code = body ++ '}' :: tail ∧ readBraces braces body = (next, false) ∧
        next.ascend.areClosed = true := by
  fun_induction readBraces braces code with
  | case1 braces =>
      cases hclosed
  | case2 braces code ih =>
      rcases ih hclosed with ⟨body, tail, next, hcode, hbody, hnext⟩
      exact ⟨'{' :: body, tail, next, by rw [hcode]; rfl, hbody, hnext⟩
  | case3 braces code hascend =>
      exact ⟨[], code, braces, rfl, rfl, hascend⟩
  | case4 braces code hopen _ ih =>
      rcases ih hclosed with ⟨body, tail, next, hcode, hbody, hnext⟩
      refine ⟨'}' :: body, tail, next, by rw [hcode]; rfl, ?_, hnext⟩
      rw [readBraces_ascend_open _ hopen]
      exact hbody
  | case5 braces c code hopen hclose ih =>
      rcases ih hclosed with ⟨body, tail, next, hcode, hbody, hnext⟩
      refine ⟨c :: body, tail, next, by rw [hcode]; rfl, ?_, hnext⟩
      rw [readBraces_other braces body hopen hclose]
      exact hbody

theorem readBraces_of_staysWithin
    {depth : Nat} {code : List Char} (hwithin : StaysWithin depth code) :
    readBraces ⟨depth + 1, true⟩ code =
      (⟨depth + code.count '{' - code.count '}' + 1, true⟩, false) := by
  induction code generalizing depth with
  | nil =>
      rfl
  | cons c code ih =>
      by_cases hopen : c = '{'
      · rw [hopen] at hwithin ⊢
        have hdepth : depth + ('{' :: code).count '{' - ('{' :: code).count '}' =
            depth + 1 + code.count '{' - code.count '}' := by
          simp
          omega
        rw [hdepth, readBraces_open]
        exact ih (staysWithin_open.mp hwithin)
      · by_cases hclose : c = '}'
        · rw [hclose] at hwithin ⊢
          cases depth with
          | zero =>
              exact absurd hwithin (not_staysWithin_close code)
          | succ depth =>
              have hdepth : depth + 1 + ('}' :: code).count '{' - ('}' :: code).count '}' =
                  depth + code.count '{' - code.count '}' := by
                simp
                omega
              rw [hdepth, readBraces_close]
              exact ih (staysWithin_close.mp hwithin)
        · rw [readBraces_other _ code hopen hclose,
            ih ((staysWithin_other hopen hclose).mp hwithin),
            List.count_cons_of_ne hopen, List.count_cons_of_ne hclose]

theorem staysWithin_of_readBraces
    {depth : Nat} {code : List Char} {next : Braces}
    (hcode : readBraces ⟨depth + 1, true⟩ code = (next, false)) :
    StaysWithin depth code := by
  induction code generalizing depth with
  | nil =>
      exact staysWithin_nil depth
  | cons c code ih =>
      by_cases hopen : c = '{'
      · rw [hopen, readBraces_open] at hcode
        rw [hopen]
        exact staysWithin_open.mpr (ih hcode)
      · by_cases hclose : c = '}'
        · rw [hclose] at hcode ⊢
          cases depth with
          | zero =>
              cases hcode
          | succ depth =>
              rw [readBraces_close] at hcode
              exact staysWithin_close.mpr (ih hcode)
        · rw [readBraces_other _ code hopen hclose] at hcode
          exact (staysWithin_other hopen hclose).mpr (ih hcode)

theorem readBraces_of_balance
    {code : List Char} (depth : Nat) (hbalance : BracesBalance code) :
    readBraces ⟨depth + 1, true⟩ code = (⟨depth + 1, true⟩, false) := by
  have hwithin : StaysWithin depth code := by
    intro part hpart
    have hle := hbalance.within part hpart
    omega
  rw [readBraces_of_staysWithin hwithin, hbalance.even, Nat.add_sub_cancel]

theorem readBraces_none (code : List Char) :
    ('{' ∉ code ∧ readBraces .none code = (.none, false)) ∨
      exists head inside,
        code = head ++ '{' :: inside ∧ '{' ∉ head ∧
          readBraces .none code = readBraces ⟨1, true⟩ inside := by
  induction code with
  | nil =>
      exact Or.inl ⟨List.not_mem_nil, rfl⟩
  | cons c code ih =>
      by_cases hopen : c = '{'
      · rw [hopen]
        exact Or.inr ⟨[], code, rfl, List.not_mem_nil, rfl⟩
      · have hskip : readBraces .none (c :: code) = readBraces .none code := by
          by_cases hclose : c = '}'
          · rw [hclose]
            rfl
          · exact readBraces_other .none code hopen hclose
        rw [hskip]
        rcases ih with ⟨hnone, hread⟩ | ⟨head, inside, hsplit, hnone, hread⟩
        · exact Or.inl ⟨by simp [Ne.symm hopen, hnone], hread⟩
        · exact Or.inr ⟨c :: head, inside, by rw [hsplit]; rfl, by simp [Ne.symm hopen, hnone],
            hread⟩

theorem exists_depth_of_opened
    {code : List Char} {next : Braces} (hread : readBraces .none code = (next, false))
    (hopened : next.opened = true) :
    exists depth, next = ⟨depth + 1, true⟩ := by
  rcases readBraces_none code with ⟨_, hnone⟩ | ⟨head, inside, _, _, hinside⟩
  · rw [hnone] at hread
    cases hread
    cases hopened
  · rw [hinside] at hread
    have hdepth := readBraces_of_staysWithin (staysWithin_of_readBraces hread)
    rw [hread] at hdepth
    exact ⟨_, congrArg Prod.fst hdepth⟩

/-!
# Reading lines
-/

def movedLine (place count line : Nat) : Nat :=
  if line < place then line else line + count

theorem movedLine_of_lt
    {place line : Nat} (count : Nat) (hline : line < place) :
    movedLine place count line = line :=
  if_pos hline

theorem movedLine_of_le
    {place line : Nat} (count : Nat) (hline : place ≤ line) :
    movedLine place count line = line + count :=
  if_neg (Nat.not_lt.mpr hline)

theorem movedLine_add (first place count line : Nat) :
    movedLine (first + place) count (first + line) =
      first + movedLine place count line := by
  by_cases hline : line < place
  · rw [movedLine_of_lt count hline, movedLine_of_lt count (Nat.add_lt_add_left hline first)]
  · have hpast := Nat.le_of_not_lt hline
    rw [movedLine_of_le count hpast, movedLine_of_le count (Nat.add_le_add_left hpast first),
      Nat.add_assoc]

/-- What reading lines for the end of a declaration comes to. -/
inductive Ending where
  | unfinished (braces : Braces) (inRaw : Bool)
  /-- Its closing brace is on the line that comes this many lines after the first. -/
  | closed (offset : Nat)
  | bodiless
deriving DecidableEq

namespace Ending

/-- The ending as seen from `count` lines earlier. -/
def after (count : Nat) : Ending -> Ending
  | unfinished braces inRaw => unfinished braces inRaw
  | closed offset => closed (count + offset)
  | bodiless => bodiless

def moved (place count : Nat) : Ending -> Ending
  | closed offset => closed (movedLine place count offset)
  | ending => ending

def isFound : Ending -> Bool
  | unfinished _ _ => false
  | _ => true

/-- How many of `count` lines after the first one the last line of the declaration is. -/
def lastLine (count : Nat) : Ending -> Nat
  | unfinished _ _ => count - 1
  | closed offset => offset
  | bodiless => 0

theorem after_after (first second : Nat) (ending : Ending) :
    (ending.after second).after first = ending.after (first + second) := by
  cases ending with
  | unfinished braces inRaw => rfl
  | closed offset => exact congrArg closed (Nat.add_assoc first second offset).symm
  | bodiless => rfl

theorem after_eq_unfinished_iff
    {count : Nat} {ending : Ending} {braces : Braces} {inRaw : Bool} :
    ending.after count = unfinished braces inRaw ↔ ending = unfinished braces inRaw := by
  cases ending <;> simp [after]

theorem after_eq_bodiless_iff {count : Nat} {ending : Ending} :
    ending.after count = bodiless ↔ ending = bodiless := by
  cases ending <;> simp [after]

theorem after_eq_closed_iff {count offset : Nat} {ending : Ending} :
    ending.after count = closed offset ↔
      exists earlier, ending = closed earlier ∧ offset = count + earlier := by
  cases ending <;> simp [after, eq_comm]

end Ending

def endingOf (braces : Braces) (inRaw : Bool) : List Text -> Ending
  | [] => .unfinished braces inRaw
  | line :: lines =>
      let (next, closed) := readBraces braces (codeChars inRaw line)
      if closed then .closed 0
      else if !next.opened && !rawAfter inRaw line then .bodiless
      else (endingOf next (rawAfter inRaw line) lines).after 1

theorem endingOf_cons (braces : Braces) (inRaw : Bool) (line : Text) (rest : List Text) :
    ((readBraces braces (codeChars inRaw line)).2 = true ∧
        endingOf braces inRaw (line :: rest) = .closed 0) ∨
      ((readBraces braces (codeChars inRaw line)).1.opened = false ∧
        endingOf braces inRaw (line :: rest) = .bodiless) ∨
      exists next,
        readBraces braces (codeChars inRaw line) = (next, false) ∧
          (next.opened = true ∨ rawAfter inRaw line = true) ∧
          endingOf braces inRaw (line :: rest) =
            (endingOf next (rawAfter inRaw line) rest).after 1 := by
  rw [endingOf]
  rcases readBraces braces (codeChars inRaw line) with ⟨next, closed⟩
  cases closed with
  | true =>
      exact Or.inl ⟨rfl, rfl⟩
  | false =>
      cases hopened : next.opened with
      | true =>
          exact Or.inr (Or.inr ⟨next, rfl, Or.inl hopened, by simp [hopened]⟩)
      | false =>
          cases hraw : rawAfter inRaw line with
          | true =>
              exact Or.inr (Or.inr ⟨next, rfl, Or.inr rfl, by simp⟩)
          | false =>
              exact Or.inr (Or.inl ⟨rfl, by simp [hopened]⟩)

theorem linesToClose_of_passed
    (braces : Braces) (inRaw : Bool) (passed : Nat) (lines : List Text) :
    linesToClose braces inRaw passed lines =
      match endingOf braces inRaw lines with
      | .unfinished _ _ => passed + lines.length - 1
      | .closed offset => passed + offset
      | .bodiless => 0 := by
  induction lines generalizing braces inRaw passed with
  | nil =>
      rfl
  | cons line rest ih =>
      rw [linesToClose, endingOf]
      rcases readBraces braces (codeChars inRaw line) with ⟨next, closed⟩
      dsimp only
      split
      · rfl
      · split
        · rfl
        · rw [ih]
          cases endingOf next (rawAfter inRaw line) rest with
          | unfinished braces' inRaw' =>
              show passed + 1 + rest.length - 1 = passed + (rest.length + 1) - 1
              omega
          | closed offset =>
              exact Nat.add_assoc passed 1 offset
          | bodiless =>
              rfl

theorem linesToClose_eq (lines : List Text) :
    linesToClose .none false 0 lines =
      (endingOf .none false lines).lastLine lines.length := by
  rw [linesToClose_of_passed]
  cases endingOf .none false lines with
  | unfinished braces inRaw =>
      rw [Nat.zero_add]
      rfl
  | closed offset =>
      exact Nat.zero_add offset
  | bodiless =>
      rfl

theorem endingOf_append
    (braces : Braces) (inRaw : Bool) (lines more : List Text) :
    endingOf braces inRaw (lines ++ more) =
      match endingOf braces inRaw lines with
      | .unfinished next inRaw' => (endingOf next inRaw' more).after lines.length
      | found => found := by
  induction lines generalizing braces inRaw with
  | nil =>
      rw [List.nil_append]
      show _ = (endingOf braces inRaw more).after 0
      cases endingOf braces inRaw more with
      | unfinished next inRaw' => rfl
      | closed offset => exact congrArg Ending.closed (Nat.zero_add offset).symm
      | bodiless => rfl
  | cons line rest ih =>
      rw [List.cons_append, endingOf, endingOf]
      rcases readBraces braces (codeChars inRaw line) with ⟨next, closed⟩
      dsimp only
      split
      · rfl
      · split
        · rfl
        · rw [ih]
          cases endingOf next (rawAfter inRaw line) rest with
          | unfinished braces' inRaw' =>
              rw [Ending.after_after, List.length_cons, Nat.add_comm]
              rfl
          | closed offset => rfl
          | bodiless => rfl

theorem offset_lt_of_closed
    {braces : Braces} {inRaw : Bool} {lines : List Text} {offset : Nat}
    (hending : endingOf braces inRaw lines = .closed offset) :
    offset < lines.length := by
  induction lines generalizing braces inRaw offset with
  | nil =>
      cases hending
  | cons line rest ih =>
      rcases endingOf_cons braces inRaw line rest with
        ⟨_, hhere⟩ | ⟨_, hbodiless⟩ | ⟨next, _, _, hlater⟩
      · rw [hhere] at hending
        cases hending
        exact Nat.succ_pos rest.length
      · rw [hbodiless] at hending
        cases hending
      · rw [hlater] at hending
        rcases Ending.after_eq_closed_iff.mp hending with ⟨earlier, hrest, hoffset⟩
        rw [hoffset, Nat.add_comm]
        exact Nat.succ_lt_succ (ih hrest)

theorem reads_of_unfinished
    {braces next : Braces} {inRaw inRaw' : Bool} {lines : List Text}
    (hending : endingOf braces inRaw lines = .unfinished next inRaw') :
    readBraces braces (codeOfLines inRaw lines) = (next, false) ∧
      inRaw' = rawAfterLines inRaw lines ∧
      (lines ≠ [] -> next.opened = true ∨ inRaw' = true) := by
  induction lines generalizing braces inRaw with
  | nil =>
      cases hending
      exact ⟨rfl, rfl, fun hne => absurd rfl hne⟩
  | cons line rest ih =>
      rcases endingOf_cons braces inRaw line rest with
        ⟨_, hhere⟩ | ⟨_, hbodiless⟩ | ⟨mid, hline, hgoes, hlater⟩
      · rw [hhere] at hending
        cases hending
      · rw [hbodiless] at hending
        cases hending
      · rw [hlater, Ending.after_eq_unfinished_iff] at hending
        rcases ih hending with ⟨hreads, hraw, hopened⟩
        refine ⟨(readBraces_append_of_open _ hline).trans hreads, hraw, fun _ => ?_⟩
        cases rest with
        | nil =>
            cases hending
            exact hgoes
        | cons second more =>
            exact hopened (List.cons_ne_nil second more)

theorem readBraces_opened
    {braces : Braces} (code : List Char) (hopened : braces.opened = true) :
    (readBraces braces code).1.opened = true := by
  fun_induction readBraces braces code with
  | case1 braces => exact hopened
  | case2 braces code ih => exact ih rfl
  | case3 braces code hclosed => exact hopened
  | case4 braces code hopen _ ih => exact ih hopened
  | case5 braces c code hopen hclose ih => exact ih hopened

theorem unfinished_of_reads
    {braces next : Braces} {inRaw : Bool} {lines : List Text}
    (hopened : braces.opened = true)
    (hread : readBraces braces (codeOfLines inRaw lines) = (next, false)) :
    endingOf braces inRaw lines = .unfinished next (rawAfterLines inRaw lines) := by
  induction lines generalizing braces inRaw with
  | nil =>
      cases hread
      rfl
  | cons line rest ih =>
      have hmid := readBraces_opened (codeChars inRaw line) hopened
      have hwhole := readBraces_append braces (codeChars inRaw line)
        (codeOfLines (rawAfter inRaw line) rest)
      rw [endingOf]
      rcases hline : readBraces braces (codeChars inRaw line) with ⟨mid, closed⟩
      rw [hline] at hmid hwhole
      cases closed with
      | true =>
          cases hread.symm.trans hwhole
      | false =>
          have hrest := ih hmid (hwhole.symm.trans hread)
          dsimp only at hmid ⊢
          rw [hmid, hrest]
          rfl

/-!
# Lines that come in between
-/

/-- Lines whose braces balance move the ends that come after them, and no others. -/
theorem endingOf_insert
    {front inserted : List Text} (back : List Text) (hfront : front ≠ [])
    (hraw : rawAfterLines false front = false)
    (hbalance : BracesBalance (codeOfLines false inserted))
    (hrawInserted : rawAfterLines false inserted = false) :
    endingOf .none false (front ++ (inserted ++ back)) =
      (endingOf .none false (front ++ back)).moved front.length inserted.length := by
  rw [endingOf_append, endingOf_append]
  cases hending : endingOf .none false front with
  | closed offset =>
      exact congrArg Ending.closed (movedLine_of_lt _ (offset_lt_of_closed hending)).symm
  | bodiless =>
      rfl
  | unfinished next inRaw =>
      rcases reads_of_unfinished hending with ⟨hread, hinRaw, hgoes⟩
      rw [hraw] at hinRaw
      cases hinRaw
      have hopened : next.opened = true := by
        simpa using hgoes hfront
      rcases exists_depth_of_opened hread hopened with ⟨depth, hnext⟩
      have hinserted : endingOf next false inserted = .unfinished next false := by
        have hread : readBraces next (codeOfLines false inserted) = (next, false) := by
          rw [hnext]
          exact readBraces_of_balance depth hbalance
        rw [unfinished_of_reads hopened hread, hrawInserted]
      dsimp only
      rw [endingOf_append, hinserted]
      dsimp only
      rw [Ending.after_after]
      cases endingOf next false back with
      | unfinished braces inRaw =>
          rfl
      | closed offset =>
          have hmoved : movedLine front.length inserted.length (front.length + offset) =
              front.length + inserted.length + offset := by
            rw [movedLine_of_le _ (Nat.le_add_right _ _), Nat.add_right_comm]
          exact congrArg Ending.closed hmoved.symm
      | bodiless =>
          rfl

theorem linesToClose_insert
    {front inserted : List Text} (back : List Text) (hfront : front ≠ [])
    (hraw : rawAfterLines false front = false)
    (hbalance : BracesBalance (codeOfLines false inserted))
    (hrawInserted : rawAfterLines false inserted = false)
    (hfound : (endingOf .none false (front ++ back)).isFound = true) :
    linesToClose .none false 0 (front ++ (inserted ++ back)) =
      movedLine front.length inserted.length
        (linesToClose .none false 0 (front ++ back)) := by
  rw [linesToClose_eq, linesToClose_eq,
    endingOf_insert back hfront hraw hbalance hrawInserted]
  cases hending : endingOf .none false (front ++ back) with
  | unfinished braces inRaw =>
      rw [hending] at hfound
      cases hfound
  | closed offset =>
      rfl
  | bodiless =>
      exact (movedLine_of_lt _ (List.length_pos_of_ne_nil hfront)).symm

theorem linesToClose_lt_length {lines : List Text} (hlines : lines ≠ []) :
    linesToClose .none false 0 lines < lines.length := by
  have hpos := List.length_pos_of_ne_nil hlines
  rw [linesToClose_eq]
  cases hending : endingOf .none false lines with
  | unfinished braces inRaw =>
      exact Nat.sub_lt hpos Nat.one_pos
  | closed offset =>
      exact offset_lt_of_closed hending
  | bodiless =>
      exact hpos

theorem stop_lt_length_of_mem_typeDeclarations
    {source : Text} {symbol : Symbol} (hmem : symbol ∈ typeDeclarations source) :
    symbol.range.stop.line < (Text.lines source).length := by
  rcases eq_of_mem_declarationsFrom hmem with ⟨offset, line, hline, _, hrange⟩
  have hoffset := (List.getElem?_eq_some_iff.mp hline).1
  have hrest : (Text.lines source).drop offset ≠ [] := by
    intro hnil
    exact Nat.not_lt.mpr (List.drop_eq_nil_iff.mp hnil) hoffset
  have hlast := linesToClose_lt_length hrest
  rw [List.length_drop] at hlast
  rw [hrange]
  show 0 + offset + linesToClose .none false 0 ((Text.lines source).drop offset) < _
  omega

end Go
end StubAssist

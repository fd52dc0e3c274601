import StubAssist.Proofs.Go.Bodies
import StubAssist.Proofs.Go.Insertions

/-!
# Matching braces

A declaration ends where the first brace of its code is closed, or on its first line if
some line leaves it outside raw strings before that brace comes.  Both are said here of
the code characters alone, each with the number of its line, and the reading that looks
for the end is shown to find exactly that.  At every line it comes to, its raw string
flag is that of the scan for declarations.
-/

namespace StubAssist
namespace Go

/-!
# Numbered code
-/

def numberedCode (inRaw : Bool) (number : Nat) : List Text -> List (Nat × Char)
  | [] => []
  | line :: lines =>
      (codeChars inRaw line).map (Prod.mk number) ++
        numberedCode (rawAfter inRaw line) (number + 1) lines

theorem le_of_mem_numberedCode
    {inRaw : Bool} {number : Nat} {lines : List Text} {place : Nat × Char}
    (hmem : place ∈ numberedCode inRaw number lines) :
    number ≤ place.1 := by
  induction lines generalizing inRaw number with
  | nil =>
      cases hmem
  | cons line rest ih =>
      rcases List.mem_append.mp hmem with hhere | hlater
      · rcases List.mem_map.mp hhere with ⟨c, _, hplace⟩
        rw [← hplace]
      · exact Nat.le_of_succ_le (ih hlater)

/-!
# The brace that closes another
-/

/-- The line of the brace that closes the first of `depth + 1` open ones. -/
def closingPlace? (depth : Nat) : List (Nat × Char) -> Option Nat
  | [] => none
  | (number, c) :: code =>
      if c = '{' then closingPlace? (depth + 1) code
      else if c = '}' then
        match depth with
        | 0 => some number
        | depth + 1 => closingPlace? depth code
      else closingPlace? depth code

theorem closingPlace?_open (depth number : Nat) (code : List (Nat × Char)) :
    closingPlace? depth ((number, '{') :: code) = closingPlace? (depth + 1) code := rfl

theorem closingPlace?_close (depth number : Nat) (code : List (Nat × Char)) :
    closingPlace? (depth + 1) ((number, '}') :: code) = closingPlace? depth code := rfl

theorem closingPlace?_closed (number : Nat) (code : List (Nat × Char)) :
    closingPlace? 0 ((number, '}') :: code) = some number := rfl

theorem closingPlace?_other
    {c : Char} (depth number : Nat) (code : List (Nat × Char)) (hopen : c ≠ '{')
    (hclose : c ≠ '}') :
    closingPlace? depth ((number, c) :: code) = closingPlace? depth code := by
  simp only [closingPlace?, hopen, hclose, if_false]

theorem closingPlace?_of_staysWithin
    {depth place : Nat} {inside : List (Nat × Char)} (tail : List (Nat × Char))
    (hwithin : StaysWithin depth (inside.map Prod.snd))
    (hcount : depth + (inside.map Prod.snd).count '{' = (inside.map Prod.snd).count '}') :
    closingPlace? depth (inside ++ (place, '}') :: tail) = some place := by
  induction inside generalizing depth with
  | nil =>
      have hdepth : depth = 0 := by
        simpa using hcount
      rw [hdepth]
      exact closingPlace?_closed place tail
  | cons first inside ih =>
      rcases first with ⟨number, c⟩
      rw [List.map_cons] at hwithin hcount
      by_cases hopen : c = '{'
      · rw [hopen] at hwithin hcount ⊢
        rw [List.cons_append, closingPlace?_open]
        apply ih (staysWithin_open.mp hwithin)
        simp at hcount
        omega
      · by_cases hclose : c = '}'
        · rw [hclose] at hwithin hcount ⊢
          cases depth with
          | zero =>
              exact absurd hwithin (not_staysWithin_close _)
          | succ depth =>
              rw [List.cons_append, closingPlace?_close]
              apply ih (staysWithin_close.mp hwithin)
              simp at hcount
              omega
        · rw [List.cons_append, closingPlace?_other depth number _ hopen hclose]
          apply ih ((staysWithin_other hopen hclose).mp hwithin)
          rw [List.count_cons_of_ne hopen, List.count_cons_of_ne hclose] at hcount
          exact hcount

theorem exists_inside_of_closingPlace?
    {depth place : Nat} {code : List (Nat × Char)}
    (hplace : closingPlace? depth code = some place) :
    exists inside tail,
      code = inside ++ (place, '}') :: tail ∧
        StaysWithin depth (inside.map Prod.snd) ∧
        depth + (inside.map Prod.snd).count '{' = (inside.map Prod.snd).count '}' := by
  induction code generalizing depth with
  | nil =>
      cases hplace
  | cons first code ih =>
      rcases first with ⟨number, c⟩
      by_cases hopen : c = '{'
      · rw [hopen, closingPlace?_open] at hplace
        rcases ih hplace with ⟨inside, tail, hcode, hwithin, hcount⟩
        refine ⟨(number, '{') :: inside, tail, by rw [hopen, hcode]; rfl,
          staysWithin_open.mpr hwithin, ?_⟩
        simp
        omega
      · by_cases hclose : c = '}'
        · rw [hclose] at hplace ⊢
          cases depth with
          | zero =>
              cases hplace
              exact ⟨[], code, rfl, staysWithin_nil 0, rfl⟩
          | succ depth =>
              rw [closingPlace?_close] at hplace
              rcases ih hplace with ⟨inside, tail, hcode, hwithin, hcount⟩
              refine ⟨(number, '}') :: inside, tail, by rw [hcode]; rfl,
                staysWithin_close.mpr hwithin, ?_⟩
              simp
              omega
        · rw [closingPlace?_other depth number code hopen hclose] at hplace
          rcases ih hplace with ⟨inside, tail, hcode, hwithin, hcount⟩
          refine ⟨(number, c) :: inside, tail, by rw [hcode]; rfl,
            (staysWithin_other hopen hclose).mpr hwithin, ?_⟩
          rw [List.map_cons, List.count_cons_of_ne hopen, List.count_cons_of_ne hclose]
          exact hcount

theorem closingPlace?_zero_iff {code : List (Nat × Char)} {place : Nat} :
    closingPlace? 0 code = some place ↔
      exists inside tail,
        code = inside ++ (place, '}') :: tail ∧ BracesBalance (inside.map Prod.snd) := by
  constructor
  · intro hplace
    rcases exists_inside_of_closingPlace? hplace with ⟨inside, tail, hcode, hwithin, hcount⟩
    exact ⟨inside, tail, hcode, by omega, hwithin⟩
  · rintro ⟨inside, tail, hcode, hbalance⟩
    rw [hcode]
    exact closingPlace?_of_staysWithin tail hbalance.within
      (by rw [Nat.zero_add, hbalance.even])

/-!
# Reading lines inside a declaration
-/

def Ending.closing? (number : Nat) : Ending -> Option Nat
  | .closed offset => some (number + offset)
  | _ => none

theorem Ending.closing?_after_one (number : Nat) (ending : Ending) :
    (ending.after 1).closing? number = ending.closing? (number + 1) := by
  cases ending with
  | unfinished braces inRaw => rfl
  | closed offset => exact congrArg some (Nat.add_assoc number 1 offset).symm
  | bodiless => rfl

theorem Ending.closing?_eq_some_iff {number place : Nat} {ending : Ending} :
    ending.closing? number = some place ↔
      exists offset, ending = .closed offset ∧ place = number + offset := by
  cases ending with
  | unfinished braces inRaw => simp [closing?]
  | closed offset => simp [closing?, eq_comm]
  | bodiless => simp [closing?]

theorem closingPlace?_line
    (depth number : Nat) (code : List Char) (more : List (Nat × Char)) :
    closingPlace? depth (code.map (Prod.mk number) ++ more) =
      if (readBraces ⟨depth + 1, true⟩ code).2 then some number
      else closingPlace? ((readBraces ⟨depth + 1, true⟩ code).1.depth - 1) more := by
  induction code generalizing depth with
  | nil =>
      rfl
  | cons c code ih =>
      rw [List.map_cons, List.cons_append]
      by_cases hopen : c = '{'
      · rw [hopen, closingPlace?_open, ih]
        rfl
      · by_cases hclose : c = '}'
        · rw [hclose]
          cases depth with
          | zero =>
              rfl
          | succ depth =>
              rw [closingPlace?_close, ih, readBraces_close]
        · rw [closingPlace?_other depth number _ hopen hclose, ih,
            readBraces_other _ code hopen hclose]

theorem closing?_endingOf_cons
    {braces : Braces} {inRaw : Bool} {line : Text} {rest : List Text} {depth : Nat}
    {inside : List Char} (number : Nat)
    (hread : readBraces braces (codeChars inRaw line) = readBraces ⟨depth + 1, true⟩ inside)
    (hrest : forall depth,
      (endingOf ⟨depth + 1, true⟩ (rawAfter inRaw line) rest).closing? (number + 1) =
        closingPlace? depth (numberedCode (rawAfter inRaw line) (number + 1) rest)) :
    (endingOf braces inRaw (line :: rest)).closing? number =
      closingPlace? depth (inside.map (Prod.mk number) ++
        numberedCode (rawAfter inRaw line) (number + 1) rest) := by
  have hopened : (readBraces ⟨depth + 1, true⟩ inside).1.opened = true :=
    readBraces_opened inside rfl
  rw [closingPlace?_line, ← hread]
  rw [← hread] at hopened
  rcases endingOf_cons braces inRaw line rest with
    ⟨hclosed, hhere⟩ | ⟨hnone, _⟩ | ⟨next, hline, _, hlater⟩
  · rw [hhere, if_pos hclosed]
    rfl
  · rw [hopened] at hnone
    cases hnone
  · -- the line closes nothing, so some brace is still open behind it
    rw [hread] at hline
    have hdepth := readBraces_of_staysWithin (staysWithin_of_readBraces hline)
    rw [hline] at hdepth
    injection hdepth with hnext
    rw [hlater, Ending.closing?_after_one, hread, hline, hnext, hrest]
    rfl

theorem closing?_endingOf_open
    (depth : Nat) (inRaw : Bool) (number : Nat) (lines : List Text) :
    (endingOf ⟨depth + 1, true⟩ inRaw lines).closing? number =
      closingPlace? depth (numberedCode inRaw number lines) := by
  induction lines generalizing depth inRaw number with
  | nil =>
      rfl
  | cons line rest ih =>
      exact closing?_endingOf_cons number rfl fun depth => ih depth _ (number + 1)

/-!
# The first brace
-/

/-- Some line ends outside raw strings before any brace opens. -/
def IsBodiless (inRaw : Bool) (lines : List Text) : Prop :=
  exists offset,
    offset < lines.length ∧
      rawAfterLines inRaw (lines.take (offset + 1)) = false ∧
      '{' ∉ codeOfLines inRaw (lines.take (offset + 1))

/--
The first brace in the code of the lines is closed on line `place`.  It is on the first
line, which has this number, or all lines before its own end inside raw strings.
-/
def ClosesAt (inRaw : Bool) (number : Nat) (lines : List Text) (place : Nat) : Prop :=
  exists opening inside tail,
    (numberedCode inRaw number lines).dropWhile (fun code => code.2 != '{') =
        (opening, '{') :: (inside ++ (place, '}') :: tail) ∧
      BracesBalance (inside.map Prod.snd) ∧
      forall line, number ≤ line -> line < opening ->
        rawAfterLines inRaw (lines.take (line + 1 - number)) = true

theorem closesAt_iff
    {inRaw : Bool} {number place : Nat} {lines : List Text} :
    ClosesAt inRaw number lines place ↔
      exists opening code,
        (numberedCode inRaw number lines).dropWhile (fun code => code.2 != '{') =
            (opening, '{') :: code ∧
          closingPlace? 0 code = some place ∧
          forall line, number ≤ line -> line < opening ->
            rawAfterLines inRaw (lines.take (line + 1 - number)) = true := by
  constructor
  · rintro ⟨opening, inside, tail, hcode, hbalance, hraw⟩
    exact ⟨opening, _, hcode, closingPlace?_zero_iff.mpr ⟨inside, tail, rfl, hbalance⟩, hraw⟩
  · rintro ⟨opening, code, hcode, hplace, hraw⟩
    rcases closingPlace?_zero_iff.mp hplace with ⟨inside, tail, hsplit, hbalance⟩
    exact ⟨opening, inside, tail, by rw [hcode, hsplit], hbalance, hraw⟩

theorem dropWhile_numbered
    {code : List Char} (number : Nat) (more : List (Nat × Char)) (hnone : '{' ∉ code) :
    (code.map (Prod.mk number) ++ more).dropWhile (fun code => code.2 != '{') =
      more.dropWhile (fun code => code.2 != '{') := by
  apply List.dropWhile_append_of_pos
  intro numbered hmem
  rcases List.mem_map.mp hmem with ⟨c, hc, hnumbered⟩
  rw [← hnumbered]
  have hne : c ≠ '{' := by
    intro hopen
    exact hnone (hopen ▸ hc)
  simpa using hne

theorem closesAt_cons_of_mem
    {inRaw : Bool} {number place : Nat} {line : Text} {rest : List Text}
    {head inside : List Char} (hcode : codeChars inRaw line = head ++ '{' :: inside)
    (hfirst : '{' ∉ head) :
    ClosesAt inRaw number (line :: rest) place ↔
      closingPlace? 0 (inside.map (Prod.mk number) ++
        numberedCode (rawAfter inRaw line) (number + 1) rest) = some place := by
  have hdrop : (numberedCode inRaw number (line :: rest)).dropWhile
        (fun code => code.2 != '{') =
      (number, '{') :: (inside.map (Prod.mk number) ++
        numberedCode (rawAfter inRaw line) (number + 1) rest) := by
    rw [numberedCode, hcode, List.map_append, List.append_assoc,
      dropWhile_numbered number _ hfirst]
    rfl
  rw [closesAt_iff, hdrop]
  constructor
  · rintro ⟨opening, code, hcons, hplace, _⟩
    rw [(List.cons.inj hcons).right]
    exact hplace
  · intro hplace
    exact ⟨number, _, rfl, hplace, fun line hle hlt => absurd hlt (Nat.not_lt.mpr hle)⟩

theorem closesAt_cons_of_not_mem
    {inRaw : Bool} {number place : Nat} {line : Text} {rest : List Text}
    (hnone : '{' ∉ codeChars inRaw line) :
    ClosesAt inRaw number (line :: rest) place ↔
      rawAfter inRaw line = true ∧
        ClosesAt (rawAfter inRaw line) (number + 1) rest place := by
  have hdrop := dropWhile_numbered number
    (numberedCode (rawAfter inRaw line) (number + 1) rest) hnone
  have htake : forall earlier, number + 1 ≤ earlier ->
      (line :: rest).take (earlier + 1 - number) =
        line :: rest.take (earlier + 1 - (number + 1)) := by
    intro earlier hle
    rw [show earlier + 1 - number = earlier + 1 - (number + 1) + 1 by omega]
    rfl
  rw [closesAt_iff, closesAt_iff, numberedCode, hdrop]
  constructor
  · rintro ⟨opening, code, hcode, hplace, hraw⟩
    have hmem : (opening, '{') ∈ numberedCode (rawAfter inRaw line) (number + 1) rest :=
      (List.dropWhile_suffix _).subset (hcode ▸ List.mem_cons_self)
    have hopening : number + 1 ≤ opening := le_of_mem_numberedCode hmem
    refine ⟨?_, opening, code, hcode, hplace, ?_⟩
    · have hhere := hraw number (Nat.le_refl number) hopening
      rw [Nat.add_sub_cancel_left] at hhere
      exact hhere
    · intro earlier hle hlt
      have hlater := hraw earlier (Nat.le_of_succ_le hle) hlt
      rw [htake earlier hle] at hlater
      exact hlater
  · rintro ⟨hopen, opening, code, hcode, hplace, hraw⟩
    refine ⟨opening, code, hcode, hplace, ?_⟩
    intro earlier hle hlt
    rcases Nat.eq_or_lt_of_le hle with heq | hlater
    · rw [← heq, Nat.add_sub_cancel_left]
      exact hopen
    · rw [htake earlier hlater]
      exact hraw earlier hlater hlt

theorem endingOf_cons_of_not_mem
    {inRaw : Bool} {line : Text} (rest : List Text) (hnone : '{' ∉ codeChars inRaw line) :
    endingOf .none inRaw (line :: rest) =
      if rawAfter inRaw line then (endingOf .none (rawAfter inRaw line) rest).after 1
      else .bodiless := by
  rcases readBraces_none (codeChars inRaw line) with
    ⟨_, hread⟩ | ⟨head, inside, hcode, _, _⟩
  · rw [endingOf, hread]
    cases rawAfter inRaw line with
    | true => rfl
    | false => rfl
  · rw [hcode] at hnone
    simp at hnone

/-- The reading finds the line of the brace that closes the first one, if it can be met. -/
theorem closing?_endingOf_iff
    {inRaw : Bool} {number place : Nat} {lines : List Text} :
    (endingOf .none inRaw lines).closing? number = some place ↔
      ClosesAt inRaw number lines place := by
  -- lines that open no brace are passed one by one; from the first brace on the depth counts
  induction lines generalizing inRaw number with
  | nil =>
      constructor
      · intro hclosing
        cases hclosing
      · rintro ⟨opening, inside, tail, hcode, _, _⟩
        cases hcode
  | cons line rest ih =>
      rcases readBraces_none (codeChars inRaw line) with
        ⟨hnone, _⟩ | ⟨head, inside, hcode, hfirst, hread⟩
      · rw [closesAt_cons_of_not_mem hnone, endingOf_cons_of_not_mem rest hnone]
        cases hraw : rawAfter inRaw line with
        | true =>
            simp only [if_true, Ending.closing?_after_one, ih, true_and]
        | false =>
            simp [Ending.closing?]
      · rw [closesAt_cons_of_mem hcode hfirst,
          closing?_endingOf_cons number hread fun depth =>
            closing?_endingOf_open depth _ (number + 1) rest]

theorem isBodiless_cons_of_not_mem
    {inRaw : Bool} {line : Text} {rest : List Text} (hnone : '{' ∉ codeChars inRaw line) :
    IsBodiless inRaw (line :: rest) ↔
      rawAfter inRaw line = false ∨ IsBodiless (rawAfter inRaw line) rest := by
  constructor
  · rintro ⟨offset, hoffset, hraw, hcode⟩
    cases offset with
    | zero =>
        exact Or.inl hraw
    | succ offset =>
        refine Or.inr ⟨offset, Nat.lt_of_succ_lt_succ hoffset, hraw, ?_⟩
        intro hmem
        exact hcode (List.mem_append_right _ hmem)
  · rintro (hraw | ⟨offset, hoffset, hraw, hcode⟩)
    · refine ⟨0, Nat.succ_pos _, hraw, ?_⟩
      show '{' ∉ codeChars inRaw line ++ []
      rw [List.append_nil]
      exact hnone
    · refine ⟨offset + 1, Nat.succ_lt_succ hoffset, hraw, ?_⟩
      intro hmem
      rcases List.mem_append.mp hmem with hhere | hlater
      · exact hnone hhere
      · exact hcode hlater

theorem endingOf_eq_bodiless_iff {inRaw : Bool} {lines : List Text} :
    endingOf .none inRaw lines = .bodiless ↔ IsBodiless inRaw lines := by
  induction lines generalizing inRaw with
  | nil =>
      constructor
      · intro hending
        cases hending
      · rintro ⟨offset, hoffset, _, _⟩
        cases hoffset
  | cons line rest ih =>
      rcases readBraces_none (codeChars inRaw line) with
        ⟨hnone, _⟩ | ⟨head, inside, hcode, _, _⟩
      · rw [isBodiless_cons_of_not_mem hnone, endingOf_cons_of_not_mem rest hnone]
        cases hraw : rawAfter inRaw line with
        | true =>
            simp only [if_true, Ending.after_eq_bodiless_iff, ih, Bool.true_eq_false,
              false_or]
        | false =>
            simp
      · have hopens : '{' ∈ codeChars inRaw line := by
          rw [hcode]
          exact List.mem_append_right head List.mem_cons_self
        constructor
        · intro hending
          exact absurd hopens (not_mem_of_bodiless hending)
        · rintro ⟨offset, _, _, hnone⟩
          exact absurd (List.mem_append_left _ hopens) hnone

/-!
# The lines that are read
-/

/-- The reading passes `count` lines and goes on with these braces and this flag. -/
inductive ReadsOn : Braces -> Bool -> List Text -> Nat -> Braces -> Bool -> Prop
  | here (braces : Braces) (inRaw : Bool) (lines : List Text) :
      ReadsOn braces inRaw lines 0 braces inRaw
  | line {braces next later : Braces} {inRaw inRaw' : Bool} {line : Text}
      {rest : List Text} {count : Nat}
      (hline : readBraces braces (codeChars inRaw line) = (next, false))
      (hgoes : next.opened = true ∨ rawAfter inRaw line = true)
      (hrest : ReadsOn next (rawAfter inRaw line) rest count later inRaw') :
      ReadsOn braces inRaw (line :: rest) (count + 1) later inRaw'

theorem linesToClose_of_readsOn
    {braces later : Braces} {inRaw inRaw' : Bool} {lines : List Text} {count : Nat}
    (passed : Nat) (hreads : ReadsOn braces inRaw lines count later inRaw') :
    linesToClose braces inRaw passed lines =
      linesToClose later inRaw' (passed + count) (lines.drop count) := by
  induction hreads generalizing passed with
  | here braces inRaw lines =>
      rfl
  | @line braces next later inRaw inRaw' line rest count hline hgoes hrest ih =>
      have hstep : linesToClose braces inRaw passed (line :: rest) =
          linesToClose next (rawAfter inRaw line) (passed + 1) rest := by
        rw [linesToClose, hline]
        rcases hgoes with hopened | hraw
        · simp [hopened]
        · simp [hraw]
      rw [hstep, ih, Nat.add_assoc, Nat.add_comm 1 count]
      rfl

theorem inRaw_of_readsOn
    {braces later : Braces} {inRaw inRaw' : Bool} {lines : List Text} {count : Nat}
    (hreads : ReadsOn braces inRaw lines count later inRaw') :
    inRaw' = rawAfterLines inRaw (lines.take count) := by
  induction hreads with
  | here braces inRaw lines =>
      rfl
  | line hline hgoes hrest ih =>
      exact ih

theorem stateAt_inRaw (source : Text) (index : Nat) :
    (stateAt source index).inRaw = rawBefore source index :=
  stateAfter_inRaw .initial _

theorem rawBefore_add
    {source : Text} {index : Nat} (count : Nat) (hraw : rawBefore source index = false) :
    rawBefore source (index + count) =
      rawAfterLines false (((Text.lines source).drop index).take count) := by
  unfold rawBefore at hraw
  rw [rawBefore, List.take_add, rawAfterLines_append, hraw]

/-!
# Ends of declarations
-/

def linesFrom (source : Text) (symbol : Symbol) : List Text :=
  (Text.lines source).drop symbol.range.start.line

/-- Where a declaration ends, by the code characters from its first line on. -/
structure EndsAtMatch (source : Text) (symbol : Symbol) : Prop where
  bodiless :
    IsBodiless false (linesFrom source symbol) ->
      symbol.range.stop.line = symbol.range.start.line
  closed :
    ¬ IsBodiless false (linesFrom source symbol) ->
      forall place,
        ClosesAt false symbol.range.start.line (linesFrom source symbol) place ->
          symbol.range.stop.line = place
  unclosed :
    ¬ IsBodiless false (linesFrom source symbol) ->
      (forall place,
        ¬ ClosesAt false symbol.range.start.line (linesFrom source symbol) place) ->
          symbol.range.stop.line + 1 = (Text.lines source).length
  reads :
    forall count braces inRaw,
      ReadsOn .none false (linesFrom source symbol) count braces inRaw ->
        linesToClose .none false 0 (linesFrom source symbol) =
            linesToClose braces inRaw count ((linesFrom source symbol).drop count) ∧
          inRaw = (stateAt source (symbol.range.start.line + count)).inRaw

theorem endsAtMatch_of_mem
    {source : Text} {symbol : Symbol} (hmem : symbol ∈ typeDeclarations source) :
    EndsAtMatch source symbol := by
  rcases ends_of_mem hmem with ⟨line, rest, hdrop, hraw, hstop⟩
  have hlines : linesFrom source symbol = line :: rest := hdrop
  rw [← hlines] at hstop
  constructor
  · intro hbodiless
    rw [← endingOf_eq_bodiless_iff] at hbodiless
    rw [hstop, hbodiless]
    rfl
  · intro _ place hplace
    rcases Ending.closing?_eq_some_iff.mp (closing?_endingOf_iff.mpr hplace) with
      ⟨offset, hending, hoffset⟩
    rw [hstop, hending, hoffset]
    rfl
  · intro hbody hnone
    cases hending : endingOf .none false (linesFrom source symbol) with
    | unfinished braces inRaw =>
        -- the reading went through all lines, and `line` is one of them
        have hlength := congrArg List.length hlines
        unfold linesFrom at hlength
        rw [List.length_drop, List.length_cons] at hlength
        rw [hending, hlines] at hstop
        change _ = _ + (rest.length + 1 - 1) at hstop
        omega
    | closed offset =>
        have hclosing : (endingOf .none false (linesFrom source symbol)).closing?
            symbol.range.start.line = some (symbol.range.start.line + offset) := by
          rw [hending]
          rfl
        exact absurd (closing?_endingOf_iff.mp hclosing) (hnone _)
    | bodiless =>
        exact absurd (endingOf_eq_bodiless_iff.mp hending) hbody
  · intro count braces inRaw hreads
    constructor
    · have hreturns := linesToClose_of_readsOn 0 hreads
      rw [Nat.zero_add] at hreturns
      exact hreturns
    · rw [stateAt_inRaw, rawBefore_add count hraw]
      exact inRaw_of_readsOn hreads

/-- A body that a raw string hides the first line of, with a brace behind its end. -/
def hidden : Text :=
  "package p\n\ntype Note struct \x60raw \x7b\n\x60 \x7b\n\tnext struct\x7b\x7d\n".toList ++
    "\x7d; type Tail struct\x7b\x7d \x7b\n".toList

theorem endsAtMatch_hidden :
    ⟨"Note", .struct, .ofLines 2 5, some "p".toList⟩ ∈ typeDeclarations hidden ∧
      EndsAtMatch hidden ⟨"Note", .struct, .ofLines 2 5, some "p".toList⟩ := by
  have hdeclared : ⟨"Note", .struct, .ofLines 2 5, some "p".toList⟩ ∈
      typeDeclarations hidden := by decide
  exact ⟨hdeclared, endsAtMatch_of_mem hdeclared⟩

end Go
end StubAssist

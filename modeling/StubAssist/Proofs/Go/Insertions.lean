import StubAssist.Document
import StubAssist.Proofs.Go.Endings

/-!
# Insertions between declarations

A text is neutral at a line if the scan that reaches this line declares nothing in it
and leaves it as it came, and its braces balance.  Such a text only moves what is
declared in the source: each line number from the insertion on grows by the number of
lines inserted.  The proof follows the scan up to the insertion; the ends that it looks
ahead for are those of `linesToClose_insert`.
-/

namespace StubAssist
namespace Go

/-!
# Lines that read alike
-/

def declarationsOf (lines : List Text) : List Symbol :=
  declarationsFrom (lines.findSome? packageOfLine) .initial 0 lines

theorem readBraces_append_return (braces : Braces) (inRaw : Bool) (line : Text) :
    readBraces braces (codeChars inRaw (line ++ ['\r'])) =
      readBraces braces (codeChars inRaw line) := by
  rcases codeChars_append_return inRaw line with hcode | hcode
  · rw [hcode]
  · rw [hcode, readBraces_append]
    split
    · rfl
    · rename_i hopen
      cases hread : readBraces braces (codeChars inRaw line) with
      | mk next closed =>
          rw [hread] at hopen
          cases closed with
          | true => exact absurd rfl hopen
          | false => rfl

theorem endingOf_of_alike
    {lines others : List Text} (braces : Braces) (inRaw : Bool)
    (halike : List.Forall₂ Text.Alike lines others) :
    endingOf braces inRaw lines = endingOf braces inRaw others := by
  induction halike generalizing braces inRaw with
  | nil =>
      rfl
  | @cons line other rest others hline hrest ih =>
      rw [endingOf, endingOf]
      cases hline with
      | same =>
          simp only [ih]
      | returned =>
          simp only [readBraces_append_return, rawAfter_append_return, ih]

theorem linesToClose_of_alike
    {lines others : List Text} (halike : List.Forall₂ Text.Alike lines others) :
    linesToClose .none false 0 lines = linesToClose .none false 0 others := by
  rw [linesToClose_eq, linesToClose_eq, endingOf_of_alike .none false halike,
    halike.length_eq]

theorem declarationsFrom_of_alike
    {lines others : List Text} (package : Option Text) (state : ScanState) (index : Nat)
    (halike : List.Forall₂ Text.Alike lines others) :
    declarationsFrom package state index lines =
      declarationsFrom package state index others := by
  induction halike generalizing state index with
  | nil =>
      rfl
  | @cons line other rest others hline hrest ih =>
      rw [declarationsFrom_cons, declarationsFrom_cons,
        linesToClose_of_alike (List.Forall₂.cons hline hrest)]
      cases hline with
      | same =>
          rw [ih]
      | returned =>
          rw [scanDeclaration_append_return, ih]

theorem findSome?_packageOfLine_of_alike
    {lines others : List Text} (halike : List.Forall₂ Text.Alike lines others) :
    lines.findSome? packageOfLine = others.findSome? packageOfLine := by
  induction halike with
  | nil =>
      rfl
  | cons hline hrest ih =>
      cases hline with
      | same =>
          rw [List.findSome?_cons, List.findSome?_cons, ih]
      | returned =>
          rw [List.findSome?_cons, List.findSome?_cons, packageOfLine_append_return, ih]

theorem declarationsOf_of_alike
    {lines others : List Text} (halike : List.Forall₂ Text.Alike lines others) :
    declarationsOf lines = declarationsOf others := by
  unfold declarationsOf
  rw [findSome?_packageOfLine_of_alike halike]
  exact declarationsFrom_of_alike _ _ _ halike

theorem stateAfter_of_alike
    {lines others : List Text} (state : ScanState)
    (halike : List.Forall₂ Text.Alike lines others) :
    stateAfter state lines = stateAfter state others := by
  induction halike generalizing state with
  | nil =>
      rfl
  | @cons line other rest others hline hrest ih =>
      have hscan : scanDeclaration state line = scanDeclaration state other := by
        cases hline with
        | same => rfl
        | returned => exact scanDeclaration_append_return state other
      show stateAfter (scanDeclaration state line).2 rest =
        stateAfter (scanDeclaration state other).2 others
      rw [hscan, ih]

/-!
# Neutral text
-/

def stateAt (source : Text) (index : Nat) : ScanState :=
  stateAfter .initial ((Text.lines source).take index)

/-- Whole lines that the scan passes in `state` as if they were not there. -/
structure IsNeutral (state : ScanState) (inserted : Text) : Prop where
  whole : Text.isWhole inserted = true
  silent : declarationsFrom none state 0 (Text.lines inserted) = []
  steady : stateAfter state (Text.lines inserted) = state
  balanced : BracesBalance (codeOfLines false (Text.lines inserted))
  noPackage : packageName inserted = none

/-- No declaration of the source runs to its end without an end of its own. -/
def AllEnd (source : Text) : Prop :=
  forall symbol, symbol ∈ typeDeclarations source ->
    (endingOf .none false
      ((Text.lines source).drop symbol.range.start.line)).isFound = true

instance (state : ScanState) (inserted : Text) : Decidable (IsNeutral state inserted) :=
  decidable_of_iff
    (Text.isWhole inserted = true ∧
      declarationsFrom none state 0 (Text.lines inserted) = [] ∧
      stateAfter state (Text.lines inserted) = state ∧
      BracesBalance (codeOfLines false (Text.lines inserted)) ∧
      packageName inserted = none)
    ⟨fun ⟨hwhole, hsilent, hsteady, hbalanced, hpackage⟩ =>
        ⟨hwhole, hsilent, hsteady, hbalanced, hpackage⟩,
      fun h => ⟨h.whole, h.silent, h.steady, h.balanced, h.noPackage⟩⟩

instance (source : Text) : Decidable (AllEnd source) :=
  inferInstanceAs (Decidable (forall symbol, symbol ∈ typeDeclarations source ->
    (endingOf .none false
      ((Text.lines source).drop symbol.range.start.line)).isFound = true))

end Go

namespace Symbol

def moved (place count : Nat) (symbol : Symbol) : Symbol :=
  { symbol with
    range :=
      ⟨{ symbol.range.start with
          line := Go.movedLine place count symbol.range.start.line },
        { symbol.range.stop with
          line := Go.movedLine place count symbol.range.stop.line }⟩ }

theorem moved_ofLines
    (place count first last : Nat) (name : Text) (kind : SymbolKind)
    (container : Option Text) :
    moved place count ⟨name, kind, .ofLines first last, container⟩ =
      ⟨name, kind, .ofLines (Go.movedLine place count first) (Go.movedLine place count last),
        container⟩ := rfl

end Symbol

namespace Go

theorem scanDeclaration_none_of_silent
    {package : Option Text} {state : ScanState} {index : Nat} {line : Text}
    {rest : List Text}
    (hsilent : declarationsFrom package state index (line :: rest) = []) :
    (scanDeclaration state line).1 = none ∧
      declarationsFrom package (scanDeclaration state line).2 (index + 1) rest = [] := by
  rw [declarationsFrom_cons, List.append_eq_nil_iff, Option.toList_eq_nil_iff,
    Option.map_eq_none_iff] at hsilent
  exact hsilent

theorem declarationsFrom_append_of_silent
    {package other : Option Text} {state : ScanState} {index start : Nat}
    {lines : List Text} (more : List Text)
    (hsilent : declarationsFrom other state start lines = []) :
    declarationsFrom package state index (lines ++ more) =
      declarationsFrom package (stateAfter state lines) (index + lines.length) more := by
  induction lines generalizing state index start with
  | nil =>
      rfl
  | cons line rest ih =>
      rcases scanDeclaration_none_of_silent hsilent with ⟨hhead, hrest⟩
      rw [List.cons_append, declarationsFrom_cons, hhead, ih hrest, List.length_cons,
        Nat.add_right_comm, ← Nat.add_assoc]
      rfl

theorem declarationsFrom_moved
    (package : Option Text) (state : ScanState) {place index : Nat} (count : Nat)
    (lines : List Text) (hplace : place ≤ index) :
    declarationsFrom package state (index + count) lines =
      (declarationsFrom package state index lines).map (Symbol.moved place count) := by
  induction lines generalizing state index with
  | nil =>
      rfl
  | cons line rest ih =>
      have hlast : index + count + linesToClose .none false 0 (line :: rest) =
          index + linesToClose .none false 0 (line :: rest) + count :=
        Nat.add_right_comm _ _ _
      rw [declarationsFrom_cons, declarationsFrom_cons, List.map_append,
        ← ih (scanDeclaration state line).2 (Nat.le_succ_of_le hplace),
        Nat.add_right_comm index count 1, hlast]
      cases (scanDeclaration state line).1 with
      | none =>
          rfl
      | some head =>
          simp only [Option.map_some, Option.toList_some, List.map_singleton,
            Symbol.moved_ofLines, movedLine_of_le count hplace,
            movedLine_of_le count (Nat.le_add_right_of_le hplace)]

/-!
# Declarations around an insertion
-/

theorem linesToClose_insert_of_steady
    {front inserted : List Text} (back : List Text) {state : ScanState}
    (hfront : front ≠ []) (hstart : state.inRaw = false)
    (hraw : (stateAfter state front).inRaw = false)
    (hsteady : stateAfter (stateAfter state front) inserted = stateAfter state front)
    (hbalance : BracesBalance (codeOfLines false inserted))
    (hfound : (endingOf .none false (front ++ back)).isFound = true) :
    linesToClose .none false 0 (front ++ (inserted ++ back)) =
      movedLine front.length inserted.length
        (linesToClose .none false 0 (front ++ back)) := by
  have hrawFront := stateAfter_inRaw state front
  have hrawInserted := stateAfter_inRaw (stateAfter state front) inserted
  rw [hraw, hstart] at hrawFront
  rw [hsteady, hraw] at hrawInserted
  exact linesToClose_insert back hfront hrawFront.symm hbalance hrawInserted.symm hfound

/--
The scan goes on behind silent lines as it would without them.  A declaration before
them may end behind them; it ends as many lines later, as their braces balance.
-/
theorem declarationsFrom_insert
    {front inserted back : List Text} {package : Option Text} {state : ScanState}
    {index : Nat}
    (hraw : (stateAfter state front).inRaw = false)
    (hsilent : declarationsFrom none (stateAfter state front) 0 inserted = [])
    (hsteady : stateAfter (stateAfter state front) inserted = stateAfter state front)
    (hbalance : BracesBalance (codeOfLines false inserted))
    (hfound : forall offset symbol,
      symbol ∈ declarationsFrom package state index (front ++ back) ->
        symbol.range.start.line = index + offset ->
          (endingOf .none false ((front ++ back).drop offset)).isFound = true) :
    declarationsFrom package state index (front ++ (inserted ++ back)) =
      (declarationsFrom package state index (front ++ back)).map
        (Symbol.moved (index + front.length) inserted.length) := by
  induction front generalizing state index with
  | nil =>
      have hreturns : stateAfter state inserted = state := hsteady
      have hnothing : declarationsFrom none state 0 inserted = [] := hsilent
      have hskip : declarationsFrom package state index (inserted ++ back) =
          declarationsFrom package state (index + inserted.length) back := by
        rw [declarationsFrom_append_of_silent back hnothing, hreturns]
      exact hskip.trans
        (declarationsFrom_moved package state inserted.length back (Nat.le_refl index))
  | cons line front ih =>
      have hrest : declarationsFrom package (scanDeclaration state line).2 (index + 1)
            (front ++ (inserted ++ back)) =
          (declarationsFrom package (scanDeclaration state line).2 (index + 1)
            (front ++ back)).map
              (Symbol.moved (index + (line :: front).length) inserted.length) := by
        have hplace : index + (line :: front).length = index + 1 + front.length := by
          rw [List.length_cons]
          omega
        rw [hplace]
        apply ih hraw hsilent hsteady
        intro offset symbol hmem hstart
        apply hfound (offset + 1) symbol
        · rw [List.cons_append, declarationsFrom_cons]
          exact List.mem_append_right _ hmem
        · omega
      rw [List.cons_append, List.cons_append, declarationsFrom_cons, declarationsFrom_cons,
        List.map_append, hrest]
      cases hhead : (scanDeclaration state line).1 with
      | none =>
          rfl
      | some head =>
          -- a declaration before the insertion ends, so its end can move with what is inserted
          have hhere : (endingOf .none false (line :: front ++ back)).isFound = true := by
            apply hfound 0 ⟨head.1, head.2, .ofLines index (index + linesToClose .none false 0
              (line :: front ++ back)), package⟩
            · rw [List.cons_append, declarationsFrom_cons, hhead]
              exact List.mem_append_left _ (List.mem_singleton.mpr rfl)
            · rfl
          have hlast := linesToClose_insert_of_steady back (List.cons_ne_nil line front)
            (inRaw_eq_false_of_scanDeclaration hhead) hraw hsteady hbalance hhere
          rw [List.cons_append, List.cons_append] at hlast
          have hbefore : index < index + (line :: front).length := by
            rw [List.length_cons]
            omega
          simp only [Option.map_some, Option.toList_some, List.map_singleton,
            Symbol.moved_ofLines, movedLine_of_lt _ hbefore, movedLine_add, hlast]

/-- Neutral text moves the declarations of a source and does nothing else to them. -/
theorem typeDeclarations_insertAtLine
    {source inserted : Text} {index : Nat} (hindex : index ≤ (Text.lines source).length)
    (hraw : (stateAt source index).inRaw = false)
    (hneutral : IsNeutral (stateAt source index) inserted) (hends : AllEnd source) :
    typeDeclarations (Text.insertAtLine source index inserted) =
      (typeDeclarations source).map
        (Symbol.moved index (Text.lines inserted).length) := by
  rcases Text.exists_insertAtLine_eq hindex with
    ⟨before, after, hwhole, hlength, halike, hinsert⟩
  have htake : ((Text.lines before ++ Text.lines after).take index) = Text.lines before := by
    rw [← hlength, List.take_left]
  have hstate : stateAt source index = stateAfter .initial (Text.lines before) := by
    rw [stateAt, ← htake]
    exact stateAfter_of_alike .initial (List.forall₂_take index halike)
  have hlines : Text.lines (before ++ (inserted ++ after)) =
      Text.lines before ++ (Text.lines inserted ++ Text.lines after) := by
    rw [Text.lines_append _ hwhole, Text.lines_append _ hneutral.whole]
  have hpackage : (Text.lines before ++ (Text.lines inserted ++ Text.lines after)).findSome?
        packageOfLine =
      (Text.lines before ++ Text.lines after).findSome? packageOfLine := by
    have hnone : (Text.lines inserted).findSome? packageOfLine = none := hneutral.noPackage
    rw [List.findSome?_append, List.findSome?_append, List.findSome?_append, hnone]
    rfl
  have hsource : typeDeclarations source =
      declarationsOf (Text.lines before ++ Text.lines after) :=
    declarationsOf_of_alike halike
  have hnew : typeDeclarations (before ++ (inserted ++ after)) =
      declarationsOf (Text.lines before ++ (Text.lines inserted ++ Text.lines after)) :=
    congrArg declarationsOf hlines
  rw [hstate] at hraw hneutral
  rw [hinsert, hnew, hsource, declarationsOf, hpackage,
    declarationsFrom_insert hraw hneutral.silent hneutral.steady hneutral.balanced,
    Nat.zero_add, hlength]
  · rfl
  · intro offset symbol hmem hstart
    rw [Nat.zero_add] at hstart
    have hend := hends symbol (by rw [hsource]; exact hmem)
    rw [hstart, endingOf_of_alike .none false (List.forall₂_drop offset halike)] at hend
    exact hend

end Go
end StubAssist

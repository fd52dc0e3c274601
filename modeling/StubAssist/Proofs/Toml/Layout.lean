import Mathlib.Data.List.TakeWhile
import StubAssist.Proofs.Text.Splices
import StubAssist.Proofs.Toml.Outline

/-!
# The layout of a document

Where the statements of a document stand in its text.  Each begins a line, after blanks,
and what is left of its last line is blank but for a comment; so are the lines between
two statements.
-/

namespace StubAssist
namespace Toml

open Text (isWhole pieces)

def AllSpaces (t : Text) : Prop :=
  forall c, c ∈ t -> isSpaceOrTab c = true

def atLineEnd (t : Text) : Bool :=
  t.isEmpty || startsWithNewline t || t.head? == some '#'

def IsIdle (piece : Text) : Prop :=
  exists gap rest,
    piece = gap ++ rest ∧ AllSpaces gap ∧
      (rest = ['\n'] ∨ rest = ['\r', '\n'] ∨ rest.head? = some '#')

theorem IsIdle.append
    {gap line : Text} (hidle : IsIdle line) (hgap : AllSpaces gap) :
    IsIdle (gap ++ line) := by
  rcases hidle with ⟨gap', rest, hline, hgap', hrest⟩
  refine ⟨gap ++ gap', rest, by rw [hline, List.append_assoc], ?_, hrest⟩
  intro c hc
  rcases List.mem_append.mp hc with hc | hc
  · exact hgap c hc
  · exact hgap' c hc

/-!
# Between statements
-/

theorem newline_not_mem_of_allSpaces {t : Text} (ht : AllSpaces t) :
    '\n' ∉ t := by
  intro hmem
  cases ht '\n' hmem

theorem pieces_append_newline
    {t : Text} (rest : Text) (hnone : '\n' ∉ t) :
    pieces (t ++ '\n' :: rest) = (t ++ ['\n']) :: pieces rest :=
  Text.pieces_append_of_not_mem hnone (Text.pieces_cons_newline rest)

/-- What has been read of a line: blanks, and a comment that is still open. -/
def IsBegun (inComment : Bool) (front : Text) : Prop :=
  if inComment then exists gap rest, front = gap ++ '#' :: rest ∧ AllSpaces gap
  else AllSpaces front

theorem IsBegun.isIdle
    {inComment : Bool} {front terminator : Text} (hbegun : IsBegun inComment front)
    (hterminator : terminator = ['\n'] ∨ terminator = ['\r', '\n']) :
    IsIdle (front ++ terminator) := by
  cases inComment with
  | false =>
      refine ⟨front, terminator, rfl, hbegun, ?_⟩
      rcases hterminator with hnewline | hreturn
      · exact Or.inl hnewline
      · exact Or.inr (Or.inl hreturn)
  | true =>
      rcases hbegun with ⟨gap, rest, hfront, hgap⟩
      refine ⟨gap, '#' :: rest ++ terminator, ?_, hgap, Or.inr (Or.inr rfl)⟩
      rw [hfront, List.append_assoc]

theorem IsBegun.append
    {inComment : Bool} {front : Text} {c : Char} (hbegun : IsBegun inComment front)
    (hc : inComment = true ∨ isSpaceOrTab c = true) :
    IsBegun inComment (front ++ [c]) := by
  cases inComment with
  | false =>
      have hspace : isSpaceOrTab c = true := by simpa using hc
      intro d hd
      rcases List.mem_append.mp hd with hd | hd
      · exact hbegun d hd
      · rw [List.mem_singleton.mp hd, hspace]
  | true =>
      rcases hbegun with ⟨gap, rest, hfront, hgap⟩
      exact ⟨gap, rest ++ [c], by rw [hfront, List.append_assoc]; rfl, hgap⟩

/-- Whole lines that are blank but for comments, and then blanks. -/
structure IsTrivia (lines indent : Text) : Prop where
  isWhole : isWhole lines = true
  isIdle : forall piece, piece ∈ pieces lines -> IsIdle piece
  allSpaces : AllSpaces indent

theorem IsTrivia.line
    {line lines indent : Text} (hidle : IsIdle (line ++ ['\n'])) (hnone : '\n' ∉ line)
    (htrivia : IsTrivia lines indent) :
    IsTrivia (line ++ '\n' :: lines) indent := by
  constructor
  · rw [Text.isWhole_append_of_ne_nil line (List.cons_ne_nil _ _), Text.isWhole_cons_newline,
      htrivia.isWhole]
  · intro piece hmem
    rw [pieces_append_newline lines hnone] at hmem
    rcases List.mem_cons.mp hmem with hfirst | hlater
    · rw [hfirst]
      exact hidle
    · exact htrivia.isIdle piece hlater
  · exact htrivia.allSpaces

theorem newline_not_mem_append {t : Text} {c : Char} (hnone : '\n' ∉ t) (hc : c ≠ '\n') :
    '\n' ∉ t ++ [c] := by
  simp [hnone, Ne.symm hc]

theorem exists_trivia
    {inComment : Bool} {t t' front : Text} (hafter : afterTrivia? inComment t = some t')
    (hbegun : IsBegun inComment front) (hnone : '\n' ∉ front) (ht' : t' ≠ []) :
    exists lines indent, IsTrivia lines indent ∧ front ++ t = lines ++ (indent ++ t') := by
  have hempty : IsBegun false [] := fun c hc => absurd hc List.not_mem_nil
  -- `front` is what the line has before `t`; each line end begins a new one
  fun_induction afterTrivia? inComment t generalizing front with
  | case1 inComment =>
      exact absurd (Option.some.inj hafter).symm ht'
  | case2 inComment rest ih =>
      rcases ih hafter hempty List.not_mem_nil with ⟨lines, indent, htrivia, hrest⟩
      refine ⟨front ++ '\n' :: lines, indent, htrivia.line (hbegun.isIdle (Or.inl rfl)) hnone, ?_⟩
      rw [← List.nil_append rest, hrest, List.append_assoc]
      rfl
  | case3 inComment rest ih =>
      rcases ih hafter hempty List.not_mem_nil with ⟨lines, indent, htrivia, hrest⟩
      have hline := hbegun.isIdle (Or.inr rfl)
      rw [show ['\r', '\n'] = ['\r'] ++ ['\n'] from rfl, ← List.append_assoc] at hline
      refine ⟨front ++ ['\r'] ++ '\n' :: lines, indent,
        htrivia.line hline (newline_not_mem_append hnone (by decide)), ?_⟩
      rw [← List.nil_append rest, hrest]
      simp
  | case4 c rest hnewline _ _ ih =>
      have hc : c ≠ '\n' := fun h => hnewline h
      rcases ih hafter (hbegun.append (Or.inl rfl)) (newline_not_mem_append hnone hc) with
        ⟨lines, indent, htrivia, hrest⟩
      exact ⟨lines, indent, htrivia, by rw [← hrest, List.append_assoc]; rfl⟩
  | case5 c rest =>
      cases hafter
  | case6 rest ih =>
      rcases ih hafter (@IsBegun.append false front ' ' hbegun (Or.inr rfl))
        (newline_not_mem_append hnone (by decide)) with ⟨lines, indent, htrivia, hrest⟩
      exact ⟨lines, indent, htrivia, by rw [← hrest, List.append_assoc]; rfl⟩
  | case7 rest ih =>
      rcases ih hafter (@IsBegun.append false front '\t' hbegun (Or.inr rfl))
        (newline_not_mem_append hnone (by decide)) with ⟨lines, indent, htrivia, hrest⟩
      exact ⟨lines, indent, htrivia, by rw [← hrest, List.append_assoc]; rfl⟩
  | case8 rest ih =>
      have hcomment : IsBegun true (front ++ ['#']) := ⟨front, [], rfl, hbegun⟩
      rcases ih hafter hcomment (newline_not_mem_append hnone (by decide)) with
        ⟨lines, indent, htrivia, hrest⟩
      exact ⟨lines, indent, htrivia, by rw [← hrest, List.append_assoc]; rfl⟩
  | case9 t =>
      rw [Option.some.inj hafter]
      refine ⟨[], front, ⟨rfl, ?_, hbegun⟩, rfl⟩
      intro piece hmem
      cases hmem

theorem afterTrivia?_stops
    {inComment : Bool} {t t' : Text} (hafter : afterTrivia? inComment t = some t')
    (ht' : t' ≠ []) :
    atLineEnd t' = false ∧ forall c, t'.head? = some c -> isSpaceOrTab c = false := by
  fun_induction afterTrivia? inComment t with
  | case1 inComment =>
      exact absurd (Option.some.inj hafter).symm ht'
  | case2 inComment rest ih => exact ih hafter
  | case3 inComment rest ih => exact ih hafter
  | case4 c rest _ _ _ ih => exact ih hafter
  | case5 c rest => cases hafter
  | case6 rest ih => exact ih hafter
  | case7 rest ih => exact ih hafter
  | case8 rest ih => exact ih hafter
  | case9 t hnil hnewline hreturn hspace htab hcomment =>
      rw [← Option.some.inj hafter]
      constructor
      · simp only [atLineEnd, Bool.or_eq_false_iff]
        refine ⟨⟨by simpa using hnil, ?_⟩, ?_⟩
        · unfold startsWithNewline
          split
          · exact (hnewline _ rfl).elim
          · exact (hreturn _ rfl).elim
          · rfl
        · rw [beq_eq_false_iff_ne]
          intro hhead
          rcases List.head?_eq_some_iff.mp hhead with ⟨rest, hrest⟩
          exact hcomment rest hrest
      · intro c hhead
        rcases List.head?_eq_some_iff.mp hhead with ⟨rest, hrest⟩
        rw [isSpaceOrTab, Bool.or_eq_false_iff, beq_eq_false_iff_ne, beq_eq_false_iff_ne]
        constructor
        · intro hc
          exact hspace rest (hc ▸ hrest)
        · intro hc
          exact htab rest (hc ▸ hrest)

theorem atLineEnd_cons_of_isSpaceOrTab
    {c : Char} (t : Text) (hc : isSpaceOrTab c = true) :
    atLineEnd (c :: t) = false := by
  rw [isSpaceOrTab, Bool.or_eq_true, beq_iff_eq, beq_iff_eq] at hc
  rcases hc with hspace | htab
  · rw [hspace]
    rfl
  · rw [htab]
    rfl

theorem exists_firstLine
    {lines : Text} (hwhole : isWhole lines = true) (hne : lines ≠ []) :
    exists line rest, lines = line ++ '\n' :: rest ∧ '\n' ∉ line ∧ isWhole rest = true := by
  have hmem : '\n' ∈ lines := by
    have hlast : lines.getLast? = some '\n' := by
      simpa [isWhole, Text.endsInNewline, hne] using hwhole
    exact List.mem_of_getLast? hlast
  rcases List.eq_append_cons_of_mem hmem with ⟨line, rest, hsplit, hnone⟩
  refine ⟨line, rest, hsplit, hnone, ?_⟩
  rw [hsplit, Text.isWhole_append_of_ne_nil line (List.cons_ne_nil _ _),
    Text.isWhole_cons_newline] at hwhole
  exact hwhole

theorem exists_break
    {t t' : Text} (hend : atLineEnd t = true) (hafter : afterTrivia? false t = some t')
    (ht' : t' ≠ []) :
    exists tail lines indent,
      t = tail ++ '\n' :: (lines ++ (indent ++ t')) ∧ '\n' ∉ tail ∧
        IsIdle (tail ++ ['\n']) ∧ IsTrivia lines indent := by
  have hempty : IsBegun false [] := fun c hc => absurd hc List.not_mem_nil
  rcases exists_trivia hafter hempty List.not_mem_nil ht' with ⟨lines, indent, htrivia, ht⟩
  rw [List.nil_append] at ht
  have hne : lines ≠ [] := by
    intro hnil
    rw [hnil, List.nil_append] at ht
    cases indent with
    | nil =>
        rw [ht, List.nil_append, (afterTrivia?_stops hafter ht').1] at hend
        cases hend
    | cons c indent =>
        have hc := htrivia.allSpaces c List.mem_cons_self
        rw [ht, List.cons_append, atLineEnd_cons_of_isSpaceOrTab _ hc] at hend
        cases hend
  rcases exists_firstLine htrivia.isWhole hne with ⟨tail, rest, hlines, hnone, hwhole⟩
  have hpieces := pieces_append_newline rest hnone
  rw [← hlines] at hpieces
  refine ⟨tail, rest, indent, ?_, hnone, ?_, hwhole, ?_, htrivia.allSpaces⟩
  · rw [ht, hlines, List.append_assoc]
    rfl
  · exact htrivia.isIdle _ (hpieces ▸ List.mem_cons_self)
  · intro piece hmem
    exact htrivia.isIdle piece (hpieces ▸ List.mem_cons_of_mem _ hmem)

/-!
# Statements
-/

theorem leavesEnd_readContent (total : Nat) :
    LeavesEnd (readContent total) := by
  apply leavesEnd_get.bind
  intro t
  split
  · exact ((leavesEnd_readHeader total).withSpan total).bind fun _ => leavesEnd_pure _
  · exact (leavesEnd_readEntry total leavesEnd_skipBlanks (leavesEnd_readValue _ _)).bind
      fun _ => leavesEnd_pure _

theorem requireLineEnd_eq (t : Text) :
    requireLineEnd t =
      if atLineEnd (t.dropWhile isSpaceOrTab) then some ((), t.dropWhile isSpaceOrTab)
      else none := by
  show (guard (atLineEnd (t.dropWhile isSpaceOrTab) = true) : Reader Unit) _ = _
  unfold guard
  split <;> rfl

theorem readStatement_eq_some
    {total : Nat} {t rest : Text} {statement : Statement}
    (hread : readStatement total t = some (statement, rest)) :
    exists gap,
      t = statement.text ++ (gap ++ rest) ∧ AllSpaces gap ∧ atLineEnd rest = true ∧
        readContent total t = some (statement.content, gap ++ rest) := by
  rw [readStatement_eq] at hread
  rcases Option.bind_eq_some_iff.mp hread with ⟨⟨content, after⟩, hcontent, hstep⟩
  rcases Option.map_eq_some_iff.mp hstep with ⟨⟨_, rest'⟩, hend, hstatement⟩
  dsimp only at hend hstatement
  rw [requireLineEnd_eq] at hend
  rcases leavesEnd_readContent total t content after hcontent with ⟨text, htext⟩
  have htake : t.take (t.length - after.length) = text := by
    rw [← htext, List.length_append, Nat.add_sub_cancel, List.take_left]
  cases hstatement
  split at hend
  · rename_i hline
    cases hend
    refine ⟨after.takeWhile isSpaceOrTab, ?_, ?_, hline, ?_⟩
    · rw [List.takeWhile_append_dropWhile, htake, htext]
    · intro c hc
      exact List.mem_takeWhile_imp hc
    · rw [List.takeWhile_append_dropWhile, hcontent]
  · cases hend

/-!
# Sections
-/

/-- The statements of the rest of a document, each read where the trivia before it end. -/
inductive Laid (total : Nat) : Text -> List Statement -> Prop where
  | done {t : Text} (hafter : afterTrivia? false t = some []) : Laid total t []
  | statement {t t' rest : Text} {statement : Statement} {statements : List Statement}
      (hafter : afterTrivia? false t = some t') (hne : t' ≠ [])
      (hread : readStatement total t' = some (statement, rest))
      (hrest : Laid total rest statements) : Laid total t (statement :: statements)

theorem laid_of_readStatements
    {total fuel : Nat} {t rest : Text} {statements : List Statement}
    (hread : readStatements total fuel t = some (statements, rest)) :
    Laid total t statements := by
  induction fuel generalizing t statements with
  | zero =>
      cases hread
  | succ fuel ih =>
      rcases read_bind_iff.mp hread with ⟨_, t', hskip, hnext⟩
      rcases Option.map_eq_some_iff.mp hskip with ⟨left, hafter, hleft⟩
      cases hleft
      rw [read_bind, read_get, Option.bind_some] at hnext
      split at hnext
      · rename_i hempty
        cases hnext
        have hnil : t' = [] := List.isEmpty_iff.mp hempty
        rw [hnil] at hafter
        exact Laid.done hafter
      · rename_i hempty
        rcases read_bind_iff.mp hnext with ⟨statement, middle, hstatement, hmore⟩
        rcases read_bind_iff.mp hmore with ⟨more, last, hstatements, hlast⟩
        cases hlast
        exact Laid.statement hafter (by simpa using hempty) hstatement (ih hstatements)

theorem afterTrivia?_suffix
    {t t' : Text} (hafter : afterTrivia? false t = some t') :
    t' <:+ t :=
  leavesEnd_skipTrivia t () t' (by rw [skipTrivia, hafter]; rfl)

theorem readStatement_suffix
    {total : Nat} {t rest : Text} {statement : Statement}
    (hread : readStatement total t = some (statement, rest)) :
    rest <:+ t := by
  rcases readStatement_eq_some hread with ⟨gap, ht, _⟩
  rw [← List.append_assoc] at ht
  exact ⟨statement.text ++ gap, ht.symm⟩

theorem Laid.exists_read
    {total : Nat} {t : Text} {before after : List Statement} {statement : Statement}
    (hlaid : Laid total t (before ++ statement :: after)) :
    exists t' rest,
      t' <:+ t ∧ readStatement total t' = some (statement, rest) ∧ Laid total rest after := by
  induction before generalizing t with
  | nil =>
      cases hlaid with
      | @statement _ t' rest _ _ hafter hne hread hrest =>
          exact ⟨t', rest, afterTrivia?_suffix hafter, hread, hrest⟩
  | cons first before ih =>
      cases hlaid with
      | statement hafter hne hread hrest =>
          rcases ih hrest with ⟨t', rest, hsuffix, hread', hlater⟩
          exact ⟨t', rest, hsuffix.trans ((readStatement_suffix hread).trans
            (afterTrivia?_suffix hafter)), hread', hlater⟩

def IsLineOf (total : Nat) (statement : Statement) (line : Text) : Prop :=
  exists indent begun more rest,
    line = indent ++ begun ∧ AllSpaces indent ∧
      (forall c, (begun ++ more).head? = some c -> isSpaceOrTab c = false) ∧
      readContent total (begun ++ more) = some (statement.content, rest)

/-- What stands between two statements: the end of a line, lines, and blanks. -/
structure Leads (total : Nat) (between : List Statement) (tail lines indent : Text) : Prop where
  newline_not_mem : '\n' ∉ tail
  isIdle : IsIdle (tail ++ ['\n'])
  isWhole : isWhole lines = true
  allSpaces : AllSpaces indent
  isLineOf :
    (forall earlier, earlier ∈ between -> '\n' ∉ earlier.text) ->
      forall line, line ∈ pieces lines ->
        IsIdle line ∨ exists earlier, earlier ∈ between ∧ IsLineOf total earlier line

theorem Laid.exists_leads
    {total : Nat} {t : Text} {between after : List Statement} {statement : Statement}
    (hlaid : Laid total t (between ++ statement :: after)) (hend : atLineEnd t = true) :
    exists tail lines indent t' rest,
      t = tail ++ '\n' :: (lines ++ (indent ++ t')) ∧ Leads total between tail lines indent ∧
        readStatement total t' = some (statement, rest) ∧
        forall c, t'.head? = some c -> isSpaceOrTab c = false := by
  induction between generalizing t with
  | nil =>
      cases hlaid with
      | @statement _ t' rest _ _ hafter hne hread hrest =>
          rcases exists_break hend hafter hne with ⟨tail, lines, indent, ht, hnone, hidle, htrivia⟩
          refine ⟨tail, lines, indent, t', rest, ht, ?_, hread, (afterTrivia?_stops hafter hne).2⟩
          refine ⟨hnone, hidle, htrivia.isWhole, htrivia.allSpaces, ?_⟩
          intro _ line hline
          exact Or.inl (htrivia.isIdle line hline)
  | cons first between ih =>
      cases hlaid with
      | @statement _ t₁ rest₁ _ _ hafter hne hread hrest =>
          rcases exists_break hend hafter hne with ⟨tail, lines, indent, ht, hnone, hidle, htrivia⟩
          rcases readStatement_eq_some hread with ⟨gap, ht₁, hgap, hend₁, hcontent⟩
          rcases ih hrest hend₁ with
            ⟨tail', lines', indent', t', rest, hrest₁, hleads, hread', hhead⟩
          -- the first statement, with its indent and the end of its last line
          let last := indent ++ (first.text ++ (gap ++ tail'))
          refine ⟨tail, lines ++ (last ++ '\n' :: lines'), indent', t', rest, ?_, ?_, hread', hhead⟩
          · rw [ht, ht₁, hrest₁]
            simp only [last, List.append_assoc, List.cons_append]
          · refine ⟨hnone, hidle, ?_, hleads.allSpaces, ?_⟩
            · apply Text.isWhole_append htrivia.isWhole
              rw [Text.isWhole_append_of_ne_nil last (List.cons_ne_nil _ _),
                Text.isWhole_cons_newline, hleads.isWhole]
            · intro hlines line hline
              have hlast : '\n' ∉ last := by
                simp [last, newline_not_mem_of_allSpaces htrivia.allSpaces,
                  hlines first List.mem_cons_self, newline_not_mem_of_allSpaces hgap,
                  hleads.newline_not_mem]
              rw [Text.pieces_append _ htrivia.isWhole, pieces_append_newline lines' hlast]
                at hline
              rcases List.mem_append.mp hline with hbreak | hline
              · exact Or.inl (htrivia.isIdle line hbreak)
              rcases List.mem_cons.mp hline with hfirst | hlater
              · have hbegun : first.text ++ (gap ++ (tail' ++ ['\n'])) ++
                    (lines' ++ (indent' ++ t')) = t₁ := by
                  rw [ht₁, hrest₁]
                  simp only [List.append_assoc, List.cons_append, List.nil_append]
                refine Or.inr ⟨first, List.mem_cons_self, indent,
                  first.text ++ (gap ++ (tail' ++ ['\n'])), lines' ++ (indent' ++ t'), gap ++ rest₁,
                  ?_, htrivia.allSpaces, ?_, ?_⟩
                · rw [hfirst]
                  simp only [last, List.append_assoc]
                · rw [hbegun]
                  exact (afterTrivia?_stops hafter hne).2
                · rw [hbegun]
                  exact hcontent
              · rcases hleads.isLineOf (fun earlier hmem =>
                    hlines earlier (List.mem_cons_of_mem first hmem)) line hlater with
                  hidle' | ⟨earlier, hmem, hline'⟩
                · exact Or.inl hidle'
                · exact Or.inr ⟨earlier, List.mem_cons_of_mem first hmem, hline'⟩

end Toml
end StubAssist

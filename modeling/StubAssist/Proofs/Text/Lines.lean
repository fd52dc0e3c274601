import Mathlib.Data.List.Forall2
import StubAssist.SourceBuffer

/-!
# Lines of a text

How the lines of a text come together from the lines of its parts, and where an
insertion cuts it.  A part may be read on its own when it consists of whole lines.  An
insertion goes between two parts like that, except that the last line of the text may
lack its terminator; completing that line changes no line but for a carriage return.
-/

namespace StubAssist
namespace Text

/-!
# Whole lines
-/

/-- Whether each line of the text has its terminator. -/
def isWhole (t : Text) : Bool :=
  t.isEmpty || endsInNewline t

@[simp] theorem isWhole_nil : isWhole [] = true := rfl

@[simp] theorem isWhole_newline : isWhole ['\n'] = true := rfl

theorem isWhole_cons_of_ne_nil
    {t : Text} (c : Char) (ht : t ≠ []) :
    isWhole (c :: t) = isWhole t := by
  rcases List.exists_cons_of_ne_nil ht with ⟨d, rest, hcons⟩
  rw [hcons]
  rfl

theorem isWhole_cons_newline {t : Text} :
    isWhole ('\n' :: t) = isWhole t := by
  cases t <;> rfl

theorem ne_nil_of_isWhole_cons
    {t : Text} {c : Char} (hc : c ≠ '\n') (hwhole : isWhole (c :: t) = true) :
    t ≠ [] := by
  intro hnil
  rw [hnil] at hwhole
  simp [isWhole, endsInNewline, hc] at hwhole

theorem isWhole_append_of_ne_nil
    {t : Text} (s : Text) (ht : t ≠ []) :
    isWhole (s ++ t) = isWhole t := by
  induction s with
  | nil =>
      rfl
  | cons c s ih =>
      rw [List.cons_append, isWhole_cons_of_ne_nil c (List.append_ne_nil_of_right_ne_nil s ht),
        ih]

theorem isWhole_append
    {s t : Text} (hs : isWhole s = true) (ht : isWhole t = true) :
    isWhole (s ++ t) = true := by
  by_cases hnil : t = []
  · rw [hnil, List.append_nil, hs]
  · rw [isWhole_append_of_ne_nil s hnil, ht]

/-!
# Lines of appended texts
-/

theorem pieces_cons_newline (rest : Text) :
    pieces ('\n' :: rest) = ['\n'] :: pieces rest := rfl

theorem pieces_cons_of_pieces_cons
    {c : Char} {rest piece : Text} {more : List Text} (hc : c ≠ '\n')
    (hrest : pieces rest = piece :: more) :
    pieces (c :: rest) = (c :: piece) :: more := by
  rw [pieces, if_neg hc, hrest]

theorem exists_pieces_eq_cons {t : Text} (ht : t ≠ []) :
    exists piece more, pieces t = piece :: more := by
  cases hpieces : pieces t with
  | nil =>
      have hflat := flatten_pieces t
      rw [hpieces] at hflat
      exact absurd hflat.symm ht
  | cons piece more =>
      exact ⟨piece, more, rfl⟩

theorem ne_nil_of_mem_pieces {t piece : Text} (hmem : piece ∈ pieces t) :
    piece ≠ [] := by
  induction t generalizing piece with
  | nil =>
      cases hmem
  | cons c rest ih =>
      unfold pieces at hmem
      split at hmem
      · rcases List.mem_cons.mp hmem with hhere | hlater
        · rw [hhere]
          exact List.cons_ne_nil c []
        · exact ih hlater
      · split at hmem
        · rw [List.mem_singleton.mp hmem]
          exact List.cons_ne_nil c []
        · rename_i first more hrest
          rcases List.mem_cons.mp hmem with hhere | hlater
          · rw [hhere]
            exact List.cons_ne_nil c first
          · exact ih (hrest ▸ List.mem_cons_of_mem first hlater)

theorem pieces_append
    {t : Text} (rest : Text) (hwhole : isWhole t = true) :
    pieces (t ++ rest) = pieces t ++ pieces rest := by
  induction t with
  | nil =>
      rfl
  | cons c t ih =>
      by_cases hc : c = '\n'
      · rw [hc, isWhole_cons_newline] at hwhole
        rw [hc, List.cons_append, pieces_cons_newline, pieces_cons_newline, ih hwhole]
        rfl
      · have ht := ne_nil_of_isWhole_cons hc hwhole
        rw [isWhole_cons_of_ne_nil c ht] at hwhole
        rcases exists_pieces_eq_cons ht with ⟨piece, more, hpieces⟩
        have happend := ih hwhole
        rw [hpieces, List.cons_append] at happend
        rw [List.cons_append, pieces_cons_of_pieces_cons hc happend,
          pieces_cons_of_pieces_cons hc hpieces]
        rfl

theorem lines_append
    {t : Text} (rest : Text) (hwhole : isWhole t = true) :
    lines (t ++ rest) = lines t ++ lines rest := by
  unfold lines
  rw [pieces_append rest hwhole, List.map_append]

theorem lines_cons_newline (rest : Text) :
    lines ('\n' :: rest) = [] :: lines rest := rfl

theorem length_lines_cons
    {t : Text} {c : Char} (hc : c ≠ '\n') (ht : t ≠ []) :
    (lines (c :: t)).length = (lines t).length := by
  rcases exists_pieces_eq_cons ht with ⟨piece, more, hpieces⟩
  rw [length_lines, length_lines, pieces_cons_of_pieces_cons hc hpieces, hpieces]
  rfl

theorem length_lines_pos {t : Text} (ht : t ≠ []) :
    0 < (lines t).length := by
  rcases exists_pieces_eq_cons ht with ⟨piece, more, hpieces⟩
  rw [length_lines, hpieces]
  exact Nat.succ_pos more.length

/-!
# A last line without its terminator
-/

def completed (t : Text) : Text :=
  t ++ if isWhole t then [] else ['\n']

theorem completed_of_isWhole {t : Text} (hwhole : isWhole t = true) :
    completed t = t := by
  simp [completed, hwhole]

theorem completed_of_isPart {t : Text} (hpart : isWhole t = false) :
    completed t = t ++ ['\n'] := by
  simp [completed, hpart]

theorem isWhole_completed (t : Text) :
    isWhole (completed t) = true := by
  cases hwhole : isWhole t with
  | true =>
      rw [completed_of_isWhole hwhole, hwhole]
  | false =>
      rw [completed_of_isPart hwhole,
        isWhole_append_of_ne_nil t (List.cons_ne_nil '\n' []), isWhole_newline]

theorem completed_append
    {t : Text} (s : Text) (ht : t ≠ []) :
    completed (s ++ t) = s ++ completed t := by
  rw [completed, completed, isWhole_append_of_ne_nil s ht, List.append_assoc]

/-- Equal lines, or lines of which only the first ends in a carriage return. -/
inductive Alike : Text -> Text -> Prop where
  | same (line : Text) : Alike line line
  | returned (line : Text) : Alike (line ++ ['\r']) line

theorem dropTerminator_cons
    {c d : Char} {rest : Text} (hmore : c ≠ '\r' ∨ d ≠ '\n' ∨ rest ≠ []) :
    dropTerminator (c :: d :: rest) = c :: dropTerminator (d :: rest) := by
  rw [dropTerminator]
  · intro _ hnil
    cases hnil
  · intro hc hrest
    cases hrest
    simp [hc] at hmore

theorem dropTerminator_of_not_mem
    {t : Text} (hnone : '\n' ∉ t) :
    dropTerminator t = t := by
  induction t with
  | nil =>
      rfl
  | cons c t ih =>
      simp only [List.mem_cons, not_or] at hnone
      rw [dropTerminator, ih hnone.right]
      · intro hc
        exact absurd hc.symm hnone.left
      · intro _ ht
        rw [ht] at hnone
        simp at hnone

theorem dropTerminator_append_return (t : Text) :
    dropTerminator (t ++ ['\r', '\n']) = t := by
  induction t with
  | nil =>
      rfl
  | cons c t ih =>
      cases t with
      | nil =>
          rw [List.singleton_append, dropTerminator_cons (by simp)]
          rfl
      | cons d rest =>
          rw [List.cons_append, List.cons_append, dropTerminator_cons (by simp),
            ← List.cons_append, ih]

theorem dropTerminator_append_newline
    {t : Text} (hlast : t.getLast? ≠ some '\r') :
    dropTerminator (t ++ ['\n']) = t := by
  induction t with
  | nil =>
      rfl
  | cons c t ih =>
      cases t with
      | nil =>
          have hc : c ≠ '\r' := by simpa using hlast
          rw [List.singleton_append, dropTerminator_cons (Or.inl hc)]
          rfl
      | cons d rest =>
          rw [List.cons_append, List.cons_append, dropTerminator_cons (by simp),
            ← List.cons_append, ih (by simpa using hlast)]

theorem alike_dropTerminator (t : Text) :
    Alike t (dropTerminator (t ++ ['\n'])) := by
  by_cases hlast : t.getLast? = some '\r'
  · have hsplit : t = t.dropLast ++ ['\r'] :=
      (List.dropLast_append_getLast? _ hlast).symm
    rw [hsplit, List.append_assoc]
    show Alike (t.dropLast ++ ['\r']) (dropTerminator (t.dropLast ++ ['\r', '\n']))
    rw [dropTerminator_append_return]
    exact Alike.returned t.dropLast
  · rw [dropTerminator_append_newline hlast]
    exact Alike.same t

theorem pieces_of_not_mem
    {t : Text} (hnone : '\n' ∉ t) (ht : t ≠ []) :
    pieces t = [t] ∧ pieces (t ++ ['\n']) = [t ++ ['\n']] := by
  induction t with
  | nil =>
      exact absurd rfl ht
  | cons c t ih =>
      simp only [List.mem_cons, not_or] at hnone
      have hc : c ≠ '\n' := fun h => hnone.left h.symm
      cases t with
      | nil =>
          exact ⟨by simp [pieces, hc], by simp [pieces, hc]⟩
      | cons d rest =>
          rcases ih hnone.right (List.cons_ne_nil d rest) with ⟨hpieces, hcompleted⟩
          exact ⟨pieces_cons_of_pieces_cons hc hpieces,
            pieces_cons_of_pieces_cons hc hcompleted⟩

theorem lines_append_newline
    {t : Text} (rest : Text) (hnone : '\n' ∉ t) :
    lines (t ++ '\n' :: rest) = dropTerminator (t ++ ['\n']) :: lines rest := by
  have hwhole : isWhole (t ++ ['\n']) = true :=
    isWhole_append_of_ne_nil t (List.cons_ne_nil '\n' [])
  have hlines : lines (t ++ ['\n']) = [dropTerminator (t ++ ['\n'])] := by
    by_cases hnil : t = []
    · rw [hnil]
      rfl
    · rw [lines, (pieces_of_not_mem hnone hnil).2, List.map_singleton]
  rw [← List.singleton_append, ← List.append_assoc, lines_append rest hwhole, hlines]
  rfl

theorem exists_lastLine {t : Text} (hpart : isWhole t = false) :
    exists before last,
      t = before ++ last ∧ isWhole before = true ∧ last ≠ [] ∧ '\n' ∉ last := by
  induction t with
  | nil =>
      cases hpart
  | cons c t ih =>
      cases ht : isWhole t with
      | true =>
          by_cases hc : c = '\n'
          · rw [hc, isWhole_cons_newline, ht] at hpart
            cases hpart
          · have hnil : t = [] := by
              apply Classical.byContradiction
              intro hne
              rw [isWhole_cons_of_ne_nil c hne, ht] at hpart
              cases hpart
            rw [hnil]
            exact ⟨[], [c], rfl, rfl, List.cons_ne_nil c [], by simpa using Ne.symm hc⟩
      | false =>
          rcases ih ht with ⟨before, last, hsplit, hwhole, hne, hnone⟩
          by_cases hbefore : before = [] ∧ c ≠ '\n'
          · refine ⟨[], c :: last, ?_, rfl, List.cons_ne_nil c last, ?_⟩
            · rw [hsplit, hbefore.left]
              rfl
            · simpa [hnone] using Ne.symm hbefore.right
          · refine ⟨c :: before, last, by rw [hsplit]; rfl, ?_, hne, hnone⟩
            by_cases hnil : before = []
            · have hc : c = '\n' := by
                apply Classical.byContradiction
                intro hc
                exact hbefore ⟨hnil, hc⟩
              rw [hnil, hc]
              rfl
            · rw [isWhole_cons_of_ne_nil c hnil, hwhole]

theorem exists_lines_of_isPart {t : Text} (hpart : isWhole t = false) :
    exists before last,
      t = before ++ last ∧ last ≠ [] ∧
        lines t = lines before ++ [last] ∧
        lines (completed t) = lines before ++ [dropTerminator (last ++ ['\n'])] := by
  rcases exists_lastLine hpart with ⟨before, last, hsplit, hbefore, hne, hnone⟩
  have hpieces := (pieces_of_not_mem hnone hne).left
  have hcomplete : completed t = before ++ (last ++ ['\n']) := by
    rw [completed_of_isPart hpart, hsplit, List.append_assoc]
  have hlines : lines last = [last] := by
    rw [lines, hpieces, List.map_singleton, dropTerminator_of_not_mem hnone]
  have hlinesCompleted : lines (last ++ ['\n']) = [dropTerminator (last ++ ['\n'])] :=
    lines_append_newline [] hnone
  refine ⟨before, last, hsplit, hne, ?_, ?_⟩
  · rw [hsplit, lines_append _ hbefore, hlines]
  · rw [hcomplete, lines_append _ hbefore, hlinesCompleted]

theorem alike_lines_completed (t : Text) :
    List.Forall₂ Alike (lines t) (lines (completed t)) := by
  cases hwhole : isWhole t with
  | true =>
      rw [completed_of_isWhole hwhole]
      exact List.forall₂_same.mpr fun line _ => Alike.same line
  | false =>
      rcases exists_lines_of_isPart hwhole with ⟨before, last, _, _, hlines, hcompleted⟩
      rw [hlines, hcompleted]
      apply List.rel_append
      · exact List.forall₂_same.mpr fun line _ => Alike.same line
      · exact List.Forall₂.cons (alike_dropTerminator last) List.Forall₂.nil

theorem lines_completed {t : Text} (hlast : t.getLast? ≠ some '\r') :
    lines (completed t) = lines t := by
  cases hwhole : isWhole t with
  | true =>
      rw [completed_of_isWhole hwhole]
  | false =>
      rcases exists_lines_of_isPart hwhole with
        ⟨before, last, hsplit, hne, hlines, hcompleted⟩
      have hreturn : last.getLast? ≠ some '\r' := by
        rw [hsplit, List.getLast?_append_of_ne_nil before hne] at hlast
        exact hlast
      rw [hlines, hcompleted, dropTerminator_append_newline hreturn]

/-!
# Characters of lines
-/

theorem mem_of_mem_dropTerminator
    {t : Text} {c : Char} (hmem : c ∈ dropTerminator t) :
    c ∈ t := by
  fun_induction dropTerminator t with
  | case1 =>
      exact hmem
  | case2 =>
      cases hmem
  | case3 =>
      cases hmem
  | case4 first rest _ _ ih =>
      rcases List.mem_cons.mp hmem with hfirst | hrest
      · rw [hfirst]
        exact List.mem_cons_self
      · exact List.mem_cons_of_mem first (ih hrest)

theorem mem_of_mem_lines
    {t line : Text} {c : Char} (hline : line ∈ lines t) (hmem : c ∈ line) :
    c ∈ t := by
  rcases List.mem_map.mp hline with ⟨piece, hpiece, rfl⟩
  rw [← flatten_pieces t]
  exact List.mem_flatten_of_mem hpiece (mem_of_mem_dropTerminator hmem)

/-!
# Where an insertion cuts
-/

theorem splitAtLine?_append
    {before after : Text} (hwhole : isWhole before = true) (hafter : after ≠ []) :
    splitAtLine? (lines before).length (before ++ after) = some (before, after) := by
  induction before with
  | nil =>
      simp [lines, pieces, splitAtLine?]
  | cons c before ih =>
      have hrest : (before ++ after).isEmpty = false := by
        simp [hafter]
      by_cases hc : c = '\n'
      · rw [hc, isWhole_cons_newline] at hwhole
        rw [hc, lines_cons_newline, List.length_cons, List.cons_append, splitAtLine?]
        simp only [if_true, hrest, Bool.false_eq_true, if_false, ih hwhole, Option.map_some]
      · have hbefore := ne_nil_of_isWhole_cons hc hwhole
        rw [isWhole_cons_of_ne_nil c hbefore] at hwhole
        rcases Nat.exists_eq_add_one.mpr (length_lines_pos hbefore) with ⟨index, hindex⟩
        have hsplit := ih hwhole
        rw [hindex] at hsplit
        rw [length_lines_cons hc hbefore, hindex, List.cons_append, splitAtLine?]
        simp only [hc, if_false, hsplit, Option.map_some]

theorem splitAtLine?_of_length_le
    {t : Text} {index : Nat} (hindex : (lines t).length ≤ index) (ht : t ≠ []) :
    splitAtLine? index t = none := by
  induction t generalizing index with
  | nil =>
      exact absurd rfl ht
  | cons c t ih =>
      rcases Nat.exists_eq_add_one.mpr (Nat.lt_of_lt_of_le (length_lines_pos ht) hindex) with
        ⟨earlier, hearlier⟩
      rw [hearlier] at hindex ⊢
      rw [splitAtLine?]
      cases t with
      | nil =>
          by_cases hc : c = '\n' <;> simp [hc, splitAtLine?]
      | cons d rest =>
          by_cases hc : c = '\n'
          · rw [hc, lines_cons_newline, List.length_cons] at hindex
            simp [hc, ih (Nat.le_of_succ_le_succ hindex) (List.cons_ne_nil d rest)]
          · rw [length_lines_cons hc (List.cons_ne_nil d rest)] at hindex
            simp [hc, ih hindex (List.cons_ne_nil d rest)]

theorem exists_cut
    {t : Text} {index : Nat} (hindex : index < (lines t).length) :
    exists before after,
      t = before ++ after ∧ isWhole before = true ∧ (lines before).length = index ∧
        after ≠ [] := by
  induction t generalizing index with
  | nil =>
      exact absurd hindex (Nat.not_lt_zero index)
  | cons c t ih =>
      cases index with
      | zero =>
          exact ⟨[], c :: t, rfl, rfl, rfl, List.cons_ne_nil c t⟩
      | succ index =>
          by_cases hc : c = '\n'
          · rw [hc, lines_cons_newline, List.length_cons] at hindex
            rcases ih (Nat.lt_of_succ_lt_succ hindex) with
              ⟨before, after, hsplit, hwhole, hlength, hafter⟩
            refine ⟨'\n' :: before, after, ?_, ?_, ?_, hafter⟩
            · rw [hc, hsplit]
              rfl
            · rw [isWhole_cons_newline, hwhole]
            · rw [lines_cons_newline, List.length_cons, hlength]
          · have ht : t ≠ [] := by
              intro hnil
              rw [hnil] at hindex
              simp [lines, pieces, hc] at hindex
            rw [length_lines_cons hc ht] at hindex
            rcases ih hindex with ⟨before, after, hsplit, hwhole, hlength, hafter⟩
            have hbefore : before ≠ [] := by
              intro hnil
              rw [hnil] at hlength
              cases hlength
            refine ⟨c :: before, after, ?_, ?_, ?_, hafter⟩
            · rw [hsplit]
              rfl
            · rw [isWhole_cons_of_ne_nil c hbefore, hwhole]
            · rw [length_lines_cons hc hbefore, hlength]

/-!
# Insertions
-/

theorem insertAtLine_zero (t inserted : Text) :
    insertAtLine t 0 inserted = inserted ++ t := by
  simp [insertAtLine, splitAtLine?]

theorem insertAtLine_of_length_le
    {t : Text} {index : Nat} (inserted : Text) (hindex : (lines t).length ≤ index) :
    insertAtLine t index inserted = completed t ++ inserted := by
  by_cases ht : t = []
  · cases index with
    | zero =>
        rw [ht, insertAtLine_zero]
        exact List.append_nil inserted
    | succ index =>
        simp [ht, insertAtLine, splitAtLine?, completed]
  · rw [insertAtLine, splitAtLine?_of_length_le hindex ht]
    rfl

theorem insertAtLine_append
    {s t : Text} (index : Nat) (inserted : Text) (hwhole : isWhole s = true) (ht : t ≠ []) :
    insertAtLine (s ++ t) ((lines s).length + index) inserted =
      s ++ insertAtLine t index inserted := by
  by_cases hindex : index < (lines t).length
  · rcases exists_cut hindex with ⟨before, after, hsplit, hbefore, hlength, hafter⟩
    have hlines : (lines (s ++ before)).length = (lines s).length + index := by
      rw [lines_append before hwhole, List.length_append, hlength]
    have hcut := splitAtLine?_append (isWhole_append hwhole hbefore) hafter
    have hcutAlone := splitAtLine?_append hbefore hafter
    rw [hlines, List.append_assoc] at hcut
    rw [hlength] at hcutAlone
    rw [hsplit, insertAtLine, insertAtLine, hcut, hcutAlone]
    simp only [List.append_assoc]
  · have hpast := Nat.le_of_not_lt hindex
    have hpastBoth : (lines (s ++ t)).length ≤ (lines s).length + index := by
      rw [lines_append t hwhole, List.length_append]
      exact Nat.add_le_add_left hpast (lines s).length
    rw [insertAtLine_of_length_le inserted hpast,
      insertAtLine_of_length_le inserted hpastBoth, completed_append s ht, List.append_assoc]

theorem insertAtLine_between
    {before after : Text} {index : Nat} (inserted : Text) (hwhole : isWhole before = true)
    (hlength : (lines before).length = index) (hafter : after ≠ []) :
    insertAtLine (before ++ after) index inserted = before ++ (inserted ++ after) := by
  have happend := insertAtLine_append 0 inserted hwhole hafter
  rw [Nat.add_zero, hlength, insertAtLine_zero] at happend
  exact happend

theorem insertAtLine_ne_nil
    {t : Text} (index : Nat) (inserted : Text) (ht : t ≠ []) :
    insertAtLine t index inserted ≠ [] := by
  by_cases hindex : index < (lines t).length
  · rcases exists_cut hindex with ⟨before, after, hsplit, hwhole, hlength, hafter⟩
    rw [hsplit, insertAtLine_between inserted hwhole hlength hafter]
    simp [hafter]
  · rw [insertAtLine_of_length_le inserted (Nat.le_of_not_lt hindex)]
    simp [completed, ht]

/--
Two insertions may come in either order if the later place moves along with the lines
that are inserted before it.
-/
theorem insertAtLine_comm
    {t first : Text} {index later : Nat} (second : Text) (hfirst : isWhole first = true)
    (hindex : index < later) (hlater : later ≤ (lines t).length) :
    insertAtLine (insertAtLine t index first) (later + (lines first).length) second =
      insertAtLine (insertAtLine t later second) index first := by
  rcases exists_cut (Nat.lt_of_lt_of_le hindex hlater) with
    ⟨before, after, hsplit, hwhole, hlength, hafter⟩
  have hplace : (lines before).length + (later - index) = later := by
    omega
  have hmoved : (lines (before ++ first)).length + (later - index) =
      later + (lines first).length := by
    rw [lines_append first hwhole, List.length_append]
    omega
  have hlaterAlone := insertAtLine_append (later - index) second hwhole hafter
  have hlaterLast := insertAtLine_append (later - index) second
    (isWhole_append hwhole hfirst) hafter
  rw [hplace] at hlaterAlone
  rw [hmoved, List.append_assoc] at hlaterLast
  rw [hsplit, insertAtLine_between first hwhole hlength hafter, hlaterLast, hlaterAlone,
    insertAtLine_between first hwhole hlength (insertAtLine_ne_nil _ second hafter),
    List.append_assoc]

/--
The parts of a text between which an insertion goes; the first part consists of the
lines before that place, the last of them completed.
-/
theorem exists_insertAtLine_eq
    {t : Text} {index : Nat} (hindex : index ≤ (lines t).length) :
    exists before after,
      isWhole before = true ∧ (lines before).length = index ∧
        List.Forall₂ Alike (lines t) (lines before ++ lines after) ∧
        forall inserted, insertAtLine t index inserted = before ++ (inserted ++ after) := by
  rcases Nat.lt_or_eq_of_le hindex with hlt | heq
  · rcases exists_cut hlt with ⟨before, after, hsplit, hwhole, hlength, hafter⟩
    refine ⟨before, after, hwhole, hlength, ?_, ?_⟩
    · rw [hsplit, lines_append after hwhole]
      exact List.forall₂_same.mpr fun line _ => Alike.same line
    · intro inserted
      rw [hsplit]
      exact insertAtLine_between inserted hwhole hlength hafter
  · have halike := alike_lines_completed t
    refine ⟨completed t, [], isWhole_completed t, ?_, ?_, ?_⟩
    · rw [heq]
      exact halike.length_eq.symm
    · show List.Forall₂ Alike (lines t) (lines (completed t) ++ [])
      rw [List.append_nil]
      exact halike
    · intro inserted
      rw [insertAtLine_of_length_le inserted (Nat.le_of_eq heq.symm), List.append_nil]

end Text
end StubAssist

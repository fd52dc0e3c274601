import StubAssist.Proofs.Text.Lines

/-!
# Splices

An insertion at the start of a line cuts the text between two lines, and past the last
line it follows the completed text.  So whole lines come in as a block: the lines before
them keep their numbers, and those after them are as many further down as lines came in.
-/

namespace StubAssist
namespace Text

/-!
# Cuts
-/

/-- The first `index` lines of the text with their terminators, and the rest. -/
structure IsCut (t : Text) (index : Nat) (before after : Text) : Prop where
  split : t = before ++ after
  whole : isWhole before = true
  linesBefore : lines before = (lines t).take index
  linesAfter : lines after = (lines t).drop index

theorem isCut_zero (t : Text) :
    IsCut t 0 [] t := by
  constructor
  · rfl
  · rfl
  · rfl
  · rfl

theorem isCut_of_length
    {before after : Text} {index : Nat} (hwhole : isWhole before = true)
    (hlength : (lines before).length = index) :
    IsCut (before ++ after) index before after := by
  have hlines := lines_append after hwhole
  constructor
  · rfl
  · exact hwhole
  · rw [hlines, List.take_left' hlength]
  · rw [hlines, List.drop_left' hlength]

theorem exists_isCut
    {t : Text} {index : Nat} (hindex : index = 0 ∨ index < (lines t).length) :
    exists before after,
      IsCut t index before after ∧
        forall inserted, insertAtLine t index inserted = before ++ (inserted ++ after) := by
  rcases hindex with hzero | hlt
  · rw [hzero]
    exact ⟨[], t, isCut_zero t, insertAtLine_zero t⟩
  · rcases exists_cut hlt with ⟨before, after, hsplit, hwhole, hlength, hafter⟩
    rw [hsplit]
    exact ⟨before, after, isCut_of_length hwhole hlength, fun inserted =>
      insertAtLine_between inserted hwhole hlength hafter⟩

/-!
# Lines around an insertion
-/

theorem completed_eq (t : Text) :
    completed t =
      t ++ if t ≠ [] ∧ t.getLast? ≠ some '\n' then ['\n'] else [] := by
  unfold completed isWhole endsInNewline
  cases t with
  | nil =>
      rfl
  | cons c rest =>
      by_cases hlast : (c :: rest).getLast? = some '\n'
      · simp [hlast]
      · simp [hlast]

theorem exists_lines_insertAtLine
    {t : Text} {index : Nat} (hlast : t.getLast? ≠ some '\r')
    (hindex : index ≤ (lines t).length) :
    exists after,
      lines after = (lines t).drop index ∧
        forall inserted,
          lines (insertAtLine t index inserted) =
            (lines t).take index ++ lines (inserted ++ after) := by
  rcases Nat.lt_or_eq_of_le hindex with hlt | heq
  · rcases exists_isCut (Or.inr hlt) with ⟨before, after, hcut, hinsert⟩
    refine ⟨after, hcut.linesAfter, fun inserted => ?_⟩
    rw [hinsert, lines_append _ hcut.whole, hcut.linesBefore]
  · refine ⟨[], ?_, fun inserted => ?_⟩
    · rw [heq, List.drop_length]
      rfl
    · rw [insertAtLine_of_length_le inserted (Nat.le_of_eq heq.symm),
        lines_append _ (isWhole_completed t), lines_completed hlast, heq, List.take_length,
        List.append_nil]

theorem lines_insertAtLine
    {t inserted : Text} {index : Nat} (hlast : t.getLast? ≠ some '\r')
    (hindex : index ≤ (lines t).length) (hwhole : isWhole inserted = true) :
    lines (insertAtLine t index inserted) =
      (lines t).take index ++ (lines inserted ++ (lines t).drop index) := by
  rcases exists_lines_insertAtLine hlast hindex with ⟨after, hafter, hinsert⟩
  rw [hinsert, lines_append after hwhole, hafter]

/-!
# A last line that the next one joins
-/

theorem exists_pieces_cons (c : Char) (rest : Text) :
    exists piece more, pieces (c :: rest) = (c :: piece) :: more := by
  unfold pieces
  split
  · exact ⟨[], pieces rest, rfl⟩
  · split
    · exact ⟨[], [], rfl⟩
    · rename_i piece more _
      exact ⟨piece, more, rfl⟩

theorem pieces_append_of_not_mem
    {last after piece : Text} {more : List Text} (hnone : '\n' ∉ last)
    (hafter : pieces after = piece :: more) :
    pieces (last ++ after) = (last ++ piece) :: more := by
  induction last with
  | nil =>
      exact hafter
  | cons c last ih =>
      simp only [List.mem_cons, not_or] at hnone
      exact pieces_cons_of_pieces_cons (Ne.symm hnone.left) (ih hnone.right)

theorem dropTerminator_append
    {last piece : Text} (hnone : '\n' ∉ last) (hpiece : piece ≠ [])
    (hreturn : last.getLast? ≠ some '\r' ∨ piece ≠ ['\n']) :
    dropTerminator (last ++ piece) = last ++ dropTerminator piece := by
  induction last with
  | nil =>
      rfl
  | cons c last ih =>
      simp only [List.mem_cons, not_or] at hnone
      cases last with
      | nil =>
          rcases List.exists_cons_of_ne_nil hpiece with ⟨d, rest, hcons⟩
          rw [hcons] at hreturn ⊢
          rw [List.singleton_append, dropTerminator_cons]
          · rfl
          · by_cases hrest : rest = []
            · simpa [hrest] using hreturn
            · exact Or.inr (Or.inr hrest)
      | cons d last =>
          have hd : d ≠ '\n' := by
            intro hd
            rw [hd] at hnone
            exact hnone.right List.mem_cons_self
          rw [List.cons_append, List.cons_append, dropTerminator_cons (Or.inr (Or.inl hd)),
            ← List.cons_append, ih hnone.right (by simpa using hreturn)]
          rfl

theorem exists_lines_append_of_not_mem
    {last after next : Text} {more : List Text} (hnone : '\n' ∉ last)
    (hafter : lines after = next :: more) :
    exists joined,
      lines (last ++ after) = joined :: more ∧
        (joined = last ++ next ∨ next = [] ∧ last = joined ++ ['\r']) := by
  have hne : after ≠ [] := by
    intro hnil
    rw [hnil] at hafter
    cases hafter
  rcases exists_pieces_eq_cons hne with ⟨piece, rest, hpieces⟩
  have hpiece : piece ≠ [] := by
    intro hnil
    exact ne_nil_of_mem_pieces (hpieces ▸ List.mem_cons_self) hnil
  have hlines : next :: more = dropTerminator piece :: rest.map dropTerminator := by
    rw [← hafter, lines, hpieces]
    rfl
  rcases List.cons.inj hlines with ⟨hnext, hmore⟩
  refine ⟨dropTerminator (last ++ piece), ?_, ?_⟩
  · rw [lines, pieces_append_of_not_mem hnone hpieces, List.map_cons, hmore]
  · by_cases hlost : last.getLast? = some '\r' ∧ piece = ['\n']
    · -- the carriage return becomes a part of the terminator
      have hlast : last.dropLast ++ ['\r'] = last :=
        List.dropLast_append_getLast? _ hlost.left
      refine Or.inr ⟨by rw [hnext, hlost.right]; rfl, ?_⟩
      rw [hlost.right, ← hlast, List.append_assoc]
      show _ = dropTerminator (_ ++ ['\r', '\n']) ++ _
      rw [dropTerminator_append_return]
    · have hkept : last.getLast? ≠ some '\r' ∨ piece ≠ ['\n'] := by
        rw [← not_and_or]
        exact hlost
      exact Or.inl (by rw [dropTerminator_append hnone hpiece hkept, hnext])

theorem insertAtLine_min (t : Text) (index : Nat) (inserted : Text) :
    insertAtLine t (min index (lines t).length) inserted = insertAtLine t index inserted := by
  rcases Nat.le_total index (lines t).length with hle | hge
  · rw [Nat.min_eq_left hle]
  · rw [Nat.min_eq_right hge, insertAtLine_of_length_le inserted (Nat.le_refl _),
      insertAtLine_of_length_le inserted hge]

end Text

theorem getElem?_take_append_append_drop
    {α : Type} {items block : List α} {place : Nat} (hplace : place ≤ items.length)
    (index : Nat) :
    (items.take place ++ (block ++ items.drop place))[index]? =
      if index < place then items[index]?
      else if index < place + block.length then block[index - place]?
      else items[index - block.length]? := by
  have hlength : (items.take place).length = place := by
    rw [List.length_take, Nat.min_eq_left hplace]
  by_cases hbefore : index < place
  · rw [if_pos hbefore, List.getElem?_append_left (by rw [hlength]; exact hbefore),
      List.getElem?_take_of_lt hbefore]
  · rw [if_neg hbefore, List.getElem?_append_right (by omega), hlength]
    by_cases hinside : index < place + block.length
    · rw [if_pos hinside, List.getElem?_append_left (by omega)]
    · rw [if_neg hinside, List.getElem?_append_right (by omega), List.getElem?_drop]
      congr 1
      omega

namespace SourceBuffer

/-- What an insertion does to a buffer, said of its text and of its lines. -/
structure Splices (buffer : SourceBuffer) (index : Nat) (inserted : Text) : Prop where
  inside :
    index = 0 ∨ index < (Text.lines buffer.content).length ->
      exists before after,
        Text.IsCut buffer.content index before after ∧
          (buffer.insertAtLine index inserted).content = before ++ (inserted ++ after)
  past :
    ¬ (index = 0 ∨ index < (Text.lines buffer.content).length) ->
      (buffer.insertAtLine index inserted).content =
        buffer.content ++
          ((if buffer.content ≠ [] ∧ buffer.content.getLast? ≠ some '\n' then ['\n']
            else []) ++ inserted)
  lineAt :
    Text.isWhole inserted = true -> buffer.content.getLast? ≠ some '\r' ->
      forall number,
        (buffer.insertAtLine index inserted).lineAt number =
          if number < min index (Text.lines buffer.content).length then
            buffer.lineAt number
          else if number < min index (Text.lines buffer.content).length +
              (Text.lines inserted).length then
            (Text.lines inserted)[number - min index (Text.lines buffer.content).length]?
          else buffer.lineAt (number - (Text.lines inserted).length)
  ends :
    Text.isWhole inserted = true -> buffer.content.getLast? ≠ some '\r' ->
      forall number,
        (buffer.insertAtLine index inserted).lineAt number = none ↔
          (Text.lines buffer.content).length + (Text.lines inserted).length ≤ number

theorem lines_insertAtLine
    {buffer : SourceBuffer} {inserted : Text} (index : Nat)
    (hwhole : Text.isWhole inserted = true)
    (hlast : buffer.content.getLast? ≠ some '\r') :
    Text.lines (buffer.insertAtLine index inserted).content =
      (Text.lines buffer.content).take (min index (Text.lines buffer.content).length) ++
        (Text.lines inserted ++
          (Text.lines buffer.content).drop
            (min index (Text.lines buffer.content).length)) := by
  show Text.lines (Text.insertAtLine buffer.content index inserted) = _
  rw [← Text.insertAtLine_min]
  exact Text.lines_insertAtLine hlast (Nat.min_le_right _ _) hwhole

theorem insertAtLine_splices (buffer : SourceBuffer) (index : Nat) (inserted : Text) :
    buffer.Splices index inserted := by
  constructor
  · intro hindex
    rcases Text.exists_isCut hindex with ⟨before, after, hcut, hinsert⟩
    exact ⟨before, after, hcut, hinsert inserted⟩
  · intro hindex
    rw [not_or] at hindex
    show Text.insertAtLine buffer.content index inserted = _
    rw [Text.insertAtLine_of_length_le inserted (Nat.le_of_not_lt hindex.right),
      Text.completed_eq, List.append_assoc]
  · intro hwhole hlast number
    unfold SourceBuffer.lineAt
    rw [lines_insertAtLine index hwhole hlast]
    exact getElem?_take_append_append_drop (Nat.min_le_right _ _) number
  · intro hwhole hlast number
    unfold SourceBuffer.lineAt
    rw [lines_insertAtLine index hwhole hlast, List.getElem?_eq_none_iff]
    simp only [List.length_append, List.length_take, List.length_drop]
    omega

end SourceBuffer
end StubAssist

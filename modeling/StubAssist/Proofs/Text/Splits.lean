import StubAssist.Text

/-!
# Splits

Around which occurrence of a separator a text is split.
-/

namespace StubAssist
namespace Text

theorem splitLast_eq_none_iff {sep : Char} {t : Text} :
    splitLast sep t = none ↔ sep ∉ t := by
  induction t with
  | nil =>
      simp [splitLast]
  | cons c rest ih =>
      rw [splitLast, List.mem_cons, not_or]
      cases hrest : splitLast sep rest with
      | some parts =>
          rw [hrest] at ih
          simpa using fun _ => ih
      | none =>
          simp [ih.mp hrest, eq_comm]

theorem splitLast_append
    {sep : Char} (before : Text) {after : Text} (hafter : sep ∉ after) :
    splitLast sep (before ++ sep :: after) = some (before, after) := by
  induction before with
  | nil =>
      rw [List.nil_append, splitLast, splitLast_eq_none_iff.mpr hafter]
      exact if_pos rfl
  | cons c before ih =>
      rw [List.cons_append, splitLast, ih]

theorem eq_append_of_splitLast
    {sep : Char} {t before after : Text} (hsplit : splitLast sep t = some (before, after)) :
    t = before ++ sep :: after ∧ sep ∉ after := by
  induction t generalizing before with
  | nil =>
      cases hsplit
  | cons c rest ih =>
      rw [splitLast] at hsplit
      cases hrest : splitLast sep rest with
      | some parts =>
          rcases parts with ⟨earlier, later⟩
          rw [hrest] at hsplit
          cases hsplit
          rcases ih hrest with ⟨hcons, hnone⟩
          exact ⟨by rw [hcons]; rfl, hnone⟩
      | none =>
          rw [hrest] at hsplit
          dsimp only at hsplit
          split at hsplit
          · rename_i hc
            cases hsplit
            exact ⟨by rw [hc]; rfl, splitLast_eq_none_iff.mp hrest⟩
          · cases hsplit

theorem splitLast_eq_some_iff {sep : Char} {t before after : Text} :
    splitLast sep t = some (before, after) ↔ t = before ++ sep :: after ∧ sep ∉ after := by
  constructor
  · exact eq_append_of_splitLast
  · rintro ⟨hsplit, hafter⟩
    rw [hsplit]
    exact splitLast_append before hafter

theorem splitFirst_append
    {sep : Char} {before : Text} (after : Text) (hbefore : sep ∉ before) :
    splitFirst sep (before ++ sep :: after) = some (before, after) := by
  induction before with
  | nil =>
      exact if_pos rfl
  | cons c before ih =>
      rw [List.mem_cons, not_or] at hbefore
      rw [List.cons_append, splitFirst, if_neg (Ne.symm hbefore.1), ih hbefore.2]
      rfl

end Text
end StubAssist

import StubAssist.Proofs.Text.Lines

/-!
# Numbers and sizes

A word is read back from its decimal numeral.  The size of a text bounds the number of
its lines, and so whatever counts them.
-/

namespace StubAssist
namespace Text

/-!
# Numerals
-/

theorem isDigit_of_mem_ofNat {n : Nat} {c : Char} (hmem : c ∈ ofNat n) :
    c.isDigit = true :=
  Nat.isDigit_of_mem_toDigits (by decide) (by decide) hmem

theorem not_mem_ofNat {c : Char} (n : Nat) (hc : c.isDigit = false) :
    c ∉ ofNat n := by
  intro hmem
  rw [isDigit_of_mem_ofNat hmem] at hc
  cases hc

theorem digitsFrom?_of_forall_isDigit
    {t : Text} (n : Nat) (hdigits : forall c, c ∈ t -> c.isDigit = true) :
    digitsFrom? n t = some (Nat.ofDigitChars 10 t n) := by
  induction t generalizing n with
  | nil =>
      rfl
  | cons c t ih =>
      have hdigit : digit? c = some (c.toNat - '0'.toNat) :=
        if_pos (hdigits c List.mem_cons_self)
      rw [digitsFrom?, hdigit, Option.bind_some, Nat.ofDigitChars_cons,
        ih _ fun d hd => hdigits d (List.mem_cons_of_mem c hd)]

theorem toWord?_ofNat {n : Nat} (hword : n < wordLimit) :
    toWord? (ofNat n) = some n := by
  have hvalue : digitsFrom? 0 (ofNat n) = some n := by
    rw [digitsFrom?_of_forall_isDigit 0 fun c hc => isDigit_of_mem_ofNat hc]
    exact congrArg some (Nat.ofDigitChars_toDigits (by decide) (by decide))
  have hne : ofNat n ≠ [] := Nat.toDigits_ne_nil
  rcases List.exists_cons_of_ne_nil hne with ⟨c, rest, hcons⟩
  have hplus : c ≠ '+' := by
    intro hsame
    exact not_mem_ofNat n (c := '+') rfl (hcons ▸ hsame ▸ List.mem_cons_self)
  rw [hcons] at hvalue ⊢
  unfold toWord?
  split
  · rename_i digits hdigits
    exact absurd (List.cons.inj hdigits).1 hplus
  · simp [hvalue, hword]

/-!
# Words that are counted up
-/

def nextWord? (n : Nat) : Option Nat :=
  if n + 1 < wordLimit then some (n + 1) else none

theorem nextWord?_of_lt {n : Nat} (hlimit : n + 1 < wordLimit) :
    nextWord? n = some (n + 1) :=
  if_pos hlimit

/-!
# Sizes
-/

/-- One past the largest number of bytes that a text in memory has. -/
def sizeLimit : Nat := Nat.pow 2 63

theorem foldl_utf8Size (t : Text) (n : Nat) :
    t.foldl (fun n c => n + c.utf8Size) n = n + byteSize t := by
  induction t generalizing n with
  | nil =>
      rfl
  | cons c t ih =>
      rw [byteSize, List.foldl_cons, List.foldl_cons, ih, ih, Nat.zero_add, Nat.add_assoc]

theorem byteSize_append (before after : Text) :
    byteSize (before ++ after) = byteSize before + byteSize after := by
  rw [byteSize, List.foldl_append, foldl_utf8Size]
  rfl

theorem byteSize_append_le (before after : Text) :
    byteSize before ≤ byteSize (before ++ after) := by
  rw [byteSize_append]
  exact Nat.le_add_right _ _

theorem length_le_byteSize (t : Text) :
    t.length ≤ byteSize t := by
  induction t with
  | nil =>
      exact Nat.le_refl 0
  | cons c t ih =>
      have hc := c.utf8Size_pos
      rw [byteSize, List.foldl_cons, foldl_utf8Size, List.length_cons]
      omega

theorem length_lines_le_length (t : Text) :
    (lines t).length ≤ t.length := by
  induction t with
  | nil =>
      exact Nat.le_refl 0
  | cons c t ih =>
      by_cases hc : c = '\n'
      · rw [hc, lines_cons_newline]
        exact Nat.succ_le_succ ih
      · by_cases hnil : t = []
        · rw [hnil, lines, (pieces_of_not_mem (by simpa using Ne.symm hc) (by simp)).left]
          exact Nat.le_refl 1
        · rw [length_lines_cons hc hnil]
          exact Nat.le_succ_of_le ih

theorem length_lines_le_byteSize (t : Text) :
    (lines t).length ≤ byteSize t :=
  Nat.le_trans (length_lines_le_length t) (length_le_byteSize t)

end Text
end StubAssist

import StubAssist.Text

/-!
# Entries

In a list of names and what they stand for, the first entry of a name counts.
-/

namespace StubAssist

variable {α : Type}

theorem lookup_replaced (name sought : Text) (new : α) (entries : List (Text × α)) :
    (entries.map fun entry => if entry.1 == name then (name, new) else entry).lookup sought =
      if sought = name then (entries.lookup name).map fun _ => new
      else entries.lookup sought := by
  induction entries with
  | nil =>
      split <;> rfl
  | cons entry rest ih =>
      rw [List.map_cons, List.lookup_cons, List.lookup_cons, List.lookup_cons, ih]
      by_cases hsought : sought = name
      · by_cases hentry : entry.1 = name
        · simp [hentry, hsought]
        · simp [hentry, hsought, beq_false_of_ne (Ne.symm hentry)]
      · by_cases hentry : entry.1 = name
        · simp [hentry, hsought, beq_false_of_ne hsought]
        · simp [hentry, hsought]

theorem lookup_replaced_or_appended
    (name sought : Text) (new : α) (entries : List (Text × α)) :
    (if (entries.lookup name).isSome then
        entries.map fun entry => if entry.1 == name then (name, new) else entry
      else entries ++ [(name, new)]).lookup sought =
      if sought = name then some new else entries.lookup sought := by
  cases hfound : entries.lookup name with
  | some old =>
      rw [Option.isSome_some, if_pos rfl, lookup_replaced, hfound]
      rfl
  | none =>
      rw [Option.isSome_none, if_neg Bool.false_ne_true, List.lookup_append]
      by_cases hsought : sought = name
      · simp [hsought, hfound]
      · simp [hsought, List.lookup_cons, beq_false_of_ne hsought]

end StubAssist

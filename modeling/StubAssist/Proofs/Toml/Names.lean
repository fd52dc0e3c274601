import Mathlib.Data.List.DropRight
import StubAssist.Proofs.Settings.KeySearch
import StubAssist.Proofs.Toml.Layout

/-!
# Names of entries

The first name of an entry stands where the statement begins.  A name without quotes goes
as far as its characters do, so a line that has such a name and an equals sign, with
blanks at most between them, is an entry of that name.
-/

namespace StubAssist
namespace Toml

structure IsBareName (name : Text) : Prop where
  ne_nil : name ≠ []
  isBareKeyChar : forall c, c ∈ name -> isBareKeyChar c = true

theorem isBlank_eq_false_of_isBareKeyChar
    {c : Char} (hc : isBareKeyChar c = true) :
    Text.isBlank c = false := by
  have hkey : ((((decide (c.val ≥ 'A'.val ∧ c.val ≤ 'Z'.val) ||
      (decide (c.val ≥ 'a'.val) && decide (c.val ≤ 'z'.val))) ||
      (decide (c.val ≥ '0'.val) && decide (c.val ≤ '9'.val))) ||
      c == '_') || c == '-') = true :=
    hc
  -- every blank comes before the dash or after all of ASCII
  have hrange : 45 ≤ c.toNat ∧ c.toNat ≤ 122 := by
    simp only [Bool.or_eq_true, Bool.and_eq_true, decide_eq_true_eq, beq_iff_eq] at hkey
    rcases hkey with (((hupper | hlower) | hdigit) | hunderscore) | hdash
    · exact ⟨Nat.le_trans (by decide) hupper.1, Nat.le_trans hupper.2 (by decide)⟩
    · exact ⟨Nat.le_trans (by decide) hlower.1, Nat.le_trans hlower.2 (by decide)⟩
    · exact ⟨Nat.le_trans (by decide) hdigit.1, Nat.le_trans hdigit.2 (by decide)⟩
    · rw [hunderscore]
      decide
    · rw [hdash]
      decide
  simp [Text.isBlank]
  omega

/-!
# Spans
-/

theorem withSpan_eq_some_iff
    {α : Type} {reader : Reader α} {total : Nat} {t rest : Text} {span : Span} {a : α} :
    withSpan total reader t = some ((span, a), rest) <->
      reader t = some (a, rest) ∧
        span = ⟨total - Text.byteSize t, Text.byteSize t - Text.byteSize rest⟩ := by
  have hspan : withSpan total reader t = (reader t).map fun step =>
      ((⟨total - Text.byteSize t, Text.byteSize t - Text.byteSize step.2⟩, step.1), step.2) := by
    show (reader t).bind _ = _
    cases reader t <;> rfl
  rw [hspan, Option.map_eq_some_iff]
  constructor
  · rintro ⟨⟨b, rest'⟩, hread, hstep⟩
    cases hstep
    exact ⟨hread, rfl⟩
  · rintro ⟨hread, hspan⟩
    exact ⟨(a, rest), hread, by rw [hspan]⟩

/-!
# Dotted keys
-/

/-- The key whose name is read from `t` as far as `left`. -/
def keyAt (total : Nat) (t left name : Text) : Key :=
  ⟨name, ⟨total - Text.byteSize t, Text.byteSize t - Text.byteSize left⟩⟩

theorem readNames_eq_some
    {total limit : Nat} {t rest : Text} {names : List Key}
    (hread : readNames total limit t = some (names, rest)) :
    exists name left,
      readName (t.dropWhile isSpaceOrTab) = some (name, left) ∧
        ((exists more, more ≠ [] ∧
            names = keyAt total (t.dropWhile isSpaceOrTab) left name :: more ∧
            (left.dropWhile isSpaceOrTab).head? = some '.') ∨
          (names = [keyAt total (t.dropWhile isSpaceOrTab) left name] ∧
            rest = left.dropWhile isSpaceOrTab)) := by
  induction limit generalizing t names with
  | zero =>
      cases hread
  | succ limit ih =>
      rcases read_bind_iff.mp hread with ⟨_, t₁, hskip, hnext⟩
      cases hskip
      rcases read_bind_iff.mp hnext with ⟨⟨span, name⟩, left, hname, hnext⟩
      rcases read_bind_iff.mp hnext with ⟨_, t₂, hskip, hnext⟩
      cases hskip
      rcases withSpan_eq_some_iff.mp hname with ⟨hname, hspan⟩
      refine ⟨name, left, hname, ?_⟩
      have hkey : keyAt total (t.dropWhile isSpaceOrTab) left name = ⟨name, span⟩ := by
        rw [hspan]
        rfl
      rw [read_bind, read_get, Option.bind_some] at hnext
      split at hnext
      · rename_i hdot
        rcases read_bind_iff.mp hnext with ⟨_, t₃, _, hnext⟩
        rcases read_bind_iff.mp hnext with ⟨more, t₄, hmore, hlast⟩
        cases hlast
        refine Or.inl ⟨more, ?_, by rw [hkey], beq_iff_eq.mp hdot⟩
        rcases ih hmore with ⟨name', left', _, ⟨_, _, hmore', _⟩ | ⟨hmore', _⟩⟩
        · rw [hmore']
          exact List.cons_ne_nil _ _
        · rw [hmore']
          exact List.cons_ne_nil _ _
      · cases hnext
        exact Or.inr ⟨by rw [hkey], rfl⟩

theorem readContent_entry
    {total : Nat} {t rest : Text} {content : Content}
    (hread : readContent total t = some (content, rest)) (hbracket : t.head? ≠ some '[')
    (hspace : forall c, t.head? = some c -> isSpaceOrTab c = false) :
    exists path key value name left,
      content = .entry path key value ∧ readName t = some (name, left) ∧
        ((path ≠ [] ∧ (left.dropWhile isSpaceOrTab).head? = some '.') ∨
          (path = [] ∧ key = keyAt total t left name ∧
            (left.dropWhile isSpaceOrTab).head? = some '=')) := by
  have hdrop : t.dropWhile isSpaceOrTab = t := by
    cases t with
    | nil => rfl
    | cons c t => exact List.dropWhile_cons_of_neg (by rw [hspace c rfl]; exact Bool.false_ne_true)
  rw [readContent, read_bind, read_get, Option.bind_some] at hread
  rw [if_neg (by simpa using hbracket)] at hread
  rcases read_bind_iff.mp hread with ⟨⟨path, key, value⟩, rest', hentry, hlast⟩
  cases hlast
  rcases read_bind_iff.mp hentry with ⟨⟨path', key'⟩, t₁, hkey, hnext⟩
  rcases read_bind_iff.mp hnext with ⟨_, t₂, hskip, hnext⟩
  cases hskip
  rcases read_bind_iff.mp hnext with ⟨_, t₃, hexpect, hnext⟩
  rcases read_bind_iff.mp hnext with ⟨_, t₄, hskip, hnext⟩
  rcases read_bind_iff.mp hnext with ⟨value', t₅, hvalue, hlast⟩
  cases hlast
  rcases read_bind_iff.mp hkey with ⟨names, t₆, hnames, hlast⟩
  rcases readNames_eq_some hnames with ⟨name, left, hname, hsingle⟩
  rw [hdrop] at hname hsingle
  refine ⟨path, key, value, name, left, rfl, hname, ?_⟩
  rcases hsingle with ⟨more, hmore, hdotted, hdot⟩ | ⟨hsingle, hleft⟩
  · refine Or.inl ⟨?_, hdot⟩
    cases hget : names.getLast? with
    | none =>
        rw [hget] at hlast
        cases hlast
    | some last =>
        rw [hget] at hlast
        cases hlast
        rw [hdotted, List.dropLast_cons_of_ne_nil hmore]
        exact List.cons_ne_nil _ _
  · rw [hsingle] at hlast
    cases hlast
    refine Or.inr ⟨rfl, rfl, ?_⟩
    rcases Option.map_eq_some_iff.mp hexpect with ⟨after, hequals, _⟩
    rw [KeySpan.afterPrefix?_eq_some_iff, hleft, List.dropWhile_idempotent] at hequals
    rw [hequals]
    rfl

theorem exists_name_of_entry
    {total : Nat} {t rest : Text} {key : Key} {value : Span × Value}
    (hread : readContent total t = some (.entry [] key value, rest))
    (hspace : forall c, t.head? = some c -> isSpaceOrTab c = false) :
    exists name left,
      readName t = some (name, left) ∧ key = keyAt total t left name ∧
        (left.dropWhile isSpaceOrTab).head? = some '=' := by
  have hbracket : t.head? ≠ some '[' := by
    intro hbracket
    rw [readContent, read_bind, read_get, Option.bind_some, if_pos (by rw [hbracket]; rfl)] at hread
    rcases read_bind_iff.mp hread with ⟨⟨span, doubled, path, key⟩, rest', _, hlast⟩
    cases hlast
  rcases readContent_entry hread hbracket hspace with
    ⟨path, key', value', name, left, hcontent, hname, ⟨hpath, _⟩ | ⟨_, hkey, hequals⟩⟩
  · cases hcontent
    exact absurd rfl hpath
  · cases hcontent
    exact ⟨name, left, hname, hkey, hequals⟩

/-!
# Names without quotes
-/

theorem readName_eq_of_isBareName
    {name after : Text} (hname : IsBareName name)
    (hafter : forall c, after.head? = some c -> isBareKeyChar c = false) :
    readName (name ++ after) = some (name, after) := by
  rcases List.exists_cons_of_ne_nil hname.ne_nil with ⟨c, rest, hcons⟩
  have hc := hname.isBareKeyChar c (hcons ▸ List.mem_cons_self)
  have htake : (name ++ after).takeWhile isBareKeyChar = name := by
    rw [List.takeWhile_append_of_pos hname.isBareKeyChar]
    cases after with
    | nil => exact List.append_nil name
    | cons d after =>
        rw [List.takeWhile_cons_of_neg (by rw [hafter d rfl]; exact Bool.false_ne_true),
          List.append_nil]
  unfold readName
  split
  · rename_i hquote
    rw [hcons] at hquote
    cases hquote
    cases hc
  · rename_i hquote
    rw [hcons] at hquote
    cases hquote
    cases hc
  · simp only [htake]
    rw [if_neg (by simpa using hname.ne_nil), List.drop_left]

theorem eq_append_of_readName
    {t left name : Text} {c : Char} (hread : readName t = some (name, left))
    (hhead : t.head? = some c) (hc : isBareKeyChar c = true) :
    t = name ++ left := by
  unfold readName at hread
  split at hread
  · cases hhead
    cases hc
  · cases hhead
    cases hc
  · dsimp only at hread
    split at hread
    · cases hread
    · cases hread
      exact (List.prefix_iff_eq_append.mp (List.takeWhile_prefix isBareKeyChar)).symm

theorem head?_of_readName
    {t left name : Text} {c : Char} (hread : readName t = some (name, left))
    (hhead : t.head? = some c) :
    Text.isBlank c = false ∧ c ≠ '[' := by
  rcases List.head?_eq_some_iff.mp hhead with ⟨rest, hrest⟩
  rw [hrest] at hread
  unfold readName at hread
  split at hread
  · rename_i hquote
    cases hquote
    decide
  · rename_i hquote
    cases hquote
    decide
  · dsimp only at hread
    split at hread
    · cases hread
    · rename_i hbare
      have hc : isBareKeyChar c = true := by
        by_contra hc
        rw [List.takeWhile_cons_of_neg hc] at hbare
        exact hbare rfl
      refine ⟨isBlank_eq_false_of_isBareKeyChar hc, ?_⟩
      intro hbracket
      rw [hbracket] at hc
      cases hc

end Toml
end StubAssist

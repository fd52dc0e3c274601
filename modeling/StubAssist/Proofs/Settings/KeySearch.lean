import StubAssist.Proofs.Text.Numbers
import StubAssist.Proofs.Text.Words
import StubAssist.Settings.KeySpan

/-!
# The search for a key

The search goes through the pieces of a text and takes the first that sets the key.
The offset it carries along is the size of the pieces passed over, so the span it
answers with covers the key in the text.
-/

namespace StubAssist
namespace Toml

def Span.Covers (span : Span) (source part : Text) : Prop :=
  exists before after,
    source = before ++ part ++ after ∧ span = ⟨Text.byteSize before, Text.byteSize part⟩

theorem Span.Covers.end_le
    {span : Span} {source part : Text} (hcovers : span.Covers source part) :
    span.offset + span.length ≤ Text.byteSize source := by
  rcases hcovers with ⟨before, after, hsource, hspan⟩
  rw [hsource, hspan, ← Text.byteSize_append]
  exact Text.byteSize_append_le _ _

end Toml

namespace KeySpan

open Toml (Span)
open Text (isBlank pieces byteSize)

def AllBlank (t : Text) : Prop :=
  forall c, c ∈ t -> isBlank c = true

structure IsKey (key : Text) : Prop where
  ne_nil : key ≠ []
  isBlank_eq_false : forall c, c ∈ key -> isBlank c = false
  ne_equals : forall c, c ∈ key -> c ≠ '='

theorem isKey_iff (key : Text) :
    key ≠ [] ∧ key.all (fun c => !isBlank c && c != '=') = true <-> IsKey key := by
  rw [List.all_eq_true]
  constructor
  · rintro ⟨hne, hall⟩
    refine ⟨hne, ?_, ?_⟩
    · intro c hc
      have hboth := hall c hc
      simp only [Bool.and_eq_true, Bool.not_eq_true'] at hboth
      exact hboth.1
    · intro c hc
      have hboth := hall c hc
      simp only [Bool.and_eq_true, bne_iff_ne] at hboth
      exact hboth.2
  · intro hkey
    refine ⟨hkey.ne_nil, ?_⟩
    intro c hc
    simp [hkey.isBlank_eq_false c hc, hkey.ne_equals c hc]

instance (key : Text) : Decidable (IsKey key) :=
  decidable_of_iff _ (isKey_iff key)

/-- The piece is `indent`, the key, blanks and an equals sign with anything after it. -/
def SetsAfter (key indent piece : Text) : Prop :=
  AllBlank indent ∧
    exists gap after, AllBlank gap ∧ piece = indent ++ key ++ gap ++ '=' :: after

def Sets (key piece : Text) : Prop :=
  exists indent, SetsAfter key indent piece

/-!
# One piece
-/

theorem afterPrefix?_eq_some_iff {start t rest : Text} :
    Text.afterPrefix? start t = some rest ↔ t = start ++ rest := by
  induction start generalizing t with
  | nil =>
      rw [Text.afterPrefix?, Option.some.injEq]
      rfl
  | cons a start ih =>
      cases t with
      | nil =>
          simp [Text.afterPrefix?]
      | cons c t =>
          rw [Text.afterPrefix?]
          split
          · rename_i hsame
            rw [ih, hsame]
            simp
          · rename_i hother
            simp [Ne.symm hother]

theorem exists_trimStart (t : Text) :
    exists indent, AllBlank indent ∧ t = indent ++ Text.trimStart t := by
  refine ⟨t.takeWhile isBlank, ?_, List.takeWhile_append_dropWhile.symm⟩
  intro c hc
  exact List.mem_takeWhile_imp hc

theorem trimStart_append
    {indent t : Text} (hindent : AllBlank indent)
    (hhead : forall c, t.head? = some c -> isBlank c = false) :
    Text.trimStart (indent ++ t) = t := by
  rw [Text.trimStart, List.dropWhile_append_of_pos hindent]
  exact Text.trimStart_of_head? hhead

theorem IsKey.head?_append
    {key : Text} (hkey : IsKey key) (rest : Text) :
    forall c, (key ++ rest).head? = some c -> isBlank c = false := by
  rcases List.exists_cons_of_ne_nil hkey.ne_nil with ⟨first, more, hcons⟩
  intro c hc
  rw [hcons] at hc
  cases hc
  exact hkey.isBlank_eq_false first (by rw [hcons]; exact List.mem_cons_self)

theorem isBlank_equals (after : Text) :
    forall c, ('=' :: after).head? = some c -> isBlank c = false := by
  intro c hc
  cases hc
  decide

theorem indentIn?_eq_some_iff
    {key piece : Text} {size : Nat} (hkey : IsKey key) :
    indentIn? key piece = some size ↔
      exists indent, SetsAfter key indent piece ∧ byteSize indent = size := by
  constructor
  · intro hsize
    rcases exists_trimStart piece with ⟨indent, hindent, hpiece⟩
    simp only [indentIn?] at hsize
    split at hsize
    · cases hsize
    · rename_i rest hrest
      rw [afterPrefix?_eq_some_iff] at hrest
      rcases exists_trimStart rest with ⟨gap, hgap, hsplit⟩
      split at hsize
      · rename_i hequals
        rw [beq_iff_eq] at hequals
        rcases List.head?_eq_some_iff.mp hequals with ⟨after, hafter⟩
        rw [hafter] at hsplit
        refine ⟨indent, ⟨hindent, gap, after, hgap, ?_⟩, ?_⟩
        · rw [hpiece, hrest, hsplit, List.append_assoc, List.append_assoc]
        · have htotal := congrArg byteSize hpiece
          rw [Text.byteSize_append] at htotal
          have hsize := Option.some.inj hsize
          omega
      · cases hsize
  · rintro ⟨indent, ⟨hindent, gap, after, hgap, hpiece⟩, hsize⟩
    have htrimmed : Text.trimStart piece = key ++ (gap ++ '=' :: after) := by
      rw [hpiece, List.append_assoc, List.append_assoc]
      exact trimStart_append hindent (hkey.head?_append _)
    have hrest := afterPrefix?_eq_some_iff.mpr htrimmed
    have hequals := trimStart_append hgap (isBlank_equals after)
    have hbytes : byteSize piece = byteSize indent + byteSize (Text.trimStart piece) := by
      rw [htrimmed, ← Text.byteSize_append, hpiece, List.append_assoc, List.append_assoc]
    simp only [indentIn?, hrest, hequals, List.head?_cons, beq_self_eq_true, if_true]
    rw [hbytes, Nat.add_sub_cancel, hsize]

theorem indentIn?_eq_none_iff {key piece : Text} (hkey : IsKey key) :
    indentIn? key piece = none ↔ ¬ Sets key piece := by
  rw [← Option.not_isSome_iff_eq_none, Option.isSome_iff_exists]
  apply not_congr
  constructor
  · rintro ⟨size, hsize⟩
    rcases (indentIn?_eq_some_iff hkey).mp hsize with ⟨indent, hsets, _⟩
    exact ⟨indent, hsets⟩
  · rintro ⟨indent, hsets⟩
    exact ⟨byteSize indent, (indentIn?_eq_some_iff hkey).mpr ⟨indent, hsets, rfl⟩⟩

theorem not_sets_of_longer
    {key longer piece : Text} (hkey : IsKey key) (hlonger : IsKey longer)
    (hbegins : key <+: longer) (hne : longer ≠ key) (hsets : Sets longer piece) :
    ¬ Sets key piece := by
  rcases hbegins with ⟨more, hmore⟩
  have hmore_ne : more ≠ [] := by
    intro hnil
    rw [hnil, List.append_nil] at hmore
    exact hne hmore.symm
  rcases List.exists_cons_of_ne_nil hmore_ne with ⟨c, others, hcons⟩
  have hc : c ∈ longer := by
    rw [← hmore, hcons]
    exact List.mem_append_right key List.mem_cons_self
  rintro ⟨indent, hindent, gap, after, hgap, hpiece⟩
  rcases hsets with ⟨indent', hindent', gap', after', _, hpiece'⟩
  -- both readings of the piece begin with the same blanks and the same key
  have hshort : Text.trimStart piece = key ++ (gap ++ '=' :: after) := by
    rw [hpiece, List.append_assoc, List.append_assoc]
    exact trimStart_append hindent (hkey.head?_append _)
  have hlong : Text.trimStart piece = key ++ (c :: others ++ (gap' ++ '=' :: after')) := by
    rw [hpiece', List.append_assoc, List.append_assoc,
      trimStart_append hindent' (hlonger.head?_append _), ← hmore, hcons, List.append_assoc]
  rw [hshort, List.append_cancel_left_eq] at hlong
  cases gap with
  | nil =>
      exact hlonger.ne_equals c hc (List.cons.inj hlong).1.symm
  | cons blank gap =>
      have hblank := hgap blank List.mem_cons_self
      rw [(List.cons.inj hlong).1, hlonger.isBlank_eq_false c hc] at hblank
      cases hblank

/-!
# All pieces
-/

/-- The span is that of the key in the first of the pieces that sets it. -/
def IsFirstSetting (key : Text) (offset : Nat) (texts : List Text) (span : Span) : Prop :=
  exists skipped indent piece more,
    texts = skipped ++ piece :: more ∧
      (forall earlier, earlier ∈ skipped -> ¬ Sets key earlier) ∧
      SetsAfter key indent piece ∧
      span = ⟨offset + byteSize (skipped.flatten ++ indent), byteSize key⟩

theorem findIn_eq_some_iff
    {key : Text} {offset : Nat} {texts : List Text} {span : Span} (hkey : IsKey key) :
    findIn key offset texts = some span ↔ IsFirstSetting key offset texts span := by
  induction texts generalizing offset with
  | nil =>
      constructor
      · intro hnone
        cases hnone
      · rintro ⟨skipped, indent, piece, more, htexts, _⟩
        exact absurd htexts (by simp)
  | cons first texts ih =>
      rw [findIn]
      split
      · rename_i size hsize
        rcases (indentIn?_eq_some_iff hkey).mp hsize with ⟨indent, hsets, hbytes⟩
        constructor
        · intro hspan
          refine ⟨[], indent, first, texts, rfl, ?_, hsets, ?_⟩
          · intro earlier hearlier
            cases hearlier
          · rw [← Option.some.inj hspan, ← hbytes]
            rfl
        · rintro ⟨skipped, indent', piece, more, htexts, hskipped, hsets', hspan⟩
          cases skipped with
          | nil =>
              cases htexts
              have hsize' := (indentIn?_eq_some_iff hkey).mpr ⟨indent', hsets', rfl⟩
              rw [hsize, Option.some.injEq] at hsize'
              rw [hspan, hsize']
              rfl
          | cons passed skipped =>
              cases htexts
              exact absurd ⟨indent, hsets⟩ (hskipped first List.mem_cons_self)
      · rename_i hnone
        have hfirst := (indentIn?_eq_none_iff hkey).mp hnone
        -- the first piece sets nothing, so it is one of those that are skipped
        rw [ih]
        constructor
        · rintro ⟨skipped, indent, piece, more, htexts, hskipped, hsets, hspan⟩
          refine ⟨first :: skipped, indent, piece, more, by rw [htexts]; rfl, ?_, hsets, ?_⟩
          · intro earlier hearlier
            rcases List.mem_cons.mp hearlier with hsame | hlater
            · rw [hsame]
              exact hfirst
            · exact hskipped earlier hlater
          · rw [hspan, List.flatten_cons, List.append_assoc, Text.byteSize_append first,
              Nat.add_assoc]
        · rintro ⟨skipped, indent, piece, more, htexts, hskipped, hsets, hspan⟩
          cases skipped with
          | nil =>
              cases htexts
              exact absurd ⟨indent, hsets⟩ hfirst
          | cons passed skipped =>
              cases htexts
              refine ⟨skipped, indent, piece, more, rfl, ?_, hsets, ?_⟩
              · intro earlier hearlier
                exact hskipped earlier (List.mem_cons_of_mem first hearlier)
              · rw [hspan, List.flatten_cons, List.append_assoc, Text.byteSize_append first,
                  Nat.add_assoc]

theorem findIn_eq_none_iff
    {key : Text} {offset : Nat} {texts : List Text} (hkey : IsKey key) :
    findIn key offset texts = none ↔ forall piece, piece ∈ texts -> ¬ Sets key piece := by
  induction texts generalizing offset with
  | nil =>
      simp [findIn]
  | cons first texts ih =>
      rw [findIn, List.forall_mem_cons, ← indentIn?_eq_none_iff hkey]
      cases indentIn? key first with
      | none =>
          simpa using ih
      | some size =>
          simp

/-!
# The rest of a text
-/

theorem IsFirstSetting.covers
    {key before rest : Text} {span : Span}
    (hfirst : IsFirstSetting key (byteSize before) (pieces rest) span) :
    span.Covers (before ++ rest) key ∧ byteSize before ≤ span.offset := by
  rcases hfirst with ⟨skipped, indent, piece, more, hpieces, _, hsets, hspan⟩
  rcases hsets with ⟨_, gap, after, _, hpiece⟩
  have hrest : rest = skipped.flatten ++ (piece ++ more.flatten) := by
    rw [← Text.flatten_pieces rest, hpieces, List.flatten_append, List.flatten_cons]
  rw [hspan]
  constructor
  · refine ⟨before ++ (skipped.flatten ++ indent), gap ++ '=' :: after ++ more.flatten, ?_, ?_⟩
    · rw [hrest, hpiece]
      simp only [List.append_assoc]
    · rw [Text.byteSize_append before]
  · exact Nat.le_add_right _ _

/-- What the search for a key comes to in a text, after its part `before`. -/
structure FindsFirst (key before rest : Text) : Prop where
  found : forall span,
    findAfter key before rest = some span ↔
      IsFirstSetting key (byteSize before) (pieces rest) span
  isSome : (findAfter key before rest).isSome = true ↔
    exists piece, piece ∈ pieces rest ∧ Sets key piece
  covers : forall span, findAfter key before rest = some span ->
    span.Covers (before ++ rest) key ∧ byteSize before ≤ span.offset ∧
      span.offset + span.length ≤ byteSize (before ++ rest)
  whole : forall longer piece, IsKey longer -> key <+: longer -> longer ≠ key ->
    Sets longer piece -> indentIn? key piece = none

/--
The search finds a key exactly if some piece sets it, and then its first place in the
first such piece, where the text has the key and not a longer one.
-/
theorem findAfter_findsFirst
    {key : Text} (before rest : Text) (hkey : IsKey key) :
    FindsFirst key before rest := by
  constructor
  · intro span
    exact findIn_eq_some_iff hkey
  · rw [← not_iff_not, Bool.not_eq_true, Option.isSome_eq_false_iff, Option.isNone_iff_eq_none,
      findAfter, findIn_eq_none_iff hkey]
    simp
  · intro span hspan
    have hcovers := ((findIn_eq_some_iff hkey).mp hspan).covers
    exact ⟨hcovers.1, hcovers.2, hcovers.1.end_le⟩
  · intro longer piece hlonger hbegins hne hsets
    exact (indentIn?_eq_none_iff hkey).mpr
      (not_sets_of_longer hkey hlonger hbegins hne hsets)

theorem findAfter_findsFirst_spaced :
    IsKey "tool" ∧
      FindsFirst "tool" "größe = 1\n" "toolbox = 1\n\u3000tool\u00a0 = \"é\"\ntool = 2\n" ∧
      findAfter "tool" "größe = 1\n"
          "toolbox = 1\n\u3000tool\u00a0 = \"é\"\ntool = 2\n" =
        some ⟨27, 4⟩ := by
  have hkey : IsKey "tool" := by decide
  exact ⟨hkey, findAfter_findsFirst _ _ hkey, by decide⟩

end KeySpan
end StubAssist

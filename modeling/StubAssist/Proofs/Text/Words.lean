import Mathlib.Data.List.Infix
import Mathlib.Data.List.TakeWhile
import StubAssist.Text

/-!
# Words

Where the words of a text stand in it, and what becomes of them when the text goes
on: all of them stay but the last, which may go on too.
-/

namespace StubAssist
namespace Text

/-!
# Pieces
-/

section SplitBy

variable {p : Char -> Bool}

theorem splitBy_cons_of_pos
    {c : Char} (rest : Text) (hc : p c = true) :
    splitBy p (c :: rest) = [] :: splitBy p rest := by
  simp [splitBy, hc]

theorem splitBy_cons_of_neg
    {c : Char} {rest piece : Text} {pieces : List Text} (hc : p c = false)
    (hrest : splitBy p rest = piece :: pieces) :
    splitBy p (c :: rest) = (c :: piece) :: pieces := by
  simp [splitBy, hc, hrest]

theorem exists_splitBy_eq_cons (p : Char -> Bool) (t : Text) :
    exists piece pieces,
      splitBy p t = piece :: pieces ∧
      piece <+: t ∧
      forall later, later ∈ pieces -> later <:+: t := by
  induction t with
  | nil =>
      exact ⟨[], [], rfl, List.nil_prefix, by simp⟩
  | cons c rest ih =>
      rcases ih with ⟨piece, pieces, hrest, hfirst, hlater⟩
      cases hc : p c with
      | true =>
          refine ⟨[], splitBy p rest, splitBy_cons_of_pos rest hc, List.nil_prefix, ?_⟩
          intro later hmem
          rw [hrest] at hmem
          rcases List.mem_cons.mp hmem with hpiece | hpieces
          · rw [hpiece]
            exact List.infix_cons hfirst.isInfix
          · exact List.infix_cons (hlater later hpieces)
      | false =>
          refine ⟨c :: piece, pieces, splitBy_cons_of_neg hc hrest, ?_, ?_⟩
          · exact List.cons_prefix_cons.mpr ⟨rfl, hfirst⟩
          · intro later hmem
            exact List.infix_cons (hlater later hmem)

theorem infix_of_mem_splitBy
    {t piece : Text} (hmem : piece ∈ splitBy p t) :
    piece <:+: t := by
  rcases exists_splitBy_eq_cons p t with ⟨first, pieces, ht, hfirst, hlater⟩
  rw [ht] at hmem
  rcases List.mem_cons.mp hmem with hpiece | hpieces
  · rw [hpiece]
    exact hfirst.isInfix
  · exact hlater piece hpieces

theorem splitBy_append (p : Char -> Bool) (t rest : Text) :
    exists first last next more,
      splitBy p t = first ++ [last] ∧
      splitBy p rest = next :: more ∧
      splitBy p (t ++ rest) = first ++ (last ++ next) :: more := by
  induction t with
  | nil =>
      rcases exists_splitBy_eq_cons p rest with ⟨next, more, hrest, _⟩
      exact ⟨[], [], next, more, rfl, hrest, hrest⟩
  | cons c t ih =>
      rcases ih with ⟨first, last, next, more, ht, hrest, happend⟩
      cases hc : p c with
      | true =>
          refine ⟨[] :: first, last, next, more, ?_, hrest, ?_⟩
          · rw [splitBy_cons_of_pos t hc, ht]
            rfl
          · rw [List.cons_append, splitBy_cons_of_pos (t ++ rest) hc, happend]
            rfl
      | false =>
          cases first with
          | nil =>
              exact ⟨[], c :: last, next, more, splitBy_cons_of_neg hc ht, hrest,
                splitBy_cons_of_neg hc happend⟩
          | cons piece pieces =>
              exact ⟨(c :: piece) :: pieces, last, next, more, splitBy_cons_of_neg hc ht,
                hrest, splitBy_cons_of_neg hc happend⟩

theorem splitBy_append_cons
    (t rest : Text) {c : Char} (hc : p c = true) :
    splitBy p (t ++ c :: rest) = splitBy p t ++ splitBy p rest := by
  rcases splitBy_append p t (c :: rest) with ⟨first, last, next, more, ht, hrest, happend⟩
  rw [splitBy_cons_of_pos rest hc] at hrest
  cases hrest
  rw [happend, ht, List.append_nil, List.append_assoc]
  rfl

end SplitBy

/-!
# Words
-/

theorem words_cons_of_isBlank
    {c : Char} (rest : Text) (hc : isBlank c = true) :
    words (c :: rest) = words rest := by
  unfold words
  rw [splitBy_cons_of_pos rest hc]
  rfl

theorem words_takeWhile_append (t rest : Text) :
    words (t.takeWhile isBlank ++ rest) = words rest := by
  induction t with
  | nil =>
      rfl
  | cons c t ih =>
      cases hc : isBlank c with
      | true =>
          rw [List.takeWhile_cons_of_pos hc, List.cons_append, words_cons_of_isBlank _ hc, ih]
      | false =>
          rw [List.takeWhile_cons_of_neg (by simp [hc])]
          rfl

theorem ne_nil_of_mem_words
    {t word : Text} (hmem : word ∈ words t) :
    word ≠ [] := by
  have hkept := (List.mem_filter.mp hmem).2
  simpa using hkept

theorem words_append (t rest : Text) :
    (exists more, words (t ++ rest) = words t ++ more) ∨
      exists first last next more,
        words t = first ++ [last] ∧
        words (t ++ rest) = first ++ (last ++ next) :: more := by
  rcases splitBy_append isBlank t rest with ⟨first, last, next, more, ht, _, happend⟩
  unfold words
  rw [ht, happend, List.filter_append, List.filter_append]
  cases last with
  | nil =>
      exact Or.inl ⟨(next :: more).filter (fun piece => !piece.isEmpty), by simp⟩
  | cons c last =>
      exact Or.inr ⟨first.filter (fun piece => !piece.isEmpty), c :: last, next,
        more.filter (fun piece => !piece.isEmpty), by simp, by simp⟩

theorem length_words_append (t rest : Text) :
    (words t).length ≤ (words (t ++ rest)).length := by
  rcases words_append t rest with ⟨more, h⟩ | ⟨first, last, next, more, ht, h⟩
  · simp [h]
  · simp [ht, h]

theorem getElem?_words_append
    {t word following : Text} {index : Nat} (rest : Text)
    (hword : (words t)[index]? = some word)
    (hfollowing : (words t)[index + 1]? = some following) :
    (words (t ++ rest))[index]? = some word := by
  have hlength : index + 1 < (words t).length := (List.getElem?_eq_some_iff.mp hfollowing).1
  rcases words_append t rest with ⟨more, h⟩ | ⟨first, last, next, more, ht, h⟩
  · rw [h, List.getElem?_append_left (Nat.lt_of_succ_lt hlength)]
    exact hword
  · have hindex : index < first.length := by
      rw [ht, List.length_append] at hlength
      simpa using hlength
    rw [ht, List.getElem?_append_left hindex] at hword
    rw [h, List.getElem?_append_left hindex]
    exact hword

theorem infix_of_mem_words
    {t word : Text} (hmem : word ∈ words t) :
    word <:+: t :=
  infix_of_mem_splitBy (List.mem_of_mem_filter hmem)

theorem contains_iff_infix {needle t : Text} :
    contains needle t = true ↔ needle <:+: t := by
  induction t with
  | nil =>
      simp [contains]
  | cons c rest ih =>
      unfold contains
      rw [Bool.or_eq_true, ih, List.infix_cons_iff, List.isPrefixOf_iff_prefix]

/-!
# One word after the other
-/

theorem words_append_cons_of_isBlank
    (t rest : Text) {c : Char} (hc : isBlank c = true) :
    words (t ++ c :: rest) = words t ++ words rest := by
  unfold words
  rw [splitBy_append_cons t rest hc, List.filter_append]

theorem splitBy_of_forall_neg
    {p : Char -> Bool} {t : Text} (hnone : forall c, c ∈ t -> p c = false) :
    splitBy p t = [t] := by
  induction t with
  | nil =>
      rfl
  | cons c rest ih =>
      have hrest : splitBy p rest = [rest] :=
        ih fun d hd => hnone d (List.mem_cons_of_mem c hd)
      exact splitBy_cons_of_neg (hnone c List.mem_cons_self) hrest

theorem words_append_of_word
    {word after : Text} (hne : word ≠ []) (hword : forall c, c ∈ word -> isBlank c = false)
    (hafter : forall c, after.head? = some c -> isBlank c = true) :
    words (word ++ after) = word :: words after := by
  have hsole : words word = [word] := by
    rw [words, splitBy_of_forall_neg hword]
    exact List.filter_cons_of_pos (by simpa using hne)
  cases after with
  | nil =>
      rw [List.append_nil]
      exact hsole
  | cons d rest =>
      have hblank := hafter d rfl
      rw [words_append_cons_of_isBlank word rest hblank, words_cons_of_isBlank rest hblank,
        hsole]
      rfl

theorem takeWhile_append_of_word
    {word after : Text} (hword : forall c, c ∈ word -> isBlank c = false)
    (hafter : forall c, after.head? = some c -> isBlank c = true) :
    (word ++ after).takeWhile (!isBlank ·) = word := by
  rw [List.takeWhile_append_of_pos fun c hc => by simp [hword c hc]]
  cases after with
  | nil =>
      exact List.append_nil word
  | cons d rest =>
      rw [List.takeWhile_cons_of_neg (by simp [hafter d rfl]), List.append_nil]

theorem dropWhile_append_of_word
    {word after : Text} (hword : forall c, c ∈ word -> isBlank c = false)
    (hafter : forall c, after.head? = some c -> isBlank c = true) :
    (word ++ after).dropWhile (!isBlank ·) = after := by
  rw [List.dropWhile_append_of_pos fun c hc => by simp [hword c hc]]
  cases after with
  | nil =>
      rfl
  | cons d rest =>
      exact List.dropWhile_cons_of_neg (by simp [hafter d rfl])

theorem trimStart_of_head?
    {t : Text} (hhead : forall c, t.head? = some c -> isBlank c = false) :
    trimStart t = t := by
  cases t with
  | nil =>
      rfl
  | cons c rest =>
      exact List.dropWhile_cons_of_neg (by simp [hhead c rfl])

theorem isBlank_of_head?_dropWhile
    {t : Text} {c : Char} (hhead : (t.dropWhile (!isBlank ·)).head? = some c) :
    isBlank c = true := by
  have hstop := List.head?_dropWhile_not (!isBlank ·) t
  rw [hhead] at hstop
  simpa using hstop

theorem word_induction
    {motive : Text -> Prop} (nil : motive [])
    (blank : forall c rest, isBlank c = true -> motive rest -> motive (c :: rest))
    (word : forall word after, word ≠ [] -> (forall c, c ∈ word -> isBlank c = false) ->
      (forall c, after.head? = some c -> isBlank c = true) -> motive after ->
        motive (word ++ after))
    (t : Text) :
    motive t := by
  induction hlength : t.length using Nat.strong_induction_on generalizing t with
  | _ length ih =>
      cases t with
      | nil =>
          exact nil
      | cons c rest =>
          cases hc : isBlank c with
          | true =>
              exact blank c rest hc (ih rest.length (hlength ▸ Nat.lt_succ_self _) rest rfl)
          | false =>
              have hshorter : ((c :: rest).dropWhile (!isBlank ·)).length < length := by
                rw [List.dropWhile_cons_of_pos (by simp [hc]), ← hlength]
                exact Nat.lt_succ_of_le (List.length_dropWhile_le _ rest)
              rw [← List.takeWhile_append_dropWhile (p := (!isBlank ·)) (l := c :: rest)]
              apply word
              · rw [List.takeWhile_cons_of_pos (by simp [hc])]
                exact List.cons_ne_nil c _
              · intro d hd
                simpa using List.mem_takeWhile_imp hd
              · intro d hd
                exact isBlank_of_head?_dropWhile hd
              · exact ih _ hshorter _ rfl

theorem isBlank_eq_false_of_mem_splitBy
    {p : Char -> Bool} {t piece : Text} {c : Char} (hpiece : piece ∈ splitBy p t)
    (hc : c ∈ piece) :
    p c = false := by
  induction t generalizing piece with
  | nil =>
      rw [List.mem_singleton.mp hpiece] at hc
      cases hc
  | cons d rest ih =>
      cases hd : p d with
      | true =>
          rw [splitBy_cons_of_pos rest hd] at hpiece
          rcases List.mem_cons.mp hpiece with hempty | hlater
          · rw [hempty] at hc
            cases hc
          · exact ih hlater hc
      | false =>
          rcases exists_splitBy_eq_cons p rest with ⟨first, pieces, hrest, _⟩
          rw [splitBy_cons_of_neg hd hrest] at hpiece
          rw [hrest] at ih
          rcases List.mem_cons.mp hpiece with hfirst | hlater
          · rw [hfirst] at hc
            rcases List.mem_cons.mp hc with hsame | hmore
            · rw [hsame]
              exact hd
            · exact ih List.mem_cons_self hmore
          · exact ih (List.mem_cons_of_mem first hlater) hc

theorem isBlank_eq_false_of_mem_words
    {t word : Text} {c : Char} (hword : word ∈ words t) (hc : c ∈ word) :
    isBlank c = false :=
  isBlank_eq_false_of_mem_splitBy (List.mem_of_mem_filter hword) hc

structure IsWord (t : Text) : Prop where
  ne_nil : t ≠ []
  no_blank : forall c, c ∈ t -> isBlank c = false

theorem isWord_of_mem_words
    {t word : Text} (hword : word ∈ words t) :
    IsWord word :=
  ⟨ne_nil_of_mem_words hword, fun _ hc => isBlank_eq_false_of_mem_words hword hc⟩

theorem IsWord.words_eq
    {word : Text} (hword : IsWord word) :
    words word = [word] := by
  have hsole : words (word ++ []) = word :: words [] :=
    words_append_of_word hword.ne_nil hword.no_blank fun _ hnone => by cases hnone
  rwa [List.append_nil] at hsole

/-!
# A blank at the end
-/

theorem words_append_of_isBlank
    (t : Text) {c : Char} (hc : isBlank c = true) :
    words (t ++ [c]) = words t := by
  rcases splitBy_append isBlank t [c] with ⟨first, last, next, more, ht, hblank, happend⟩
  rw [splitBy_cons_of_pos [] hc] at hblank
  cases hblank
  unfold words
  rw [ht, happend, List.append_nil]
  show (first ++ ([last] ++ [[]])).filter (fun piece => !List.isEmpty piece) = _
  rw [← List.append_assoc, List.filter_append]
  exact List.append_nil _

theorem trimEnd_of_getLast?
    {t : Text} (hlast : forall c, t.getLast? = some c -> isBlank c = false) :
    trimEnd t = t := by
  have hreverse : trimStart t.reverse = t.reverse := by
    apply trimStart_of_head?
    intro c hc
    rw [List.head?_reverse] at hc
    exact hlast c hc
  unfold trimEnd
  rw [← trimStart, hreverse, List.reverse_reverse]

theorem trimStart_append_cons
    {c : Char} (t rest : Text) (hc : isBlank c = false) :
    trimStart (t ++ c :: rest) = trimStart t ++ c :: rest := by
  unfold trimStart
  rw [List.dropWhile_append]
  split
  · rename_i hempty
    rw [List.isEmpty_iff.mp hempty, List.dropWhile_cons_of_neg (by simp [hc])]
    rfl
  · rfl

theorem trim_append_of_isBlank
    (t : Text) {c : Char} (hc : isBlank c = true) :
    trim (t ++ [c]) = trim t := by
  unfold trim trimStart trimEnd
  rw [List.dropWhile_append]
  split
  · rename_i hempty
    rw [List.isEmpty_iff.mp hempty, List.dropWhile_cons_of_pos hc]
    rfl
  · rw [List.reverse_append, List.reverse_singleton, List.singleton_append,
      List.dropWhile_cons_of_pos hc]

theorem exists_trim_append (t : Text) :
    exists after, t.dropWhile isBlank = trim t ++ after := by
  have hsuffix : (trimStart t).reverse.dropWhile isBlank <:+ (trimStart t).reverse :=
    List.dropWhile_suffix isBlank
  have hinitial := List.reverse_prefix.mpr hsuffix
  rw [List.reverse_reverse] at hinitial
  rcases hinitial with ⟨after, h⟩
  exact ⟨after, h.symm⟩

theorem words_trimStart (t : Text) :
    words (trimStart t) = words t := by
  have hwords := words_takeWhile_append t (t.dropWhile isBlank)
  rw [List.takeWhile_append_dropWhile] at hwords
  exact hwords.symm

theorem words_trimEnd (t : Text) :
    words (trimEnd t) = words t := by
  induction t using List.reverseRecOn with
  | nil =>
      rfl
  | append_singleton t c ih =>
      cases hc : isBlank c with
      | true =>
          have htrim : trimEnd (t ++ [c]) = trimEnd t := by
            unfold trimEnd
            rw [List.reverse_append, List.reverse_singleton, List.singleton_append,
              List.dropWhile_cons_of_pos hc]
          rw [htrim, ih, words_append_of_isBlank t hc]
      | false =>
          have htrim : trimEnd (t ++ [c]) = t ++ [c] := by
            unfold trimEnd
            rw [List.reverse_append, List.reverse_singleton, List.singleton_append,
              List.dropWhile_cons_of_neg (by simp [hc])]
            simp
          rw [htrim]

theorem words_trim (t : Text) :
    words (trim t) = words t :=
  (words_trimEnd (trimStart t)).trans (words_trimStart t)

end Text
end StubAssist

import StubAssist.FileTree
import StubAssist.Proofs.Text.Words

/-!
# Parents of paths

The parent of a path is a first part of it, cut at a slash, and at least one name comes
after it.
-/

namespace StubAssist

/-!
# Names of appended paths
-/

namespace FileTree

theorem namesOf_append_slash (before after : Text) :
    namesOf (before ++ '/' :: after) = namesOf before ++ namesOf after := by
  unfold namesOf
  rw [Text.splitBy_append_cons before after rfl, List.filter_append]

theorem namesOf_slash (after : Text) :
    namesOf ('/' :: after) = namesOf after :=
  namesOf_append_slash [] after

/-- The place between two parts of a path where no name goes on. -/
def IsCut (before after : Text) : Prop :=
  before = [] ∨ before.getLast? = some '/' ∨ after.head? = some '/'

theorem namesOf_append
    {before after : Text} (hcut : IsCut before after) :
    namesOf (before ++ after) = namesOf before ++ namesOf after := by
  rcases hcut with hnil | hlast | hhead
  · rw [hnil]
    rfl
  · have hsplit : before.dropLast ++ ['/'] = before := List.dropLast_append_getLast? _ hlast
    have hbefore : namesOf before = namesOf before.dropLast := by
      have hnames := namesOf_append_slash before.dropLast []
      rw [hsplit] at hnames
      exact hnames.trans (List.append_nil _)
    rw [hbefore, ← namesOf_append_slash, List.append_cons, hsplit]
  · rcases List.head?_eq_some_iff.mp hhead with ⟨rest, hafter⟩
    rw [hafter, namesOf_append_slash, namesOf_slash]

theorem namesOf_ne_nil
    {path : Text} {c : Char} (hmem : c ∈ path) (hc : c ≠ '/') :
    namesOf path ≠ [] := by
  induction path with
  | nil =>
      cases hmem
  | cons d path ih =>
      by_cases hd : d = '/'
      · rw [hd, namesOf_slash]
        rcases List.mem_cons.mp hmem with hfirst | hrest
        · exact absurd (hfirst.trans hd) hc
        · exact ih hrest
      · rcases Text.exists_splitBy_eq_cons (· == '/') path with ⟨piece, pieces, hpieces, _⟩
        unfold namesOf
        have hfirst : (d == '/') = false := beq_false_of_ne hd
        rw [Text.splitBy_cons_of_neg (p := (· == '/')) hfirst hpieces]
        simp

end FileTree

/-!
# Parents
-/

namespace FilePath

open FileTree (IsCut namesOf namesOf_ne_nil)

theorem exists_dropEmptyNames (reversed : Text) :
    exists dropped,
      reversed = dropped ++ dropEmptyNames reversed ∧
        (dropEmptyNames reversed = [] ∨ dropped = [] ∨ dropped.getLast? = some '/') ∧
        (dropEmptyNames reversed).head? ≠ some '/' := by
  have hlonger : forall (first dropped rest : Text),
      (rest = [] ∨ dropped = [] ∨ dropped.getLast? = some '/') ->
        rest = [] ∨ first ++ ['/'] ++ dropped = [] ∨
          (first ++ ['/'] ++ dropped).getLast? = some '/' := by
    intro first dropped rest hend
    rcases hend with hnil | hnil | hlast
    · exact Or.inl hnil
    · exact Or.inr (Or.inr (by simp [hnil]))
    · exact Or.inr (Or.inr (by rw [List.getLast?_append, hlast]; rfl))
  fun_induction dropEmptyNames reversed with
  | case1 rest ih =>
      rcases ih with ⟨dropped, hsplit, hend, hhead⟩
      exact ⟨['/'] ++ dropped, congrArg ('/' :: ·) hsplit, hlonger [] dropped _ hend, hhead⟩
  | case2 rest ih =>
      rcases ih with ⟨dropped, hsplit, hend, hhead⟩
      exact ⟨['.'] ++ ['/'] ++ dropped, congrArg ('.' :: '/' :: ·) hsplit,
        hlonger ['.'] dropped _ hend, hhead⟩
  | case3 =>
      exact ⟨['.'], rfl, Or.inl rfl, by simp⟩
  | case4 rest hslash hdot hlast =>
      refine ⟨[], rfl, Or.inr (Or.inl rfl), ?_⟩
      intro hhead
      rcases List.head?_eq_some_iff.mp hhead with ⟨after, hrest⟩
      exact hslash after hrest

theorem exists_start (path : Text) :
    exists start body,
      path.take (startLength path) = start ∧ path.drop (startLength path) = body ∧
        path = start ++ body ∧
        (start = [] ∨ start = ['/'] ∨
          start = ['.'] ∧ (body = [] ∨ body.head? = some '/')) := by
  refine ⟨_, _, rfl, rfl, (List.take_append_drop _ path).symm, ?_⟩
  unfold startLength
  fun_cases startsAtDot path with
  | case1 =>
      exact Or.inr (Or.inr ⟨rfl, Or.inl rfl⟩)
  | case2 rest =>
      exact Or.inr (Or.inr ⟨rfl, Or.inr rfl⟩)
  | case3 hdot hdots =>
      by_cases hslash : path.head? = some '/'
      · rcases List.head?_eq_some_iff.mp hslash with ⟨rest, hpath⟩
        exact Or.inr (Or.inl (by simp [hpath]))
      · exact Or.inl (by simp [hslash])

theorem exists_dropName
    {reversed : Text} (hsome : reversed ≠ []) (hhead : reversed.head? ≠ some '/') :
    exists name,
      (reversed = name ∧ dropName reversed = [] ∨
        reversed = name ++ '/' :: dropName reversed) ∧
        exists c, c ∈ name ∧ c ≠ '/' := by
  rcases List.exists_cons_of_ne_nil hsome with ⟨c, rest, hreversed⟩
  have hc : c ≠ '/' := by
    intro hslash
    rw [hreversed, hslash] at hhead
    exact hhead rfl
  have hfirst : c ∈ reversed.takeWhile (· != '/') := by
    rw [hreversed, List.takeWhile_cons_of_pos (by simpa using hc)]
    exact List.mem_cons_self
  have hsplit : reversed.takeWhile (· != '/') ++ reversed.dropWhile (· != '/') = reversed :=
    List.takeWhile_append_dropWhile
  refine ⟨reversed.takeWhile (· != '/'), ?_, c, hfirst, hc⟩
  unfold dropName
  cases hrest : reversed.dropWhile (· != '/') with
  | nil =>
      rw [hrest, List.append_nil] at hsplit
      exact Or.inl ⟨hsplit.symm, rfl⟩
  | cons d more =>
      have hd : d = '/' := by
        have hfails := List.head?_dropWhile_not (· != '/') reversed
        rw [hrest] at hfails
        simpa using hfails
      rw [hrest, hd] at hsplit
      exact Or.inr hsplit.symm

theorem exists_rest_of_dropName
    {body kept : Text} (hsome : dropEmptyNames body.reverse ≠ [])
    (hkept : dropEmptyNames (dropName (dropEmptyNames body.reverse)) = kept) :
    exists rest,
      body = kept.reverse ++ rest ∧ (kept = [] ∨ rest.head? = some '/') ∧
        exists c, c ∈ rest ∧ c ≠ '/' := by
  rcases exists_dropEmptyNames body.reverse with ⟨junk, hbody, _, hhead⟩
  rcases exists_dropName hsome hhead with ⟨name, hname, c, hmem, hc⟩
  rcases exists_dropEmptyNames (dropName (dropEmptyNames body.reverse)) with
    ⟨more, hmore, hend, _⟩
  rw [hkept] at hmore hend
  rcases hname with ⟨hlast, hnone⟩ | hslash
  · rw [hnone] at hmore
    rcases List.append_eq_nil_iff.mp hmore.symm with ⟨_, hnil⟩
    refine ⟨body, by rw [hnil]; rfl, Or.inl hnil, c, ?_, hc⟩
    rw [← List.mem_reverse, hbody, hlast]
    exact List.mem_append_right junk hmem
  · rw [hmore] at hslash
    have hreversed : body.reverse = (junk ++ name ++ '/' :: more) ++ kept := by
      rw [hbody, hslash]
      simp only [List.append_assoc, List.cons_append]
    refine ⟨(junk ++ name ++ '/' :: more).reverse, ?_, ?_, c, ?_, hc⟩
    · rw [← List.reverse_append, ← hreversed, List.reverse_reverse]
    · rw [List.head?_reverse, List.getLast?_append]
      rcases hend with hnil | hnil | hlast
      · exact Or.inl hnil
      · exact Or.inr (by rw [hnil]; rfl)
      · exact Or.inr (by rw [List.getLast?_cons, hlast]; rfl)
    · rw [List.mem_reverse]
      exact List.mem_append_left _ (List.mem_append_right junk hmem)

theorem exists_rest_of_parent?
    {path parent : Text} (hparent : parent? path = some parent) :
    exists rest, path = parent ++ rest ∧ IsCut parent rest ∧ namesOf rest ≠ [] := by
  rcases exists_start path with ⟨start, body, htake, hdrop, hpath, hstart⟩
  unfold parent? at hparent
  simp only [htake, hdrop] at hparent
  by_cases hnone : dropEmptyNames body.reverse = []
  · by_cases hdot : start = ['.']
    · simp only [hnone, hdot, List.isEmpty_nil, if_true, BEq.rfl, Option.some.injEq]
        at hparent
      refine ⟨path, by rw [← hparent]; rfl, Or.inl hparent.symm, ?_⟩
      rw [hpath, hdot]
      exact namesOf_ne_nil List.mem_cons_self (by decide)
    · simp [hnone, hdot] at hparent
  · simp only [List.isEmpty_iff, hnone, if_false, Option.some.injEq] at hparent
    rcases exists_rest_of_dropName hnone rfl with ⟨rest, hbody, hcut, c, hmem, hc⟩
    refine ⟨rest, ?_, ?_, namesOf_ne_nil hmem hc⟩
    · rw [← hparent, List.append_assoc, ← hbody, hpath]
    · rcases hcut with hnil | hslash
      · rw [hnil] at hbody hparent
        rw [List.reverse_nil, List.append_nil] at hparent
        rw [← hparent]
        rcases hstart with hempty | hroot | ⟨_, hbare | hslash⟩
        · exact Or.inl hempty
        · exact Or.inr (Or.inl (by rw [hroot]; rfl))
        · rw [hbare] at hnone
          exact absurd rfl hnone
        · rw [hbody] at hslash
          exact Or.inr (Or.inr hslash)
      · exact Or.inr (Or.inr hslash)

theorem ancestors_of_parent?_none
    {path : Text} (hparent : parent? path = none) :
    ancestors path = [] := by
  unfold ancestors
  rw [List.filter_cons_of_neg (by simp [hparent])]
  cases path.length with
  | zero => rfl
  | succ fuel =>
      rw [parents, hparent]
      rfl

theorem exists_ancestors_of_parent?_some
    {path parent : Text} (hparent : parent? path = some parent) :
    exists outer, ancestors path = path :: outer := by
  unfold ancestors
  rw [List.filter_cons_of_pos (by simp [hparent])]
  exact ⟨_, rfl⟩

end FilePath
end StubAssist

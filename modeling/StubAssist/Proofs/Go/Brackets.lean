import StubAssist.Proofs.Go.Endings

/-!
# Brackets

Braces and parentheses are in balance if each closing one meets its own kind on a stack
of open ones, and the stack is empty in the end.  Inside a brace, code that does not
close it leaves everything below it on the stack alone; code up to the brace that does
is in balance by itself.
-/

namespace StubAssist
namespace Go

/-- The open brackets after `c`, the innermost first; none if `c` closes no open one. -/
def bracketStep (stack : List Char) (c : Char) : Option (List Char) :=
  if c = '{' || c = '(' then some (c :: stack)
  else if c = '}' || c = ')' then
    match stack with
    | [] => none
    | opener :: stack =>
        if (opener = '{' && c = '}') || (opener = '(' && c = ')') then some stack else none
  else some stack

def openBrackets (stack code : List Char) : Option (List Char) :=
  code.foldlM bracketStep stack

def Balanced (code : List Char) : Prop :=
  openBrackets [] code = some []

instance (code : List Char) : Decidable (Balanced code) :=
  inferInstanceAs (Decidable (openBrackets [] code = some []))

/-!
# One character
-/

theorem bracketStep_open {c : Char} (stack : List Char) (hopen : c = '{' ∨ c = '(') :
    bracketStep stack c = some (c :: stack) := by
  rcases hopen with hbrace | hparenthesis
  · rw [hbrace]
    rfl
  · rw [hparenthesis]
    rfl

theorem bracketStep_close {opener c : Char} (stack : List Char)
    (hclose : (opener = '{' ∧ c = '}') ∨ (opener = '(' ∧ c = ')')) :
    bracketStep (opener :: stack) c = some stack := by
  rcases hclose with ⟨hopener, hc⟩ | ⟨hopener, hc⟩
  · rw [hopener, hc]
    rfl
  · rw [hopener, hc]
    rfl

theorem bracketStep_other {c : Char} (stack : List Char)
    (hopen : ¬ (c = '{' ∨ c = '(')) (hclose : ¬ (c = '}' ∨ c = ')')) :
    bracketStep stack c = some stack := by
  simp [bracketStep, hopen, hclose]

theorem bracketStep_cases
    {stack next : List Char} {c : Char} (hstep : bracketStep stack c = some next) :
    ((c = '{' ∨ c = '(') ∧ next = c :: stack) ∨
      (exists opener,
        ((opener = '{' ∧ c = '}') ∨ (opener = '(' ∧ c = ')')) ∧ stack = opener :: next) ∨
      (¬ (c = '{' ∨ c = '(') ∧ ¬ (c = '}' ∨ c = ')') ∧ next = stack) := by
  by_cases hopen : c = '{' ∨ c = '('
  · rw [bracketStep_open stack hopen] at hstep
    cases hstep
    exact Or.inl ⟨hopen, rfl⟩
  · by_cases hclose : c = '}' ∨ c = ')'
    · cases stack with
      | nil =>
          simp [bracketStep, hopen, hclose] at hstep
      | cons opener stack =>
          by_cases hmatch : (opener = '{' ∧ c = '}') ∨ (opener = '(' ∧ c = ')')
          · rw [bracketStep_close stack hmatch] at hstep
            cases hstep
            exact Or.inr (Or.inl ⟨opener, hmatch, rfl⟩)
          · simp [bracketStep, hopen, hclose, hmatch] at hstep
    · rw [bracketStep_other stack hopen hclose] at hstep
      cases hstep
      exact Or.inr (Or.inr ⟨hopen, hclose, rfl⟩)

theorem nestingOf_of_bracketStep
    {stack next : List Char} {c : Char} (hstep : bracketStep stack c = some next) :
    (next.length : Int) = stack.length + nestingOf c := by
  rcases bracketStep_cases hstep with
    ⟨hopen, hnext⟩ | ⟨opener, hclose, hstack⟩ | ⟨hopen, hclose, hnext⟩
  · rw [hnext]
    simp [nestingOf, hopen]
  · have hc : c = '}' ∨ c = ')' := hclose.imp And.right And.right
    have hchange : nestingOf c = -1 := by
      rcases hc with hc | hc
      · rw [hc]
        rfl
      · rw [hc]
        rfl
    rw [hstack, hchange, List.length_cons]
    omega
  · rw [hnext]
    simp [nestingOf, hopen, hclose]

/-!
# Several characters
-/

theorem openBrackets_cons (stack : List Char) (c : Char) (code : List Char) :
    openBrackets stack (c :: code) =
      (bracketStep stack c).bind fun next => openBrackets next code := rfl

theorem openBrackets_append (stack code more : List Char) :
    openBrackets stack (code ++ more) =
      (openBrackets stack code).bind fun next => openBrackets next more :=
  List.foldlM_append

theorem exists_bracketStep
    {stack next : List Char} {c : Char} {code : List Char}
    (hcode : openBrackets stack (c :: code) = some next) :
    exists mid, bracketStep stack c = some mid ∧ openBrackets mid code = some next :=
  Option.bind_eq_some_iff.mp hcode

theorem exists_openBrackets
    {stack next : List Char} (code more : List Char)
    (hcode : openBrackets stack (code ++ more) = some next) :
    exists mid, openBrackets stack code = some mid ∧ openBrackets mid more = some next := by
  rw [openBrackets_append] at hcode
  exact Option.bind_eq_some_iff.mp hcode

theorem nestingChange_of_openBrackets
    {stack next code : List Char} (hcode : openBrackets stack code = some next) :
    (next.length : Int) = stack.length + nestingChange code := by
  induction code generalizing stack with
  | nil =>
      cases hcode
      exact (Int.add_zero _).symm
  | cons c code ih =>
      rcases exists_bracketStep hcode with ⟨mid, hstep, hrest⟩
      rw [ih hrest, nestingOf_of_bracketStep hstep, Int.add_assoc]
      rfl

theorem nestingChange_of_balanced {code : List Char} (hbalanced : Balanced code) :
    nestingChange code = 0 := by
  have hlength := nestingChange_of_openBrackets hbalanced
  simpa using hlength.symm

/-!
# Inside a brace

The braces above the one at `base` count how deep inside it the code is.
-/

theorem bracketStep_above
    {above base mid : List Char} {c : Char} {code : List Char}
    (hstep : bracketStep (above ++ '{' :: base) c = some mid)
    (hwithin : StaysWithin (above.count '{') (c :: code)) :
    exists next,
      mid = next ++ '{' :: base ∧ bracketStep above c = some next ∧
        StaysWithin (next.count '{') code ∧
        next.count '{' + [c].count '}' = above.count '{' + [c].count '{' := by
  rcases bracketStep_cases hstep with
    ⟨hopen, hmid⟩ | ⟨opener, hclose, hstack⟩ | ⟨hopen, hclose, hmid⟩
  · refine ⟨c :: above, hmid, bracketStep_open above hopen, ?_⟩
    rcases hopen with hc | hc
    · rw [hc] at hwithin ⊢
      rw [List.count_cons_self]
      exact ⟨staysWithin_open.mp hwithin, rfl⟩
    · rw [hc] at hwithin ⊢
      exact ⟨(staysWithin_other (by decide) (by decide)).mp hwithin, rfl⟩
  · cases above with
    | nil =>
        -- `c` would close the brace at `base`
        cases hstack
        rcases hclose with ⟨_, hc⟩ | ⟨hbrace, _⟩
        · rw [hc] at hwithin
          exact absurd hwithin (not_staysWithin_close code)
        · exact absurd hbrace (by decide)
    | cons top above =>
        cases hstack
        refine ⟨above, rfl, bracketStep_close above hclose, ?_⟩
        rcases hclose with ⟨htop, hc⟩ | ⟨htop, hc⟩
        · rw [htop, hc, List.count_cons_self] at hwithin
          rw [htop, hc]
          exact ⟨staysWithin_close.mp hwithin, by simp⟩
        · rw [htop, hc] at hwithin ⊢
          exact ⟨(staysWithin_other (by decide) (by decide)).mp hwithin, rfl⟩
  · refine ⟨above, hmid, bracketStep_other above hopen hclose, ?_⟩
    rw [not_or] at hopen hclose
    rw [List.count_cons_of_ne hopen.left, List.count_cons_of_ne hclose.left]
    exact ⟨(staysWithin_other hopen.left hclose.left).mp hwithin, rfl⟩

theorem openBrackets_above
    (above : List Char) {base code next : List Char}
    (hcode : openBrackets (above ++ '{' :: base) code = some next)
    (hwithin : StaysWithin (above.count '{') code) :
    exists later,
      next = later ++ '{' :: base ∧ openBrackets above code = some later ∧
        later.count '{' + code.count '}' = above.count '{' + code.count '{' := by
  induction code generalizing above with
  | nil =>
      cases hcode
      exact ⟨above, rfl, rfl, rfl⟩
  | cons c code ih =>
      rcases exists_bracketStep hcode with ⟨mid, hstep, hrest⟩
      rcases bracketStep_above hstep hwithin with ⟨inner, hmid, hinner, hdepth, hcount⟩
      rw [hmid] at hrest
      rcases ih inner hrest hdepth with ⟨later, hnext, hrun, hlater⟩
      refine ⟨later, hnext, ?_, ?_⟩
      · rw [openBrackets_cons, hinner]
        exact hrun
      · rw [← List.singleton_append, List.count_append, List.count_append]
        omega

theorem not_balanced_of_staysWithin
    {head inside : List Char} (hwithin : StaysWithin 0 inside) :
    ¬ Balanced (head ++ '{' :: inside) := by
  intro hbalanced
  rcases exists_openBrackets head ('{' :: inside) hbalanced with ⟨base, _, hrest⟩
  rcases openBrackets_above [] hrest hwithin with ⟨later, hnext, _, _⟩
  exact List.append_ne_nil_of_right_ne_nil later (List.cons_ne_nil '{' base) hnext.symm

/-- Between a brace and the one that closes it, brackets are in balance. -/
theorem balanced_inside
    {head inside tail : List Char}
    (hcode : Balanced (head ++ '{' :: (inside ++ '}' :: tail)))
    (hbraces : BracesBalance inside) :
    Balanced inside := by
  rcases exists_openBrackets head _ hcode with ⟨base, _, hopened⟩
  rcases exists_openBrackets ('{' :: inside) ('}' :: tail) hopened with
    ⟨mid, hinside, htail⟩
  rcases openBrackets_above [] hinside hbraces.within with ⟨later, hmid, hrun, hcount⟩
  have hnone : later.count '{' = 0 := by
    rw [hbraces.even, List.count_nil] at hcount
    omega
  rcases exists_bracketStep htail with ⟨after, hstep, _⟩
  cases later with
  | nil =>
      exact hrun
  | cons top later =>
      -- only a brace can be closed here, and none is open above `base`
      rcases bracketStep_cases hstep with
        ⟨hopen, _⟩ | ⟨opener, hclose, hstack⟩ | ⟨_, hclose, _⟩
      · exact absurd hopen (by decide)
      · rw [hmid] at hstack
        cases hstack
        rcases hclose with ⟨htop, _⟩ | ⟨_, hc⟩
        · rw [htop, List.count_cons_self] at hnone
          exact absurd hnone (Nat.succ_ne_zero _)
        · exact absurd hc (by decide)
      · exact absurd (Or.inl rfl) hclose

end Go
end StubAssist

import StubAssist.Toml.Document

/-!
# What readers leave

A reader takes a beginning of its text and leaves the end of it.  This holds of the
readers for names, strings and tokens, and the ways to combine readers keep it.
-/

namespace StubAssist
namespace Toml

variable {α β : Type}

/-- If there is an outcome, then what it leaves is an end of the text. -/
def EndsIn (t : Text) (outcome : Option (α × Text)) : Prop :=
  forall a rest, outcome = some (a, rest) -> rest <:+ t

def LeavesEnd (reader : Reader α) : Prop :=
  forall t, EndsIn t (reader t)

/-!
# Outcomes
-/

theorem endsIn_none (t : Text) :
    EndsIn t (none : Option (α × Text)) := by
  intro a rest hnone
  cases hnone

theorem endsIn_some {t rest : Text} (a : α) (hrest : rest <:+ t) :
    EndsIn t (some (a, rest)) := by
  intro b rest' hsome
  cases hsome
  exact hrest

theorem EndsIn.trans
    {s t : Text} {outcome : Option (α × Text)} (hends : EndsIn s outcome) (hs : s <:+ t) :
    EndsIn t outcome := by
  intro a rest hsome
  exact (hends a rest hsome).trans hs

theorem EndsIn.cons
    {t : Text} {outcome : Option (α × Text)} (c : Char) (hends : EndsIn t outcome) :
    EndsIn (c :: t) outcome := by
  intro a rest hsome
  exact (hends a rest hsome).trans (List.suffix_cons c t)

theorem EndsIn.map
    {t : Text} {outcome : Option (α × Text)} (f : α -> β) (hends : EndsIn t outcome) :
    EndsIn t (outcome.map fun step => (f step.1, step.2)) := by
  intro b rest hsome
  rcases Option.map_eq_some_iff.mp hsome with ⟨⟨a, rest'⟩, houtcome, hstep⟩
  cases hstep
  exact hends a rest' houtcome

theorem EndsIn.withScalar
    {t : Text} {body : Option (Text × Text)} (c? : Option Char) (hends : EndsIn t body) :
    EndsIn t (withScalar c? body) := by
  cases c? with
  | none =>
      exact endsIn_none t
  | some c =>
      exact hends.map (c :: ·)

/-!
# Combinations
-/

theorem read_get (t : Text) :
    (get : Reader Text) t = some (t, t) := rfl

theorem read_pure (a : α) (t : Text) :
    (pure a : Reader α) t = some (a, t) := rfl

theorem read_lift (outcome : Option α) (t : Text) :
    (liftM outcome : Reader α) t = outcome.map fun a => (a, t) := by
  cases outcome <;> rfl

theorem read_bind (reader : Reader α) (next : α -> Reader β) (t : Text) :
    (reader >>= next) t = (reader t).bind fun step => next step.1 step.2 := rfl

theorem read_bind_iff
    {reader : Reader α} {next : α -> Reader β} {t rest : Text} {b : β} :
    (reader >>= next) t = some (b, rest) <->
      exists a middle, reader t = some (a, middle) ∧ next a middle = some (b, rest) := by
  rw [read_bind, Option.bind_eq_some_iff]
  constructor
  · rintro ⟨⟨a, middle⟩, hread, hnext⟩
    exact ⟨a, middle, hread, hnext⟩
  · rintro ⟨a, middle, hread, hnext⟩
    exact ⟨⟨a, middle⟩, hread, hnext⟩

theorem LeavesEnd.bind
    {reader : Reader α} {next : α -> Reader β} (hreader : LeavesEnd reader)
    (hnext : forall a, LeavesEnd (next a)) :
    LeavesEnd (reader >>= next) := by
  intro t b rest hread
  rcases read_bind_iff.mp hread with ⟨a, middle, hfirst, hlast⟩
  exact (hnext a middle b rest hlast).trans (hreader t a middle hfirst)

theorem LeavesEnd.optional
    {reader : Reader Unit} {next : Reader α} {taken : Prop} [Decidable taken]
    (hreader : LeavesEnd reader) (hnext : LeavesEnd next) :
    LeavesEnd (if taken then reader >>= fun _ => next else next) := by
  split
  · exact hreader.bind fun _ => hnext
  · exact hnext

theorem leavesEnd_pure (a : α) :
    LeavesEnd (pure a : Reader α) := by
  intro t
  exact endsIn_some a (List.suffix_refl t)

theorem leavesEnd_failure :
    LeavesEnd (failure : Reader α) := by
  intro t
  exact endsIn_none t

theorem leavesEnd_lift (outcome : Option α) :
    LeavesEnd (liftM outcome : Reader α) := by
  intro t a rest hread
  rcases Option.bind_eq_some_iff.mp hread with ⟨b, _, hstep⟩
  cases hstep
  exact List.suffix_refl t

theorem leavesEnd_get :
    LeavesEnd (get : Reader Text) := by
  intro t
  exact endsIn_some t (List.suffix_refl t)

theorem leavesEnd_expect (expected : Text) :
    LeavesEnd (expect expected) := by
  intro t
  unfold expect
  induction expected generalizing t with
  | nil =>
      exact endsIn_some () (List.suffix_refl t)
  | cons a expected ih =>
      cases t with
      | nil =>
          exact endsIn_none []
      | cons c t =>
          rw [Text.afterPrefix?]
          split
          · exact (ih t).cons c
          · exact endsIn_none _

theorem leavesEnd_skipBlanks :
    LeavesEnd skipBlanks := by
  intro t
  exact endsIn_some () (List.dropWhile_suffix isSpaceOrTab)

theorem leavesEnd_skipTrivia :
    LeavesEnd skipTrivia := by
  intro t
  unfold skipTrivia
  generalize false = inComment
  fun_induction afterTrivia? inComment t with
  | case1 => exact endsIn_some () (List.suffix_refl [])
  | case2 inComment rest ih => exact ih.cons '\n'
  | case3 inComment rest ih => exact (ih.cons '\n').cons '\r'
  | case4 c rest _ _ _ ih => exact ih.cons c
  | case5 c rest => exact endsIn_none _
  | case6 rest ih => exact ih.cons ' '
  | case7 rest ih => exact ih.cons '\t'
  | case8 rest ih => exact ih.cons '#'
  | case9 t => exact endsIn_some () (List.suffix_refl t)

theorem LeavesEnd.withSpan
    {reader : Reader α} (total : Nat) (hreader : LeavesEnd reader) :
    LeavesEnd (withSpan total reader) :=
  leavesEnd_get.bind fun _ => hreader.bind fun _ => leavesEnd_get.bind fun _ => leavesEnd_pure _

/-!
# Strings
-/

theorem endsIn_basicBody (t : Text) :
    EndsIn t (basicBody t) := by
  fun_induction basicBody t with
  | case1 => exact endsIn_none _
  | case2 rest => exact endsIn_some [] (List.suffix_cons _ rest)
  | case3 a b rest ih => exact ((((ih.withScalar _).cons b).cons a).cons 'x').cons '\\'
  | case4 a b c d rest ih =>
      exact ((((((ih.withScalar _).cons d).cons c).cons b).cons a).cons 'u').cons '\\'
  | case5 a b c d e f g h rest ih =>
      exact ((((((((((ih.withScalar _).cons h).cons g).cons f).cons e).cons d).cons c).cons b).cons
        a).cons 'U').cons '\\'
  | case6 c rest _ _ _ ih => exact ((ih.withScalar _).cons c).cons '\\'
  | case7 c rest _ _ _ _ _ _ ih => exact (ih.map _).cons c
  | case8 c rest => exact endsIn_none _

theorem endsIn_literalBody (t : Text) :
    EndsIn t (literalBody t) := by
  fun_induction literalBody t with
  | case1 => exact endsIn_none _
  | case2 rest => exact endsIn_some [] (List.suffix_cons _ rest)
  | case3 c rest _ _ ih => exact (ih.map _).cons c
  | case4 c rest => exact endsIn_none _

theorem endsIn_lineString? (t : Text) :
    EndsIn t (lineString? t) := by
  unfold lineString?
  split
  · exact (endsIn_basicBody _).cons _
  · exact (endsIn_literalBody _).cons _
  · exact endsIn_none _

theorem endsIn_multiLineBasicBody (joining : Bool) (t : Text) :
    EndsIn t (multiLineBasicBody joining t) := by
  fun_induction multiLineBasicBody joining t with
  | case1 joining => exact endsIn_none _
  | case2 rest ih => exact ih.cons ' '
  | case3 rest ih => exact ih.cons '\t'
  | case4 rest ih => exact ih.cons '\n'
  | case5 rest ih => exact (ih.cons '\n').cons '\r'
  | case6 joining rest => exact endsIn_some _ (List.suffix_append ['"', '"', '"', '"', '"'] rest)
  | case7 joining rest => exact endsIn_some _ (List.suffix_append ['"', '"', '"', '"'] rest)
  | case8 joining rest => exact endsIn_some _ (List.suffix_append ['"', '"', '"'] rest)
  | case9 joining a b rest ih =>
      exact ((((ih.withScalar _).cons b).cons a).cons 'x').cons '\\'
  | case10 joining a b c d rest ih =>
      exact ((((((ih.withScalar _).cons d).cons c).cons b).cons a).cons 'u').cons '\\'
  | case11 joining a b c d e f g h rest ih =>
      exact ((((((((((ih.withScalar _).cons h).cons g).cons f).cons e).cons d).cons c).cons b).cons
        a).cons 'U').cons '\\'
  | case12 joining c rest _ _ _ _ ih => exact ih.cons '\\'
  | case13 joining c rest _ _ _ _ ih => exact ((ih.withScalar _).cons c).cons '\\'
  | case14 joining rest _ ih => exact (((ih.map _).map _).cons '\n').cons '\r'
  | case15 joining c rest _ _ _ _ _ _ _ _ _ _ _ _ _ ih => exact (ih.map _).cons c
  | case16 joining c rest => exact endsIn_none _

theorem endsIn_multiLineLiteralBody (t : Text) :
    EndsIn t (multiLineLiteralBody t) := by
  fun_induction multiLineLiteralBody t with
  | case1 => exact endsIn_none _
  | case2 rest => exact endsIn_some _ (List.suffix_append ['\'', '\'', '\'', '\'', '\''] rest)
  | case3 rest => exact endsIn_some _ (List.suffix_append ['\'', '\'', '\'', '\''] rest)
  | case4 rest => exact endsIn_some _ (List.suffix_append ['\'', '\'', '\''] rest)
  | case5 rest ih => exact (((ih.map _).map _).cons '\n').cons '\r'
  | case6 c rest _ _ _ _ _ ih => exact (ih.map _).cons c
  | case7 c rest => exact endsIn_none _

theorem dropFirstNewline_suffix (t : Text) :
    dropFirstNewline t <:+ t := by
  unfold dropFirstNewline
  split
  · exact List.suffix_cons _ _
  · exact (List.suffix_cons _ _).trans (List.suffix_cons _ _)
  · exact List.suffix_refl _

theorem splitToken_suffix (t : Text) :
    (splitToken t).2 <:+ t := by
  fun_induction splitToken t with
  | case1 => exact List.suffix_refl []
  | case2 c rest _ token rest' hsplit ih =>
      rw [hsplit] at ih
      exact ih.trans (List.suffix_cons c rest)
  | case3 c rest => exact List.suffix_refl _

/-!
# Keys and values
-/

theorem leavesEnd_readName :
    LeavesEnd readName := by
  intro t
  unfold readName
  split
  · exact endsIn_lineString? _
  · exact endsIn_lineString? _
  · dsimp only
    split
    · exact endsIn_none _
    · exact endsIn_some _ (List.drop_suffix _ t)

theorem leavesEnd_readNames (total limit : Nat) :
    LeavesEnd (readNames total limit) := by
  induction limit with
  | zero =>
      exact leavesEnd_failure
  | succ limit ih =>
      apply leavesEnd_skipBlanks.bind
      intro _
      apply (leavesEnd_readName.withSpan total).bind
      intro _
      apply leavesEnd_skipBlanks.bind
      intro _
      apply leavesEnd_get.bind
      intro t
      split
      · apply (leavesEnd_expect _).bind
        intro _
        exact ih.bind fun _ => leavesEnd_pure _
      · exact leavesEnd_pure _

theorem leavesEnd_readKey (total : Nat) :
    LeavesEnd (readKey total) := by
  apply (leavesEnd_readNames total maxDepth).bind
  intro names
  split
  · exact leavesEnd_pure _
  · exact leavesEnd_failure

theorem endsIn_string? (t : Text) :
    EndsIn t (string? t) := by
  unfold string?
  split
  · rename_i rest
    exact ((endsIn_multiLineBasicBody false _).trans (dropFirstNewline_suffix rest)).trans
      (List.suffix_append ['"', '"', '"'] rest)
  · rename_i rest
    exact ((endsIn_multiLineLiteralBody _).trans (dropFirstNewline_suffix rest)).trans
      (List.suffix_append ['\'', '\'', '\''] rest)
  · exact endsIn_lineString? _

theorem leavesEnd_readScalar :
    LeavesEnd readScalar := by
  intro t
  unfold readScalar
  split
  · exact (endsIn_string? t).map _
  · intro value rest hread
    rcases Option.map_eq_some_iff.mp hread with ⟨scalar, _, hstep⟩
    cases hstep
    exact splitToken_suffix t

theorem leavesEnd_readItems
    {item : Reader α} (close : Char) (fuel : Nat) (hitem : LeavesEnd item) :
    LeavesEnd (readItems close item fuel) := by
  induction fuel with
  | zero =>
      exact leavesEnd_failure
  | succ fuel ih =>
      apply leavesEnd_skipTrivia.bind
      intro _
      apply leavesEnd_get.bind
      intro t
      split
      · exact (leavesEnd_expect _).bind fun _ => leavesEnd_pure _
      · apply hitem.bind
        intro a
        apply leavesEnd_skipTrivia.bind
        intro _
        apply leavesEnd_get.bind
        intro t
        split
        · exact (leavesEnd_expect _).bind fun _ => leavesEnd_pure _
        · exact (leavesEnd_expect _).bind fun _ => ih.bind fun _ => leavesEnd_pure _

theorem leavesEnd_readEntry
    {skip : Reader Unit} {value : Reader (Span × Value)} (total : Nat)
    (hskip : LeavesEnd skip) (hvalue : LeavesEnd value) :
    LeavesEnd (readEntry total skip value) := by
  apply (leavesEnd_readKey total).bind
  intro key
  apply hskip.bind
  intro _
  apply (leavesEnd_expect _).bind
  intro _
  exact hskip.bind fun _ => hvalue.bind fun _ => leavesEnd_pure _

theorem leavesEnd_readValue (total depth : Nat) :
    LeavesEnd (readValue total depth) := by
  induction depth with
  | zero =>
      exact leavesEnd_readScalar.withSpan total
  | succ depth ih =>
      apply LeavesEnd.withSpan total
      apply leavesEnd_get.bind
      intro t
      split
      · apply (leavesEnd_expect _).bind
        intro _
        exact (leavesEnd_readItems _ _ ih).bind fun _ => leavesEnd_pure _
      · apply (leavesEnd_expect _).bind
        intro _
        apply (leavesEnd_readItems _ _ (leavesEnd_readEntry total leavesEnd_skipTrivia ih)).bind
        intro members
        exact leavesEnd_lift _
      · exact leavesEnd_readScalar

theorem leavesEnd_readHeader (total : Nat) :
    LeavesEnd (readHeader total) := by
  apply (leavesEnd_expect _).bind
  intro _
  apply leavesEnd_get.bind
  intro t
  apply LeavesEnd.optional (leavesEnd_expect _)
  apply (leavesEnd_readKey total).bind
  intro key
  apply (leavesEnd_expect _).bind
  intro _
  exact LeavesEnd.optional (leavesEnd_expect _) (leavesEnd_pure _)

end Toml
end StubAssist

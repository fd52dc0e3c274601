import StubAssist.Proofs.Go.Groups

/-!
# Heads of declarations

What the line of a type declaration is found to declare.  Its name is the one after
`type`; its kind hangs on the letters at one place, behind the word in which the first
bracket of the type parameters is closed.  That is where the type begins, unless blanks
follow in the list, and the letters need not be those of a whole word.
-/

namespace StubAssist
namespace Go

/-!
# Declaration lines
-/

/-- ASCII digits, letters and the underscore, and beyond ASCII all that is not blank. -/
def isNameChar (c : Char) : Bool :=
  let n := c.toNat
  (48 ≤ n && n ≤ 57) || (65 ≤ n && n ≤ 90) || n == 95 || (97 ≤ n && n ≤ 122) ||
    (128 ≤ n && !Text.isBlank c)

structure IsName (name : Text) : Prop where
  nonempty : name ≠ []
  characters : name.all isNameChar = true

/-- Nothing, or a list in brackets on one line, whatever brackets are in it. -/
structure IsParameterList (parameters : Text) : Prop where
  bracketed : parameters ≠ [] ->
    exists inner, parameters = '[' :: (inner ++ [']'])
  oneLine : '\n' ∉ parameters

structure IsTypeText (type : Text) : Prop where
  begins : type.head?.any Text.isBlank = false
  oneLine : '\n' ∉ type

def declarationLine (name parameters type : Text) : Text :=
  "type".toList ++ ' ' :: (name ++ (parameters ++ ' ' :: type))

def BeginsWithWord (word t : Text) : Prop :=
  word <+: t ∧ (t.drop word.length).head?.any isNameChar = false

instance (word t : Text) : Decidable (BeginsWithWord word t) :=
  inferInstanceAs (Decidable (word <+: t ∧ (t.drop word.length).head?.any isNameChar = false))

def kindOfType (type : Text) : Option SymbolKind :=
  if BeginsWithWord "struct" type then some .struct
  else if BeginsWithWord "interface" type then some .interface
  else none

def soleSymbol (name : Text) (kind : Option SymbolKind) : List Symbol :=
  (kind.map fun kind => ⟨name, kind, .ofLines 0 0, none⟩).toList

/-- One symbol for a struct or an interface, and none for any other type. -/
def RecognisesHead (name parameters type : Text) : Prop :=
  typeDeclarations (declarationLine name parameters type) = soleSymbol name (kindOfType type)

/-- The place of the line whose letters tell the kind. -/
def decidingText (parameters type : Text) : Text :=
  let rest := stripLineComment (parameters ++ ' ' :: type)
  if parameters = [] then Text.trimStart rest
  else Text.trimStart ((rest.dropWhile (· != ']')).dropWhile (!Text.isBlank ·))

/-- No blank comes after the first closing bracket, and no comment begins in the list. -/
structure ClosesAtOnce (parameters : Text) : Prop where
  compact : (parameters.dropWhile (· != ']')).any Text.isBlank = false
  uncommented : ¬ "//".toList <:+: parameters

/-- The type begins with a longer word that has the letters of a keyword first. -/
def ExtendsKeyword (type : Text) : Prop :=
  ("struct".toList <+: type ∧ ¬ BeginsWithWord "struct" type) ∨
    ("interface".toList <+: type ∧ ¬ BeginsWithWord "interface" type)

instance (type : Text) : Decidable (ExtendsKeyword type) :=
  inferInstanceAs (Decidable
    (("struct".toList <+: type ∧ ¬ BeginsWithWord "struct" type) ∨
      ("interface".toList <+: type ∧ ¬ BeginsWithWord "interface" type)))

/-!
# Characters of names
-/

theorem isBlank_eq_false_of_isNameChar {c : Char} (hc : isNameChar c = true) :
    Text.isBlank c = false := by
  cases hblank : Text.isBlank c with
  | false =>
      rfl
  | true =>
      -- a blank in ASCII comes before all letters and digits
      have hrange : c.toNat < 48 ∨ 128 ≤ c.toNat := by
        simp only [Text.isBlank, Bool.or_eq_true, Bool.and_eq_true, decide_eq_true_eq,
          beq_iff_eq] at hblank
        omega
      simp only [isNameChar, hblank, Bool.or_eq_true, Bool.and_eq_true, decide_eq_true_eq,
        beq_iff_eq, Bool.not_true, Bool.false_eq_true, and_false, or_false] at hc
      omega

theorem IsName.isNameChar_of_mem
    {name : Text} {c : Char} (hname : IsName name) (hmem : c ∈ name) :
    isNameChar c = true :=
  List.all_eq_true.mp hname.characters c hmem

theorem IsName.not_mem
    {name : Text} {c : Char} (hname : IsName name) (hc : isNameChar c = false) :
    c ∉ name := by
  intro hmem
  rw [hname.isNameChar_of_mem hmem] at hc
  cases hc

theorem IsName.isBlank_eq_false
    {name : Text} {c : Char} (hname : IsName name) (hmem : c ∈ name) :
    Text.isBlank c = false :=
  isBlank_eq_false_of_isNameChar (hname.isNameChar_of_mem hmem)

/-!
# Comments
-/

theorem stripLineComment_cons_of_ne {c : Char} (rest : Text) (hc : c ≠ '/') :
    stripLineComment (c :: rest) = c :: stripLineComment rest := by
  rw [stripLineComment]
  intro more hslash
  exact absurd hslash hc

theorem stripLineComment_append_of_not_mem
    {t : Text} (rest : Text) (hnone : '/' ∉ t) :
    stripLineComment (t ++ rest) = t ++ stripLineComment rest := by
  induction t with
  | nil =>
      rfl
  | cons c t ih =>
      rw [List.mem_cons, not_or] at hnone
      rw [List.cons_append, stripLineComment_cons_of_ne _ (Ne.symm hnone.1), ih hnone.2]
      rfl

theorem stripLineComment_append_cons
    {t : Text} {c : Char} (rest : Text) (hc : c ≠ '/') (hnone : ¬ "//".toList <:+: t) :
    stripLineComment (t ++ c :: rest) = t ++ c :: stripLineComment rest := by
  induction t with
  | nil =>
      exact stripLineComment_cons_of_ne rest hc
  | cons d t ih =>
      have hrest := ih fun hinfix => hnone (List.infix_cons hinfix)
      rw [List.cons_append, stripLineComment, hrest]
      · rfl
      · intro more hd hmore
        cases t with
        | nil =>
            exact hc (List.cons.inj hmore).1
        | cons e t =>
            rw [hd, (List.cons.inj hmore).1] at hnone
            exact hnone (List.prefix_append "//".toList t).isInfix

theorem head?_of_stripLineComment
    {line : Text} {c : Char} (hhead : (stripLineComment line).head? = some c) :
    line.head? = some c := by
  rcases stripLineComment_prefix line with ⟨comment, hline⟩
  rw [← hline, List.head?_append, hhead]
  rfl

theorem codeOf_prefix
    {line : Text} (hhead : forall c, line.head? = some c -> Text.isBlank c = false) :
    codeOf line <+: line := by
  have hstrip := stripLineComment_prefix line
  rcases Text.exists_trim_append (stripLineComment line) with ⟨after, htrim⟩
  have hstart : Text.trimStart (stripLineComment line) = stripLineComment line := by
    apply Text.trimStart_of_head?
    intro c hc
    exact hhead c (head?_of_stripLineComment hc)
  rw [← Text.trimStart, hstart] at htrim
  exact (htrim ▸ List.prefix_append (codeOf line) after).trans hstrip

/-!
# Letters of keywords
-/

theorem prefix_takeWhile_iff
    {p : Char -> Bool} {word : Text} (t : Text) (hword : forall c, c ∈ word -> p c = true) :
    word <+: t.takeWhile p ↔ word <+: t := by
  induction word generalizing t with
  | nil =>
      simp
  | cons c word ih =>
      cases t with
      | nil =>
          simp
      | cons d t =>
          by_cases hsame : c = d
          · have hp : p d = true := by
              rw [← hsame]
              exact hword c List.mem_cons_self
            rw [List.takeWhile_cons_of_pos hp, List.cons_prefix_cons, List.cons_prefix_cons,
              ih t fun e he => hword e (List.mem_cons_of_mem c he)]
          · constructor
            · intro hprefix
              exact hprefix.trans (List.takeWhile_prefix p)
            · intro hprefix
              exact absurd (List.cons_prefix_cons.mp hprefix).1 hsame

theorem prefix_stripLineComment_iff
    {word : Text} (t : Text) (hword : '/' ∉ word) :
    word <+: stripLineComment t ↔ word <+: t := by
  constructor
  · intro hprefix
    have hstrip := stripLineComment_prefix t
    exact hprefix.trans hstrip
  · rintro ⟨rest, ht⟩
    rw [← ht, stripLineComment_append_of_not_mem rest hword]
    exact List.prefix_append word _

theorem kindOfWord_congr
    {t other : Text} (hstruct : "struct".toList <+: t ↔ "struct".toList <+: other)
    (hinterface : "interface".toList <+: t ↔ "interface".toList <+: other) :
    kindOfWord t = kindOfWord other := by
  rw [← List.isPrefixOf_iff_prefix, ← List.isPrefixOf_iff_prefix, ← Bool.eq_iff_iff]
    at hstruct hinterface
  unfold kindOfWord
  change (if "struct".toList.isPrefixOf t then some SymbolKind.struct
      else if "interface".toList.isPrefixOf t then some SymbolKind.interface else none) = _
  rw [hstruct, hinterface]
  rfl

theorem kindOfWord_takeWhile (t : Text) :
    kindOfWord (t.takeWhile (!Text.isBlank ·)) = kindOfWord t :=
  kindOfWord_congr (prefix_takeWhile_iff t (List.all_eq_true.mp (by decide)))
    (prefix_takeWhile_iff t (List.all_eq_true.mp (by decide)))

theorem kindOfWord_stripLineComment (t : Text) :
    kindOfWord (stripLineComment t) = kindOfWord t :=
  kindOfWord_congr (prefix_stripLineComment_iff t (by decide))
    (prefix_stripLineComment_iff t (by decide))

theorem head?_words_bind_kindOfWord (t : Text) :
    (Text.words t).head?.bind kindOfWord = kindOfWord (Text.trimStart t) := by
  induction t using Text.word_induction with
  | nil =>
      rfl
  | blank c rest hc ih =>
      rw [Text.words_cons_of_isBlank rest hc, ih]
      exact congrArg kindOfWord (List.dropWhile_cons_of_pos hc).symm
  | word word after hne hword hafter ih =>
      have htrim : Text.trimStart (word ++ after) = word ++ after := by
        apply Text.trimStart_of_head?
        intro c hc
        rw [List.head?_append_of_ne_nil word hne] at hc
        exact hword c (List.mem_of_head? hc)
      rw [Text.words_append_of_word hne hword hafter, List.head?_cons, Option.bind_some, htrim,
        ← kindOfWord_takeWhile (word ++ after), Text.takeWhile_append_of_word hword hafter]

/-!
# Words behind a name
-/

theorem skipTypeParameters_words (t : Text) :
    skipTypeParameters (Text.words t) =
      Text.words ((t.dropWhile (· != ']')).dropWhile (!Text.isBlank ·)) := by
  induction t using Text.word_induction with
  | nil =>
      rfl
  | blank c rest hc ih =>
      have hbracket : c ≠ ']' := by
        intro hsame
        rw [hsame] at hc
        cases hc
      rw [Text.words_cons_of_isBlank rest hc, List.dropWhile_cons_of_pos (by simpa using hbracket),
        ih]
  | word word after hne hword hafter ih =>
      rw [Text.words_append_of_word hne hword hafter, skipTypeParameters, List.dropWhile_append]
      by_cases hcloses : ']' ∈ word
      · have hrest : word.dropWhile (· != ']') ≠ [] := by
          intro hnil
          simpa using List.dropWhile_eq_nil_iff.mp hnil ']' hcloses
        have hkept : forall c, c ∈ word.dropWhile (· != ']') -> Text.isBlank c = false :=
          fun c hc => hword c ((List.dropWhile_suffix _).subset hc)
        rw [if_pos (List.elem_eq_true_of_mem hcloses), if_neg (by simpa using hrest),
          Text.dropWhile_append_of_word hkept hafter]
      · have hnone : word.dropWhile (· != ']') = [] := by
          rw [List.dropWhile_eq_nil_iff]
          intro c hc
          simpa using fun hsame : c = ']' => hcloses (hsame ▸ hc)
        rw [if_neg (by simpa using hcloses), hnone, ih]
        rfl

theorem headOf_cons (word : Text) (words : List Text) :
    headOf (word :: words) =
      ((if List.contains word '[' && !List.contains word ']' then skipTypeParameters words
          else words).head?.bind kindOfWord).map
        fun kind => (word.takeWhile (· != '['), kind) := by
  rw [headOf]
  cases (if List.contains word '[' && !List.contains word ']' then skipTypeParameters words
      else words) with
  | nil => rfl
  | cons kindWord more => rfl

theorem headOf_cons_of_mem {word : Text} (words : List Text) (hopens : '[' ∈ word) :
    headOf (word :: words) =
      ((skipTypeParameters (word :: words)).head?.bind kindOfWord).map
        fun kind => (word.takeWhile (· != '['), kind) := by
  rw [headOf_cons, skipTypeParameters]
  cases hcloses : List.contains word ']' with
  | true => simp
  | false => simp [hopens]

section Name

variable {name : Text}

theorem IsName.takeWhile_eq_self (hname : IsName name) :
    name.takeWhile (· != '[') = name := by
  rw [List.takeWhile_eq_self_iff]
  intro c hc
  simpa using fun hsame : c = '[' => hname.not_mem (by decide) (hsame ▸ hc)

theorem headOf_words_of_list (more : Text) (hname : IsName name) :
    headOf (Text.words (name ++ '[' :: more)) =
      (kindOfWord (Text.trimStart
          ((('[' :: more).dropWhile (· != ']')).dropWhile (!Text.isBlank ·)))).map
        fun kind => (name, kind) := by
  -- the first word is the name and the list up to its first blank
  have hsplit : name ++ '[' :: more =
      (name ++ '[' :: more.takeWhile (!Text.isBlank ·)) ++
        more.dropWhile (!Text.isBlank ·) := by
    rw [List.append_assoc, List.cons_append, List.takeWhile_append_dropWhile]
  have hword : forall c, c ∈ name ++ '[' :: more.takeWhile (!Text.isBlank ·) ->
      Text.isBlank c = false := by
    intro c hc
    rcases List.mem_append.mp hc with hhere | hlist
    · exact hname.isBlank_eq_false hhere
    · rcases List.mem_cons.mp hlist with hopens | hmore
      · rw [hopens]
        rfl
      · simpa using List.mem_takeWhile_imp hmore
  have hwords : Text.words (name ++ '[' :: more) =
      (name ++ '[' :: more.takeWhile (!Text.isBlank ·)) ::
        Text.words (more.dropWhile (!Text.isBlank ·)) := by
    rw [hsplit]
    exact Text.words_append_of_word (by simp) hword
      fun c hc => Text.isBlank_of_head?_dropWhile hc
  have hskipped : (name ++ '[' :: more).dropWhile (· != ']') =
      ('[' :: more).dropWhile (· != ']') := by
    apply List.dropWhile_append_of_pos
    intro c hc
    simpa using fun hsame : c = ']' => hname.not_mem (by decide) (hsame ▸ hc)
  have hcut : (name ++ '[' :: more.takeWhile (!Text.isBlank ·)).takeWhile (· != '[') = name := by
    rw [List.takeWhile_append_of_pos (List.takeWhile_eq_self_iff.mp hname.takeWhile_eq_self),
      List.takeWhile_cons_of_neg (by decide), List.append_nil]
  rw [hwords, headOf_cons_of_mem _ (by simp), ← hwords, skipTypeParameters_words, hskipped,
    head?_words_bind_kindOfWord, hcut]

theorem headOf_words_of_blank (more : Text) (hname : IsName name) :
    headOf (Text.words (name ++ ' ' :: more)) =
      (kindOfWord (Text.trimStart (' ' :: more))).map fun kind => (name, kind) := by
  have hwords : Text.words (name ++ ' ' :: more) = name :: Text.words (' ' :: more) :=
    Text.words_append_of_word hname.nonempty (fun c hc => hname.isBlank_eq_false hc)
      fun c hc => by cases hc; rfl
  have hopens : List.contains name '[' = false := by
    simpa using hname.not_mem (c := '[') (by decide)
  rw [hwords, headOf_cons, hopens, hname.takeWhile_eq_self, ← head?_words_bind_kindOfWord]
  rfl

theorem headOf_words_of_name
    {parameters : Text} (type : Text) (hname : IsName name)
    (hlist : IsParameterList parameters) :
    headOf (Text.words (name ++ stripLineComment (parameters ++ ' ' :: type))) =
      (kindOfWord (decidingText parameters type)).map fun kind => (name, kind) := by
  unfold decidingText
  by_cases hempty : parameters = []
  · have hrest : stripLineComment (parameters ++ ' ' :: type) =
        ' ' :: stripLineComment type := by
      rw [hempty]
      exact stripLineComment_cons_of_ne type (by decide)
    rw [if_pos hempty, hrest]
    exact headOf_words_of_blank _ hname
  · rcases hlist.bracketed hempty with ⟨inner, hparameters⟩
    have hrest : stripLineComment (parameters ++ ' ' :: type) =
        '[' :: stripLineComment (inner ++ [']'] ++ ' ' :: type) := by
      rw [hparameters]
      exact stripLineComment_cons_of_ne _ (by decide)
    rw [if_neg hempty, hrest]
    exact headOf_words_of_list _ hname

end Name

/-!
# The declaration of a line
-/

section Line

variable {name parameters type : Text}

theorem stripLineComment_declarationLine (hname : IsName name) :
    stripLineComment (declarationLine name parameters type) =
      "type".toList ++ ' ' :: (name ++ stripLineComment (parameters ++ ' ' :: type)) := by
  have hnone : '/' ∉ "type".toList ++ ' ' :: name := by
    simpa using hname.not_mem (c := '/') (by decide)
  have hstrip := stripLineComment_append_of_not_mem (parameters ++ ' ' :: type) hnone
  rw [List.append_assoc, List.append_assoc] at hstrip
  exact hstrip

theorem words_declarationLine (hname : IsName name) :
    Text.words (stripLineComment (declarationLine name parameters type)) =
      "type".toList ::
        Text.words (name ++ stripLineComment (parameters ++ ' ' :: type)) := by
  rw [stripLineComment_declarationLine hname,
    Text.words_append_cons_of_isBlank _ _ (by decide)]
  rfl

theorem packageOfLine_declarationLine (hname : IsName name) :
    packageOfLine (declarationLine name parameters type) = none := by
  unfold packageOfLine
  rw [words_declarationLine hname]
  rfl

theorem groupOpening_declarationLine (hname : IsName name) :
    groupOpening.isPrefixOf (codeOf (declarationLine name parameters type)) = false := by
  rw [Bool.eq_false_iff, ne_eq, List.isPrefixOf_iff_prefix]
  intro hopens
  have hcode : codeOf (declarationLine name parameters type) <+:
      declarationLine name parameters type := by
    apply codeOf_prefix
    intro c hc
    cases hc
    rfl
  have hprefix := hopens.trans hcode
  rcases List.exists_cons_of_ne_nil hname.nonempty with ⟨c, more, hcons⟩
  rw [declarationLine, hcons] at hprefix
  have hparenthesis : '(' = c := by
    simpa [groupOpening] using hprefix
  have hmem : c ∈ name := hcons ▸ List.mem_cons_self
  rw [← hparenthesis] at hmem
  exact hname.not_mem (by decide) hmem

theorem scanDeclaration_declarationLine
    (hname : IsName name) (hlist : IsParameterList parameters) :
    (scanDeclaration .initial (declarationLine name parameters type)).1 =
      (kindOfWord (decidingText parameters type)).map fun kind => (name, kind) := by
  have hwords : Text.words (codeOf (declarationLine name parameters type)) =
      "type".toList :: Text.words (name ++ stripLineComment (parameters ++ ' ' :: type)) :=
    (Text.words_trim _).trans (words_declarationLine hname)
  apply Option.ext
  intro head
  rw [scanDeclaration_head_of_none rfl, ← headOf_words_of_name type hname hlist,
    groupOpening_declarationLine hname, hwords]
  simp [ScanState.initial]

theorem lines_declarationLine
    (hname : IsName name) (hlist : IsParameterList parameters) (htype : '\n' ∉ type) :
    Text.lines (declarationLine name parameters type) =
      [declarationLine name parameters type] := by
  have hnone : '\n' ∉ declarationLine name parameters type := by
    have hletters := hname.not_mem (c := '\n') (by decide)
    simp [declarationLine, hletters, hlist.oneLine, htype]
  unfold Text.lines
  rw [(Text.pieces_of_not_mem hnone (List.cons_ne_nil 't' _)).1, List.map_singleton,
    Text.dropTerminator_of_not_mem hnone]

theorem typeDeclarations_declarationLine
    (hname : IsName name) (hlist : IsParameterList parameters) (htype : '\n' ∉ type) :
    typeDeclarations (declarationLine name parameters type) =
      soleSymbol name (kindOfWord (decidingText parameters type)) := by
  have hlines := lines_declarationLine hname hlist htype
  have hlast : linesToClose .none false 0 [declarationLine name parameters type] = 0 :=
    Nat.lt_one_iff.mp (linesToClose_lt_length (List.cons_ne_nil _ []))
  unfold typeDeclarations packageName
  rw [hlines, declarationsFrom_cons, scanDeclaration_declarationLine hname hlist, hlast,
    List.findSome?_cons, packageOfLine_declarationLine hname]
  cases kindOfWord (decidingText parameters type) with
  | none => rfl
  | some kind => rfl

/-!
# Heads that are recognised
-/

theorem kindOfWord_decidingText
    (hlist : IsParameterList parameters) (hcloses : ClosesAtOnce parameters)
    (htype : IsTypeText type) :
    kindOfWord (decidingText parameters type) = kindOfWord type := by
  have hrest := stripLineComment_append_cons (c := ' ') type (by decide) hcloses.uncommented
  have htrim : Text.trimStart (' ' :: stripLineComment type) = stripLineComment type := by
    have hstart : Text.trimStart (stripLineComment type) = stripLineComment type := by
      apply Text.trimStart_of_head?
      intro c hc
      have hbegins := htype.begins
      rw [head?_of_stripLineComment hc] at hbegins
      exact hbegins
    exact (List.dropWhile_cons_of_pos (by decide)).trans hstart
  have htext : decidingText parameters type = stripLineComment type := by
    unfold decidingText
    rw [hrest]
    by_cases hempty : parameters = []
    · rw [if_pos hempty, hempty]
      exact htrim
    · rcases hlist.bracketed hempty with ⟨inner, hparameters⟩
      have hclosing : parameters.dropWhile (· != ']') ≠ [] := by
        intro hnil
        have hmem : ']' ∈ parameters := by
          rw [hparameters]
          simp
        simpa using List.dropWhile_eq_nil_iff.mp hnil ']' hmem
      have hcompact : forall c, c ∈ parameters.dropWhile (· != ']') -> Text.isBlank c = false :=
        fun c hc => by simpa using List.any_eq_false.mp hcloses.compact c hc
      rw [if_neg hempty, List.dropWhile_append, if_neg (by simpa using hclosing),
        Text.dropWhile_append_of_word hcompact fun c hc => by cases hc; rfl]
      exact htrim
  rw [htext, kindOfWord_stripLineComment]

theorem kindOfWord_eq (t : Text) :
    kindOfWord t =
      if "struct".toList <+: t then some .struct
      else if "interface".toList <+: t then some .interface
      else none := by
  simp only [← List.isPrefixOf_iff_prefix]
  rfl

theorem kindOfWord_eq_kindOfType_iff {type : Text} :
    kindOfWord type = kindOfType type ↔ ¬ ExtendsKeyword type := by
  have hdisjoint : "struct".toList <+: type -> ¬ "interface".toList <+: type := by
    rintro ⟨rest, hstruct⟩ ⟨more, hinterface⟩
    rw [← hstruct] at hinterface
    cases hinterface
  rw [kindOfWord_eq, kindOfType]
  by_cases hstruct : "struct".toList <+: type
  · rw [if_pos hstruct]
    by_cases hword : BeginsWithWord "struct" type
    · rw [if_pos hword]
      apply iff_of_true rfl
      rintro (⟨_, hlonger⟩ | ⟨hinterface, _⟩)
      · exact hlonger hword
      · exact hdisjoint hstruct hinterface
    · have hother : ¬ BeginsWithWord "interface" type := fun h => hdisjoint hstruct h.1
      rw [if_neg hword, if_neg hother]
      exact iff_of_false nofun fun hnot => hnot (Or.inl ⟨hstruct, hword⟩)
  · have hword : ¬ BeginsWithWord "struct" type := fun h => hstruct h.1
    rw [if_neg hstruct, if_neg hword]
    by_cases hinterface : "interface".toList <+: type
    · rw [if_pos hinterface]
      by_cases hother : BeginsWithWord "interface" type
      · rw [if_pos hother]
        apply iff_of_true rfl
        rintro (⟨hletters, _⟩ | ⟨_, hlonger⟩)
        · exact hstruct hletters
        · exact hlonger hother
      · rw [if_neg hother]
        exact iff_of_false nofun fun hnot => hnot (Or.inr ⟨hinterface, hother⟩)
    · have hother : ¬ BeginsWithWord "interface" type := fun h => hinterface h.1
      rw [if_neg hinterface, if_neg hother]
      apply iff_of_true rfl
      rintro (⟨hletters, _⟩ | ⟨hletters, _⟩)
      · exact hstruct hletters
      · exact hinterface hletters

theorem soleSymbol_inj {kind other : Option SymbolKind} :
    soleSymbol name kind = soleSymbol name other ↔ kind = other := by
  cases kind with
  | none => cases other <;> simp [soleSymbol]
  | some kind => cases other <;> simp [soleSymbol]

structure ReadsHead (name parameters type : Text) : Prop where
  decided : typeDeclarations (declarationLine name parameters type) =
    soleSymbol name (kindOfWord (decidingText parameters type))
  recognised : ClosesAtOnce parameters ->
    (RecognisesHead name parameters type ↔ ¬ ExtendsKeyword type)

theorem readsHead
    (hname : IsName name) (hlist : IsParameterList parameters) (htype : IsTypeText type) :
    ReadsHead name parameters type := by
  have hdecided := typeDeclarations_declarationLine hname hlist htype.oneLine
  constructor
  · exact hdecided
  · intro hcloses
    rw [RecognisesHead, hdecided, soleSymbol_inj, kindOfWord_decidingText hlist hcloses htype]
    exact kindOfWord_eq_kindOfType_iff

theorem readsHead_map :
    IsName "Map" ∧ IsParameterList "[K comparable, V []K]" ∧ IsTypeText "struct \x7b" ∧
      ReadsHead "Map" "[K comparable, V []K]" "struct \x7b" ∧
      RecognisesHead "Map" "[K comparable, V []K]" "struct \x7b" := by
  have hname : IsName "Map" := ⟨by decide, by decide⟩
  have hlist : IsParameterList "[K comparable, V []K]" :=
    ⟨fun _ => ⟨"K comparable, V []K", rfl⟩, by decide⟩
  have htype : IsTypeText "struct \x7b" := ⟨by decide, by decide⟩
  have hcloses : ClosesAtOnce "[K comparable, V []K]" := ⟨by decide, by decide⟩
  have hreads := readsHead hname hlist htype
  exact ⟨hname, hlist, htype, hreads, (hreads.recognised hcloses).mpr (by decide)⟩

/-- A longer word passes for a keyword, and a blank after a bracket hides a struct. -/
theorem not_recognisesHead :
    (IsName "Foo" ∧ IsTypeText "structure" ∧ ¬ RecognisesHead "Foo" [] "structure") ∧
      IsName "Pair" ∧ IsParameterList "[S []int, T any]" ∧ IsTypeText "struct\x7b\x7d" ∧
        ¬ RecognisesHead "Pair" "[S []int, T any]" "struct\x7b\x7d" := by
  refine ⟨⟨⟨by decide, by decide⟩, ⟨by decide, by decide⟩, ?_⟩, ⟨by decide, by decide⟩,
    ⟨fun _ => ⟨"S []int, T any", rfl⟩, by decide⟩, ⟨by decide, by decide⟩, ?_⟩
  · intro hrecognised
    have hreported : typeDeclarations (declarationLine "Foo" [] "structure") =
        [⟨"Foo", .struct, .ofLines 0 0, none⟩] := by decide
    cases hreported.symm.trans hrecognised
  · intro hrecognised
    have hreported : typeDeclarations
        (declarationLine "Pair" "[S []int, T any]" "struct\x7b\x7d") = [] := by decide
    cases hreported.symm.trans hrecognised

end Line

end Go
end StubAssist

import Mathlib.Data.List.Basic
import StubAssist.Proofs.QuickFix.Stages

/-!
# Typed lines

The command line of a generator is shown for a user to type.  A shell takes it apart at
the blanks outside of double quotes, and only the receiver stands between quotes.  So the
shell comes to the very words that the generator is run with where the other words need
no quotes, and nowhere else.
-/

namespace StubAssist
namespace Text

/-!
# Words of a shell
-/

/-- The words of the rest of a line, where `word` is the one that has begun, if any has. -/
def shellWordsFrom (isQuoted : Bool) (word : Option Text) : Text -> Option (List Text)
  | [] => if isQuoted then none else some word.toList
  | c :: rest =>
      if c = '"' then shellWordsFrom (!isQuoted) (some (word.getD [])) rest
      else if c = ' ' ∧ isQuoted = false then
        (shellWordsFrom false none rest).map (word.toList ++ ·)
      else shellWordsFrom isQuoted (some (word.getD [] ++ [c])) rest

/--
The words that a shell makes of a line: blanks part them, except between double quotes,
and the quotes are left out.  A quote that stays open makes no words.
-/
def shellWords (line : Text) : Option (List Text) :=
  shellWordsFrom false none line

/-- A word that a shell takes as it stands. -/
structure IsPlainWord (word : Text) : Prop where
  ne_nil : word ≠ []
  no_blank : ' ' ∉ word
  no_quote : '"' ∉ word

section Steps

variable {isQuoted : Bool} {word : Option Text} {rest : Text}

theorem shellWordsFrom_quote :
    shellWordsFrom isQuoted word ('"' :: rest) =
      shellWordsFrom (!isQuoted) (some (word.getD [])) rest :=
  if_pos rfl

theorem shellWordsFrom_gap :
    shellWordsFrom false word (' ' :: rest) =
      (shellWords rest).map (word.toList ++ ·) :=
  rfl

theorem shellWordsFrom_char
    {c : Char} (hquote : c ≠ '"') (hgap : isQuoted = false -> c ≠ ' ') :
    shellWordsFrom isQuoted word (c :: rest) =
      shellWordsFrom isQuoted (some (word.getD [] ++ [c])) rest := by
  have hpart : ¬ (c = ' ' ∧ isQuoted = false) := fun h => hgap h.2 h.1
  rw [shellWordsFrom, if_neg hquote, if_neg hpart]

theorem char_cases (isQuoted : Bool) (c : Char) :
    c = '"' ∨ (c = ' ' ∧ isQuoted = false) ∨ (c ≠ '"' ∧ (isQuoted = false -> c ≠ ' ')) := by
  by_cases hquote : c = '"'
  · exact Or.inl hquote
  · by_cases hgap : c = ' ' ∧ isQuoted = false
    · exact Or.inr (Or.inl hgap)
    · exact Or.inr (Or.inr ⟨hquote, fun hopen hblank => hgap ⟨hblank, hopen⟩⟩)

end Steps

/-!
# Parts of a line
-/

theorem shellWordsFrom_append_gap
    {isQuoted : Bool} {word : Option Text} {t : Text} {words : List Text} (rest : Text)
    (hwords : shellWordsFrom isQuoted word t = some words) :
    shellWordsFrom isQuoted word (t ++ ' ' :: rest) = (shellWords rest).map (words ++ ·) := by
  induction t generalizing isQuoted word words with
  | nil =>
      cases isQuoted with
      | true => cases hwords
      | false =>
          cases hwords
          exact shellWordsFrom_gap
  | cons c t ih =>
      rw [List.cons_append]
      rcases char_cases isQuoted c with rfl | ⟨rfl, rfl⟩ | ⟨hquote, hgap⟩
      · rw [shellWordsFrom_quote] at hwords ⊢
        exact ih hwords
      · -- The word that has begun ends here; it comes before all that the rest makes.
        rw [shellWordsFrom_gap, Option.map_eq_some_iff] at hwords
        rcases hwords with ⟨later, hlater, rfl⟩
        rw [shellWordsFrom_gap, shellWords, ih hlater, Option.map_map]
        congr 1
        funext more
        exact (List.append_assoc _ later more).symm
      · rw [shellWordsFrom_char hquote hgap] at hwords ⊢
        exact ih hwords

theorem shellWords_append_gap
    {t : Text} {words : List Text} (rest : Text) (hwords : shellWords t = some words) :
    shellWords (t ++ ' ' :: rest) = (shellWords rest).map (words ++ ·) :=
  shellWordsFrom_append_gap rest hwords

theorem shellWordsFrom_append_of_chars
    {isQuoted : Bool} {t : Text} (word rest : Text) (hquote : '"' ∉ t)
    (hgap : isQuoted = false -> ' ' ∉ t) :
    shellWordsFrom isQuoted (some word) (t ++ rest) =
      shellWordsFrom isQuoted (some (word ++ t)) rest := by
  induction t generalizing word with
  | nil =>
      rw [List.nil_append, List.append_nil]
  | cons c t ih =>
      rw [List.mem_cons, not_or] at hquote
      have hchar : isQuoted = false -> c ≠ ' ' := fun hopen heq =>
        hgap hopen (heq ▸ List.mem_cons_self)
      have hrest : isQuoted = false -> ' ' ∉ t := fun hopen hmem =>
        hgap hopen (List.mem_cons_of_mem c hmem)
      rw [List.cons_append, shellWordsFrom_char (Ne.symm hquote.1) hchar, Option.getD_some,
        ih (word ++ [c]) hquote.2 hrest, List.append_assoc]
      rfl

theorem shellWords_of_isPlainWord
    {word : Text} (hword : IsPlainWord word) :
    shellWords word = some [word] := by
  cases word with
  | nil =>
      exact absurd rfl hword.ne_nil
  | cons c t =>
      rcases not_or.mp (mt List.mem_cons.mpr hword.no_quote) with ⟨hquote, hquotes⟩
      rcases not_or.mp (mt List.mem_cons.mpr hword.no_blank) with ⟨hblank, hblanks⟩
      have hall : shellWordsFrom false (some [c]) (t ++ []) = some [c :: t] :=
        shellWordsFrom_append_of_chars [c] [] hquotes fun _ => hblanks
      rw [List.append_nil] at hall
      rw [shellWords, shellWordsFrom_char (Ne.symm hquote) fun _ => Ne.symm hblank]
      exact hall

theorem shellWords_quoted_append_gap
    {t : Text} (rest : Text) (hquote : '"' ∉ t) :
    shellWords ('"' :: t ++ '"' :: ' ' :: rest) = (shellWords rest).map (t :: ·) := by
  rw [shellWords, List.cons_append, shellWordsFrom_quote,
    shellWordsFrom_append_of_chars _ _ hquote (fun hopen => by cases hopen),
    shellWordsFrom_quote]
  exact shellWordsFrom_gap

theorem quote_notMem_of_shellWordsFrom
    {isQuoted : Bool} {begun : Option Text} {t : Text} {words : List Text}
    (hbegun : forall word, begun = some word -> '"' ∉ word)
    (hwords : shellWordsFrom isQuoted begun t = some words) :
    forall word, word ∈ words -> '"' ∉ word := by
  have hstart : '"' ∉ begun.getD [] := by
    cases begun with
    | none => exact List.not_mem_nil
    | some word => exact hbegun word rfl
  induction t generalizing isQuoted begun words with
  | nil =>
      cases isQuoted with
      | true => cases hwords
      | false =>
          cases hwords
          intro word hword
          exact hbegun word (Option.mem_toList.mp hword)
  | cons c t ih =>
      rcases char_cases isQuoted c with rfl | ⟨rfl, rfl⟩ | ⟨hquote, hgap⟩
      · rw [shellWordsFrom_quote] at hwords
        exact ih (fun word heq => Option.some.inj heq ▸ hstart) hwords hstart
      · rw [shellWordsFrom_gap, Option.map_eq_some_iff] at hwords
        rcases hwords with ⟨later, hlater, rfl⟩
        intro word hword
        rcases List.mem_append.mp hword with hfirst | hmore
        · exact hbegun word (Option.mem_toList.mp hfirst)
        · exact ih (fun _ heq => by cases heq) hlater List.not_mem_nil word hmore
      · rw [shellWordsFrom_char hquote hgap] at hwords
        have hnext : '"' ∉ begun.getD [] ++ [c] := by
          simpa [hstart] using Ne.symm hquote
        exact ih (fun word heq => Option.some.inj heq ▸ hnext) hwords hnext

theorem quote_notMem_of_shellWords
    {t word : Text} {words : List Text} (hwords : shellWords t = some words)
    (hword : word ∈ words) :
    '"' ∉ word :=
  quote_notMem_of_shellWordsFrom (fun _ heq => by cases heq) hwords word hword

theorem exists_shellWordsFrom_of_no_quote
    {begun : Option Text} {t : Text} (hquote : '"' ∉ t)
    (hbegun : forall word, begun = some word -> word ≠ [] ∧ ' ' ∉ word) :
    exists words,
      shellWordsFrom false begun t = some words ∧
        forall word, word ∈ words -> word ≠ [] ∧ ' ' ∉ word := by
  induction t generalizing begun with
  | nil =>
      exact ⟨begun.toList, rfl, fun word hword => hbegun word (Option.mem_toList.mp hword)⟩
  | cons c t ih =>
      rw [List.mem_cons, not_or] at hquote
      by_cases hblank : c = ' '
      · have hnone : forall word, (none : Option Text) = some word -> word ≠ [] ∧ ' ' ∉ word :=
          fun _ heq => by cases heq
        rcases ih hquote.2 hnone with ⟨later, hlater, hkept⟩
        refine ⟨begun.toList ++ later, ?_, ?_⟩
        · rw [hblank, shellWordsFrom_gap, shellWords, hlater]
          rfl
        · intro word hword
          rcases List.mem_append.mp hword with hfirst | hmore
          · exact hbegun word (Option.mem_toList.mp hfirst)
          · exact hkept word hmore
      · have hnext : ' ' ∉ begun.getD [] ++ [c] := by
          cases begun with
          | none => simpa using Ne.symm hblank
          | some word => simpa [(hbegun word rfl).2] using Ne.symm hblank
        rw [shellWordsFrom_char (Ne.symm hquote.1) fun _ => hblank]
        apply ih hquote.2
        intro word heq
        rw [← Option.some.inj heq]
        exact ⟨List.append_ne_nil_of_right_ne_nil _ (List.cons_ne_nil c []), hnext⟩

theorem exists_shellWords_of_no_quote
    {t : Text} (hquote : '"' ∉ t) :
    exists words,
      shellWords t = some words ∧
        forall word, word ∈ words -> word ≠ [] ∧ ' ' ∉ word :=
  exists_shellWordsFrom_of_no_quote hquote fun _ heq => by cases heq

/-!
# Joined words
-/

theorem joinWith_cons_cons (sep first second : Text) (more : List Text) :
    joinWith sep (first :: second :: more) =
      first ++ sep ++ joinWith sep (second :: more) :=
  rfl

theorem notMem_joinWith
    {sep : Text} {parts : List Text} {c : Char} (hsep : c ∉ sep)
    (hparts : forall part, part ∈ parts -> c ∉ part) :
    c ∉ joinWith sep parts := by
  induction parts with
  | nil =>
      exact List.not_mem_nil
  | cons first more ih =>
      have hfirst := hparts first List.mem_cons_self
      have hmore := ih fun part hpart => hparts part (List.mem_cons_of_mem first hpart)
      cases more with
      | nil =>
          exact hfirst
      | cons second more =>
          rw [joinWith_cons_cons, List.mem_append, List.mem_append]
          rintro ((hmem | hmem) | hmem)
          · exact hfirst hmem
          · exact hsep hmem
          · exact hmore hmem

theorem shellWords_joinWith_of_isPlainWord
    {first : Text} {more : List Text}
    (hplain : forall word, word ∈ first :: more -> IsPlainWord word) :
    shellWords (joinWith [' '] (first :: more)) = some (first :: more) := by
  induction more generalizing first with
  | nil =>
      exact shellWords_of_isPlainWord (hplain first List.mem_cons_self)
  | cons second more ih =>
      have hfirst := shellWords_of_isPlainWord (hplain first List.mem_cons_self)
      have hmore := ih fun word hword => hplain word (List.mem_cons_of_mem first hword)
      rw [joinWith_cons_cons, List.append_assoc, List.singleton_append,
        shellWords_append_gap _ hfirst, hmore]
      rfl

end Text

/-!
# Command lines
-/

theorem StubCommand.blank_mem_receiver_of_compose
    {trigger : Trigger} {candidate : Candidate} {settings : ReceiverSettings}
    {command : StubCommand} (hcomposed : compose trigger candidate settings = .ok command) :
    ' ' ∈ command.receiver := by
  rcases compose_eq_ok_iff.mp hcomposed with ⟨_, rfl⟩
  show ' ' ∈ receiverExpression settings trigger.structName
  unfold receiverExpression
  cases settings.receiverType <;> simp

namespace Generator

open Text (shellWords IsPlainWord)

/-- The parts of a command line are such that it can be typed as it is shown. -/
structure IsTypable (generator : Generator) (command : StubCommand) : Prop where
  words : forall word, word ∈ generator.tool :: generator.arguments -> IsPlainWord word
  receiver : '"' ∉ command.receiver
  interface : IsPlainWord command.interface

variable {generator : Generator} {command : StubCommand}

theorem commandLine_eq (generator : Generator) (command : StubCommand) :
    generator.commandLine command =
      Text.joinWith [' '] (generator.tool :: generator.arguments) ++
        ' ' :: ('"' :: command.receiver ++ '"' :: ' ' :: command.interface) :=
  rfl

theorem shellWords_commandLine
    {before after : List Text} (hreceiver : '"' ∉ command.receiver)
    (hbefore :
      shellWords (Text.joinWith [' '] (generator.tool :: generator.arguments)) = some before)
    (hafter : shellWords command.interface = some after) :
    shellWords (generator.commandLine command) =
      some (before ++ command.receiver :: after) := by
  rw [commandLine_eq, Text.shellWords_append_gap _ hbefore,
    Text.shellWords_quoted_append_gap command.interface hreceiver, hafter]
  rfl

theorem IsTypable.shellWords_eq (htypable : generator.IsTypable command) :
    shellWords (generator.commandLine command) =
      some (generator.tool :: generator.arguments ++ [command.receiver, command.interface]) :=
  shellWords_commandLine htypable.receiver
    (Text.shellWords_joinWith_of_isPlainWord htypable.words)
    (Text.shellWords_of_isPlainWord htypable.interface)

theorem isTypable_of_shellWords_eq
    (hblank : ' ' ∈ command.receiver)
    (hwords : shellWords (generator.commandLine command) =
      some (generator.tool :: generator.arguments ++ [command.receiver, command.interface])) :
    generator.IsTypable command := by
  have hparts : forall part, part ∈ generator.tool :: generator.arguments -> '"' ∉ part :=
    fun part hpart => Text.quote_notMem_of_shellWords hwords (List.mem_append_left _ hpart)
  have hreceiver : '"' ∉ command.receiver :=
    Text.quote_notMem_of_shellWords hwords (List.mem_append_right _ (by simp))
  have hinterface : '"' ∉ command.interface :=
    Text.quote_notMem_of_shellWords hwords (List.mem_append_right _ (by simp))
  have hjoined : '"' ∉ Text.joinWith [' '] (generator.tool :: generator.arguments) :=
    Text.notMem_joinWith (by decide) hparts
  rcases Text.exists_shellWords_of_no_quote hjoined with ⟨before, hbefore, hbeforeBlank⟩
  rcases Text.exists_shellWords_of_no_quote hinterface with ⟨after, hafter, hafterBlank⟩
  -- Of all words only the receiver has a blank in it, so it is at one place in both lists.
  have hlists := (shellWords_commandLine hreceiver hbefore hafter).symm.trans hwords
  rcases (List.append_cons_inj_of_notMem (fun hmem => (hbeforeBlank _ hmem).2 hblank)
    (fun hmem => (hafterBlank _ hmem).2 hblank)).mp (Option.some.inj hlists) with
    ⟨htool, _, hlast⟩
  constructor
  · intro word hword
    have hkept := hbeforeBlank word (htool ▸ hword)
    exact ⟨hkept.1, hkept.2, hparts word hword⟩
  · exact hreceiver
  · have hkept := hafterBlank command.interface (hlast ▸ List.mem_cons_self)
    exact ⟨hkept.1, hkept.2, hinterface⟩

/--
A shell makes of the shown line the program and the arguments that are run exactly if
none of them but the receiver needs quotes, and the receiver has none in it.
-/
theorem shellWords_commandLine_eq_iff
    {trigger : Trigger} {candidate : Candidate} {settings : ReceiverSettings}
    (directory : Text) (hcomposed : StubCommand.compose trigger candidate settings = .ok command) :
    shellWords (generator.commandLine command) =
        some ((generator.invocation command directory).program ::
          (generator.invocation command directory).arguments) ↔
      generator.IsTypable command :=
  ⟨isTypable_of_shellWords_eq (StubCommand.blank_mem_receiver_of_compose hcomposed),
    IsTypable.shellWords_eq⟩

/-!
# Two generators
-/

def fooReader : StubCommand :=
  ⟨"f *Foo", "Foo", "io.Reader"⟩

def builtFirst : Generator :=
  ⟨"go", ["run", "./impl"], 10000⟩

theorem shellWords_commandLine_builtFirst :
    StubCommand.compose ⟨"type Foo struct", "Foo"⟩ (.ofQualified "io.Reader") .default =
        .ok fooReader ∧
      (shellWords (builtFirst.commandLine fooReader) =
          some ((builtFirst.invocation fooReader ".").program ::
            (builtFirst.invocation fooReader ".").arguments) ↔
        builtFirst.IsTypable fooReader) ∧
      shellWords (builtFirst.commandLine fooReader) =
        some ["go".toList, "run", "./impl", "f *Foo", "io.Reader"] := by
  have hcomposed : StubCommand.compose ⟨"type Foo struct", "Foo"⟩ (.ofQualified "io.Reader")
      .default = .ok fooReader := rfl
  exact ⟨hcomposed, shellWords_commandLine_eq_iff "." hcomposed, by decide⟩

/-- A generator that is a script, which is one argument with a blank in it. -/
def scripted : Generator :=
  ⟨"sh", ["-c", "echo hi", "stub"], 10000⟩

/-- The shell would take the script apart. -/
theorem shellWords_commandLine_ne_scripted :
    StubCommand.compose ⟨"type Foo struct", "Foo"⟩ (.ofQualified "io.Reader") .default =
        .ok fooReader ∧
      scripted.commandLine fooReader = "sh -c echo hi stub \"f *Foo\" io.Reader".toList ∧
      shellWords (scripted.commandLine fooReader) =
        some ["sh".toList, "-c", "echo", "hi", "stub", "f *Foo", "io.Reader"] ∧
      shellWords (scripted.commandLine fooReader) ≠
        some ((scripted.invocation fooReader ".").program ::
          (scripted.invocation fooReader ".").arguments) := by
  refine ⟨rfl, ?_, ?_, ?_⟩
  · decide
  · decide
  · decide

end Generator
end StubAssist

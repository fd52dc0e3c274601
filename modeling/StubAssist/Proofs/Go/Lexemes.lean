import Mathlib.Data.List.Infix
import StubAssist.Proofs.Go.Bodies
import StubAssist.Proofs.Text.Splices

/-!
# Lexemes of a source

A source is cut into lexemes: single characters of its code, and literals and comments
with what stands between their delimiters.  Each one is judged with the text that
follows it, so that no two slashes of the code are the start of a comment.

The scanner reads line by line and hands on one flag.  Without block comments it meets
the code of the lexemes and nothing else, and of a literal or comment it notices the
lines and no character.  It does not know block comments, and takes the first one for code.
-/

namespace StubAssist
namespace Go

/-!
# Lexemes
-/

/-- A character of the code, or a literal or comment with what its delimiters enclose. -/
inductive Lexeme where
  | code (c : Char)
  | quoted (quote : Char) (body : Text)
  | raw (body : Text)
  | lineComment (body : Text)
  | blockComment (body : Text)
deriving DecidableEq, Repr

/-- No quote and no line feed, but that a backslash takes the next character with it. -/
def isQuotedBody (quote : Char) : Text -> Bool
  | [] => true
  | '\\' :: c :: rest => c != '\n' && isQuotedBody quote rest
  | c :: rest => c != quote && c != '\\' && c != '\n' && isQuotedBody quote rest

namespace Lexeme

def text : Lexeme -> Text
  | code c => [c]
  | quoted quote body => quote :: (body ++ [quote])
  | raw body => '\x60' :: (body ++ ['\x60'])
  | lineComment body => '/' :: '/' :: body
  | blockComment body => '/' :: '*' :: (body ++ ['*', '/'])

/-- A lexeme where `after` follows: a line comment takes the rest of its line. -/
def Fits (after : Text) : Lexeme -> Prop
  | code c =>
      c ≠ '"' ∧ c ≠ '\'' ∧ c ≠ '\x60' ∧
        (c = '/' -> after.head? ≠ some '/' ∧ after.head? ≠ some '*')
  | quoted quote body => (quote = '"' ∨ quote = '\'') ∧ isQuotedBody quote body = true
  | raw body => '\x60' ∉ body
  | lineComment body => '\n' ∉ body ∧ (after = [] ∨ after.head? = some '\n')
  | blockComment body => ¬ ['*', '/'] <:+: body

instance (after : Text) (lexeme : Lexeme) : Decidable (lexeme.Fits after) := by
  cases lexeme <;> dsimp only [Fits] <;> infer_instance

def isBlockComment : Lexeme -> Bool
  | blockComment _ => true
  | _ => false

end Lexeme

def textOf (lexemes : List Lexeme) : Text :=
  lexemes.flatMap Lexeme.text

def IsSource : List Lexeme -> Prop
  | [] => True
  | lexeme :: rest => lexeme.Fits (textOf rest) ∧ IsSource rest

instance decidableIsSource : (lexemes : List Lexeme) -> Decidable (IsSource lexemes)
  | [] => isTrue trivial
  | _ :: rest => @instDecidableAnd _ _ inferInstance (decidableIsSource rest)

def HasNoBlockComment (lexemes : List Lexeme) : Prop :=
  forall lexeme, lexeme ∈ lexemes -> lexeme.isBlockComment = false

/-!
# What is to be read
-/

/-- A lexeme without what a literal or comment holds, but for the lines that end in it. -/
inductive Trace where
  | code (c : Char)
  | hidden (inRaw : Bool) (breaks : Nat)
deriving DecidableEq, Repr

def Lexeme.trace : Lexeme -> Trace
  | code c => .code c
  | quoted _ _ => .hidden false 0
  | raw body => .hidden true (body.count '\n')
  | lineComment _ => .hidden false 0
  | blockComment body => .hidden false (body.count '\n')

namespace Trace

def isTerminator (c : Char) (after : List Trace) : Bool :=
  c == '\n' || (c == '\r' && after.head? == some (.code '\n'))

theorem isTerminator_iff
    {c : Char} {after : List Trace} (hc : c ≠ '\n') :
    isTerminator c after = true <-> c = '\r' ∧ after.head? = some (.code '\n') := by
  simp [isTerminator, hc]

def visible : List Trace -> List Char
  | [] => []
  | .code c :: rest => if isTerminator c rest then visible rest else c :: visible rest
  | .hidden _ _ :: rest => visible rest

def addCode (c : Char) : List (List Char × Bool) -> List (List Char × Bool)
  | [] => [([c], false)]
  | (before, inRaw) :: more => (c :: before, inRaw) :: more

/-- Something at the beginning of the first line, which makes it a line. -/
def touch : List (List Char × Bool) -> List (List Char × Bool)
  | [] => [([], false)]
  | line :: more => line :: more

/-- Line by line the code characters, and whether the line ends inside a raw string. -/
def byLine (later : List (List Char × Bool)) : List Trace -> List (List Char × Bool)
  | [] => later
  | .code c :: rest =>
      if c = '\n' then ([], false) :: byLine later rest
      else if isTerminator c rest then byLine later rest
      else addCode c (byLine later rest)
  | .hidden inRaw breaks :: rest =>
      List.replicate breaks ([], inRaw) ++ touch (byLine later rest)

end Trace

def tracesOf (lexemes : List Lexeme) : List Trace :=
  lexemes.map Lexeme.trace

/-!
# Several lines
-/

def readLines : Mode -> List Text -> List (List Char × Bool)
  | _, [] => []
  | mode, line :: rest =>
      scanLine mode line :: readLines (.atLineStart (scanLine mode line).2) rest

theorem codeOfLines_eq (inRaw : Bool) (lines : List Text) :
    codeOfLines inRaw lines = (readLines (.atLineStart inRaw) lines).flatMap Prod.fst := by
  induction lines generalizing inRaw with
  | nil =>
      rfl
  | cons line rest ih =>
      show codeChars inRaw line ++ codeOfLines (rawAfter inRaw line) rest = _
      rw [ih]
      rfl

theorem rawAfterLines_eq (inRaw : Bool) (lines : List Text) :
    rawAfterLines inRaw lines =
      (readLines (.atLineStart inRaw) lines).foldl (fun _ line => line.2) inRaw := by
  induction lines generalizing inRaw with
  | nil =>
      rfl
  | cons line rest ih =>
      exact ih (rawAfter inRaw line)

theorem readLines_take (mode : Mode) (lines : List Text) (count : Nat) :
    readLines mode (lines.take count) = (readLines mode lines).take count := by
  induction lines generalizing mode count with
  | nil =>
      simp [readLines]
  | cons line rest ih =>
      cases count with
      | zero =>
          rfl
      | succ count =>
          simp [readLines, ih]

theorem readLines_drop (inRaw : Bool) (lines : List Text) (count : Nat) :
    readLines (.atLineStart (rawAfterLines inRaw (lines.take count))) (lines.drop count) =
      (readLines (.atLineStart inRaw) lines).drop count := by
  induction lines generalizing inRaw count with
  | nil =>
      simp [readLines]
  | cons line rest ih =>
      cases count with
      | zero =>
          rfl
      | succ count =>
          exact ih (rawAfter inRaw line) count

theorem linesToClose_of_readLines
    {braces : Braces} {inRaw : Bool} {lines others : List Text} (passed : Nat)
    (hread : readLines (.atLineStart inRaw) others = readLines (.atLineStart inRaw) lines) :
    linesToClose braces inRaw passed others = linesToClose braces inRaw passed lines := by
  induction lines generalizing braces inRaw others passed with
  | nil =>
      cases others with
      | nil =>
          rfl
      | cons other others =>
          cases hread
  | cons line lines ih =>
      cases others with
      | nil =>
          cases hread
      | cons other others =>
          rcases List.cons.inj hread with ⟨hline, hrest⟩
          have hcode : codeChars inRaw other = codeChars inRaw line :=
            congrArg Prod.fst hline
          have hraw : rawAfter inRaw other = rawAfter inRaw line :=
            congrArg Prod.snd hline
          have hlater : forall next,
              linesToClose next (rawAfter inRaw line) (passed + 1) others =
                linesToClose next (rawAfter inRaw line) (passed + 1) lines := by
            intro next
            rw [hline] at hrest
            exact ih (passed + 1) hrest
          simp only [linesToClose, hcode, hraw, hlater]

/-!
# The lines of a text
-/

def readText (mode : Mode) (t : Text) : List (List Char × Bool) :=
  readLines mode (Text.lines t)

theorem readText_newline (mode : Mode) (rest : Text) :
    readText mode ('\n' :: rest) =
      ([], mode.isRaw) :: readText (.atLineStart mode.isRaw) rest := by
  unfold readText
  rw [Text.lines_cons_newline, readLines, scanLine]

theorem readText_return_newline (mode : Mode) (rest : Text) :
    readText mode ('\r' :: '\n' :: rest) = readText mode ('\n' :: rest) := rfl

theorem head?_dropTerminator (c : Char) (piece : Text) :
    Text.dropTerminator (c :: piece) = [] ∨
      (Text.dropTerminator (c :: piece)).head? = some c := by
  unfold Text.dropTerminator
  split
  · exact Or.inl rfl
  · exact Or.inl rfl
  · exact Or.inl rfl
  · rename_i hcons
    cases hcons
    exact Or.inr rfl

theorem exists_lines_cons
    {c d : Char} {rest : Text} (hc : c ≠ '\n') (hreturn : c = '\r' -> d ≠ '\n') :
    exists line more,
      Text.lines (d :: rest) = line :: more ∧
        Text.lines (c :: d :: rest) = (c :: line) :: more ∧
          (line = [] ∨ line.head? = some d) := by
  rcases Text.exists_pieces_cons d rest with ⟨piece, more, hpieces⟩
  refine ⟨Text.dropTerminator (d :: piece), more.map Text.dropTerminator, ?_, ?_,
    head?_dropTerminator d piece⟩
  · rw [Text.lines, hpieces, List.map_cons]
  · have hmore : c ≠ '\r' ∨ d ≠ '\n' ∨ piece ≠ [] := by
      by_cases hcr : c = '\r'
      · exact Or.inr (Or.inl (hreturn hcr))
      · exact Or.inl hcr
    rw [Text.lines, Text.pieces_cons_of_pieces_cons hc hpieces, List.map_cons,
      Text.dropTerminator_cons hmore]

theorem exists_lines_append
    {s t : Text} (hs : '\n' ∉ s) (hlast : s.getLast? ≠ some '\r') (ht : t ≠ []) :
    exists line more,
      Text.lines t = line :: more ∧ Text.lines (s ++ t) = (s ++ line) :: more := by
  have hpos := Text.length_lines_pos ht
  rcases List.exists_cons_of_ne_nil (List.ne_nil_of_length_pos hpos) with ⟨line, more, hlines⟩
  rcases Text.exists_lines_append_of_not_mem hs hlines with ⟨joined, happend, hjoined | hreturn⟩
  · exact ⟨line, more, hlines, by rw [happend, hjoined]⟩
  · rw [hreturn.2, List.getLast?_concat] at hlast
    exact absurd rfl hlast

/-!
# One lexeme
-/

theorem readText_last
    {mode : Mode} {t : Text} (ht : t ≠ []) (hnone : '\n' ∉ t) :
    readText mode t = [scanLine mode t] := by
  rw [readText, Text.lines, (Text.pieces_of_not_mem hnone ht).1, List.map_singleton,
    Text.dropTerminator_of_not_mem hnone]
  rfl

theorem touch_readText
    {mode : Mode} {t : Text} (ht : t ≠ []) :
    Trace.touch (readText mode t) = readText mode t := by
  have hpos := Text.length_lines_pos ht
  unfold readText
  cases hlines : Text.lines t with
  | nil =>
      rw [hlines] at hpos
      cases hpos
  | cons line more =>
      rfl

theorem scanLine_quotedBody
    {quote : Char} {body : Text} (line : Text)
    (hquote : quote ≠ '\\') (hbody : isQuotedBody quote body = true) :
    scanLine (.quoted quote) (body ++ quote :: line) = scanLine .code line := by
  fun_induction isQuotedBody quote body with
  | case1 =>
      rw [List.nil_append, scanLine_quoted_cons line hquote, if_pos rfl]
  | case2 c rest ih =>
      rw [Bool.and_eq_true] at hbody
      exact ih hbody.2
  | case3 c rest hescape ih =>
      simp only [Bool.and_eq_true, bne_iff_ne] at hbody
      rcases hbody with ⟨⟨⟨hc, hbackslash⟩, _⟩, hrest⟩
      rw [List.cons_append, scanLine_quoted_cons _ hbackslash, if_neg hc]
      exact ih hrest

theorem newline_not_mem_of_isQuotedBody
    {quote : Char} {body : Text} (hbody : isQuotedBody quote body = true) :
    '\n' ∉ body := by
  fun_induction isQuotedBody quote body with
  | case1 =>
      exact List.not_mem_nil
  | case2 c rest ih =>
      simp only [Bool.and_eq_true, bne_iff_ne] at hbody
      simp [ih hbody.2, Ne.symm hbody.1]
  | case3 c rest hescape ih =>
      simp only [Bool.and_eq_true, bne_iff_ne] at hbody
      rcases hbody with ⟨⟨_, hc⟩, hrest⟩
      simp [ih hrest, Ne.symm hc]

theorem readText_append_of_scanLine
    {mode : Mode} {s : Text} (after : Text)
    (hne : s ≠ []) (hnone : '\n' ∉ s) (hlast : s.getLast? ≠ some '\r')
    (hscan : forall line, scanLine mode (s ++ line) = scanLine .code line) :
    readText mode (s ++ after) = Trace.touch (readText .code after) := by
  by_cases hafter : after = []
  · have hend := hscan []
    rw [List.append_nil] at hend
    rw [hafter, List.append_nil, readText_last hne hnone, hend]
    rfl
  · rcases exists_lines_append hnone hlast hafter with ⟨line, more, hlines, happend⟩
    rw [touch_readText hafter, readText, readText, hlines, happend, readLines, readLines,
      hscan line]

theorem readText_quoted
    {quote : Char} {body : Text} (after : Text)
    (hquote : quote = '"' ∨ quote = '\'') (hbody : isQuotedBody quote body = true) :
    readText .code (quote :: (body ++ [quote]) ++ after) =
      Trace.touch (readText .code after) := by
  have hothers : quote ≠ '\\' ∧ quote ≠ '\n' ∧ quote ≠ '\r' := by
    rcases hquote with rfl | rfl <;> decide
  apply readText_append_of_scanLine
  · exact List.cons_ne_nil _ _
  · simp [newline_not_mem_of_isQuotedBody hbody, Ne.symm hothers.2.1]
  · rw [← List.cons_append, List.getLast?_concat]
    exact fun h => hothers.2.2 (Option.some.inj h)
  · intro line
    rw [List.cons_append, List.append_assoc, List.singleton_append, scanLine_code_cons]
    · rw [scanLine_quotedBody line hothers.1 hbody]
      rcases hquote with rfl | rfl <;> rfl
    · intro more hslash
      rcases hquote with rfl | rfl <;> cases hslash

theorem readText_raw_cons
    {c d : Char} {rest : Text} (hc : c ≠ '\x60') (hnewline : c ≠ '\n') :
    readText .raw (c :: d :: rest) = readText .raw (d :: rest) := by
  by_cases hreturn : c = '\r' ∧ d = '\n'
  · rw [hreturn.1, hreturn.2, readText_return_newline]
  · rcases @exists_lines_cons c d rest hnewline (fun h => fun hd => hreturn ⟨h, hd⟩) with
      ⟨line, more, hlines, hcons, _⟩
    rw [readText, readText, hlines, hcons, readLines, readLines, scanLine, if_neg hc]

theorem readText_rawBody
    {body : Text} (after : Text) (hbody : '\x60' ∉ body) :
    readText .raw (body ++ '\x60' :: after) =
      List.replicate (body.count '\n') ([], true) ++ Trace.touch (readText .code after) := by
  induction body with
  | nil =>
      have hclose := @readText_append_of_scanLine .raw ['\x60'] after (by decide) (by decide)
        (by decide) (fun _ => rfl)
      exact hclose
  | cons c body ih =>
      simp only [List.mem_cons, not_or] at hbody
      have hrest := ih hbody.2
      by_cases hnewline : c = '\n'
      · rw [hnewline, List.cons_append, readText_newline, List.count_cons_self]
        show ([], true) :: readText .raw (body ++ '\x60' :: after) = _
        rw [hrest]
        rfl
      · rw [List.count_cons_of_ne hnewline, ← hrest]
        cases body with
        | nil => exact readText_raw_cons (Ne.symm hbody.1) hnewline
        | cons d body => exact readText_raw_cons (Ne.symm hbody.1) hnewline

theorem readText_raw
    {body : Text} (after : Text) (hbody : '\x60' ∉ body) :
    readText .code ('\x60' :: (body ++ ['\x60']) ++ after) =
      List.replicate (body.count '\n') ([], true) ++ Trace.touch (readText .code after) := by
  rw [← readText_rawBody after hbody, List.cons_append, List.append_assoc,
    List.singleton_append]
  have hopen : forall d rest, readText .code ('\x60' :: d :: rest) = readText .raw (d :: rest) := by
    intro d rest
    rcases @exists_lines_cons '\x60' d rest (by decide) (fun h => absurd h (by decide)) with
      ⟨line, more, hlines, hcons, _⟩
    rw [readText, readText, hlines, hcons]
    rfl
  cases body with
  | nil => exact hopen '\x60' after
  | cons d body => exact hopen d (body ++ '\x60' :: after)

theorem readText_lineComment
    {body after : Text} (hbody : '\n' ∉ body)
    (hafter : after = [] ∨ after.head? = some '\n') :
    readText .code ('/' :: '/' :: body ++ after) = Trace.touch (readText .code after) := by
  have hnone : '\n' ∉ '/' :: '/' :: body := by simp [hbody]
  cases after with
  | nil =>
      rw [List.append_nil, readText_last (List.cons_ne_nil _ _) hnone]
      rfl
  | cons c rest =>
      have hc : c = '\n' := by simpa using hafter
      have hdrop : exists line,
          Text.dropTerminator ('/' :: '/' :: body ++ ['\n']) = '/' :: '/' :: line := by
        cases body with
        | nil =>
            exact ⟨[], rfl⟩
        | cons d body =>
            exact ⟨Text.dropTerminator (d :: body ++ ['\n']), rfl⟩
      rcases hdrop with ⟨line, hline⟩
      rw [hc, readText, Text.lines_append_newline rest hnone, hline, readText_newline]
      rfl

theorem readText_code
    {c : Char} {after : Text} (hquotes : c ≠ '"' ∧ c ≠ '\'' ∧ c ≠ '\x60')
    (hslash : c = '/' -> after.head? ≠ some '/') (hnewline : c ≠ '\n')
    (hreturn : c = '\r' -> after.head? ≠ some '\n') :
    readText .code (c :: after) = Trace.addCode c (readText .code after) := by
  rcases hquotes with ⟨hdouble, hsingle, hraw⟩
  have hscan : forall line, (line = [] ∨ line.head? = after.head?) ->
      scanLine .code (c :: line) = (c :: (scanLine .code line).1, (scanLine .code line).2) := by
    intro line hline
    rw [scanLine_code_cons, if_neg hraw, if_neg (by simp [hdouble, hsingle])]
    intro more hc hcons
    rcases hline with hline | hline
    · rw [hline] at hcons
      cases hcons
    · rw [hcons] at hline
      exact hslash hc hline.symm
  cases after with
  | nil =>
      rw [readText_last (List.cons_ne_nil _ _) (by simpa using Ne.symm hnewline),
        hscan [] (Or.inl rfl)]
      rfl
  | cons d rest =>
      rcases @exists_lines_cons c d rest hnewline (fun h => by simpa using hreturn h) with
        ⟨line, more, hlines, hcons, hhead⟩
      rw [readText, readText, hlines, hcons, readLines, hscan line hhead]
      rfl

/-!
# A source
-/

theorem Lexeme.eq_code_of_head?_text
    {lexeme : Lexeme} {after : Text} (hfits : lexeme.Fits after)
    (hhead : lexeme.text.head? = some '\n') :
    lexeme = .code '\n' := by
  cases lexeme with
  | code c =>
      cases hhead
      rfl
  | quoted quote body =>
      cases hhead
      simp [Lexeme.Fits] at hfits
  | raw body =>
      simp [Lexeme.text] at hhead
  | lineComment body =>
      simp [Lexeme.text] at hhead
  | blockComment body =>
      simp [Lexeme.text] at hhead

theorem Lexeme.text_ne_nil (lexeme : Lexeme) :
    lexeme.text ≠ [] := by
  cases lexeme <;> exact List.cons_ne_nil _ _

theorem textOf_cons (lexeme : Lexeme) (rest : List Lexeme) :
    textOf (lexeme :: rest) = lexeme.text ++ textOf rest :=
  List.flatMap_cons

theorem head?_textOf_iff
    {lexemes later : List Lexeme} (hsource : IsSource (lexemes ++ later))
    (hlater : (textOf later).head? ≠ some '\n') :
    (textOf (lexemes ++ later)).head? = some '\n' <->
      (tracesOf lexemes).head? = some (.code '\n') := by
  cases lexemes with
  | nil =>
      simp [tracesOf, hlater]
  | cons lexeme rest =>
      rw [List.cons_append, textOf_cons, List.head?_append_of_ne_nil _ lexeme.text_ne_nil]
      constructor
      · intro hhead
        rw [Lexeme.eq_code_of_head?_text hsource.1 hhead]
        rfl
      · intro htrace
        cases lexeme with
        | code c =>
            cases htrace
            rfl
        | quoted quote body => cases htrace
        | raw body => cases htrace
        | lineComment body => cases htrace
        | blockComment body => cases htrace

/-- The scanner reads lexemes as they are meant to be read, up to the first block comment. -/
theorem readText_textOf_append
    {lexemes later : List Lexeme} (hsource : IsSource (lexemes ++ later))
    (hblocks : HasNoBlockComment lexemes) (hlater : (textOf later).head? ≠ some '\n') :
    readText .code (textOf (lexemes ++ later)) =
      Trace.byLine (readText .code (textOf later)) (tracesOf lexemes) := by
  induction lexemes with
  | nil =>
      rfl
  | cons lexeme rest ih =>
      rcases hsource with ⟨hfits, hrest⟩
      have hread := ih hrest (fun lexeme hmem => hblocks lexeme (List.mem_cons_of_mem _ hmem))
      have hbreak := head?_textOf_iff hrest hlater
      rw [List.cons_append, textOf_cons]
      change lexeme.Fits (textOf (rest ++ later)) at hfits
      cases lexeme with
      | code c =>
          show readText .code (c :: textOf (rest ++ later)) =
            Trace.byLine _ (.code c :: tracesOf rest)
          rw [Trace.byLine, ← hread]
          by_cases hnewline : c = '\n'
          · rw [if_pos hnewline, hnewline, readText_newline]
            rfl
          · rw [if_neg hnewline]
            -- a return is part of the line end only if the lexemes go on with a line feed
            cases hterminator : Trace.isTerminator c (tracesOf rest) with
            | true =>
                rw [Trace.isTerminator_iff hnewline, ← hbreak] at hterminator
                rcases List.head?_eq_some_iff.mp hterminator.2 with ⟨more, hmore⟩
                rw [if_pos rfl, hterminator.1, hmore, readText_return_newline]
            | false =>
                rw [if_neg Bool.false_ne_true]
                apply readText_code ⟨hfits.1, hfits.2.1, hfits.2.2.1⟩
                  (fun hslash => (hfits.2.2.2 hslash).1) hnewline
                intro hreturn hhead
                have hends := (Trace.isTerminator_iff hnewline).mpr ⟨hreturn, hbreak.mp hhead⟩
                rw [hterminator] at hends
                cases hends
      | quoted quote body =>
          exact (readText_quoted _ hfits.1 hfits.2).trans (congrArg Trace.touch hread)
      | raw body =>
          have hraw := readText_raw (textOf (rest ++ later)) hfits
          rw [hread] at hraw
          exact hraw
      | lineComment body =>
          exact (readText_lineComment hfits.1 hfits.2).trans (congrArg Trace.touch hread)
      | blockComment body =>
          cases hblocks _ List.mem_cons_self

theorem Trace.flatMap_addCode (c : Char) (lines : List (List Char × Bool)) :
    (addCode c lines).flatMap Prod.fst = c :: lines.flatMap Prod.fst := by
  cases lines <;> rfl

theorem Trace.flatMap_touch (lines : List (List Char × Bool)) :
    (touch lines).flatMap Prod.fst = lines.flatMap Prod.fst := by
  cases lines <;> rfl

theorem Trace.flatMap_byLine (later : List (List Char × Bool)) (traces : List Trace) :
    (byLine later traces).flatMap Prod.fst = visible traces ++ later.flatMap Prod.fst := by
  induction traces with
  | nil =>
      rfl
  | cons trace rest ih =>
      cases trace with
      | code c =>
          by_cases hnewline : c = '\n'
          · rw [byLine, if_pos hnewline, visible, isTerminator, hnewline]
            exact ih
          · rw [byLine, if_neg hnewline, visible]
            split
            · exact ih
            · rw [flatMap_addCode, ih]
              rfl
      | hidden inRaw breaks =>
          rw [byLine, List.flatMap_append, flatMap_touch, ih, visible]
          simp [List.flatMap_replicate]

/-!
# Code outside literals and comments
-/

/-- What the scanner reads of a source is its code, line by line. -/
structure ReadsCode (lexemes : List Lexeme) : Prop where
  lines :
    readLines .code (Text.lines (textOf lexemes)) = Trace.byLine [] (tracesOf lexemes)
  code :
    codeOfLines false (Text.lines (textOf lexemes)) = Trace.visible (tracesOf lexemes)
  blind :
    forall others,
      IsSource others -> HasNoBlockComment others -> tracesOf others = tracesOf lexemes ->
        forall index,
          nestingBefore (textOf others) index = nestingBefore (textOf lexemes) index ∧
            rawBefore (textOf others) index = rawBefore (textOf lexemes) index ∧
            (rawBefore (textOf lexemes) index = false ->
              linesToClose .none false 0 ((Text.lines (textOf others)).drop index) =
                linesToClose .none false 0 ((Text.lines (textOf lexemes)).drop index))

theorem readLines_source
    {lexemes : List Lexeme} (hsource : IsSource lexemes) (hblocks : HasNoBlockComment lexemes) :
    readLines .code (Text.lines (textOf lexemes)) = Trace.byLine [] (tracesOf lexemes) := by
  rw [← List.append_nil lexemes] at hsource
  have hread := readText_textOf_append hsource hblocks (by simp [textOf])
  rw [List.append_nil] at hread
  exact hread

theorem agree_of_readLines
    {source other : Text}
    (hread : readLines .code (Text.lines other) = readLines .code (Text.lines source))
    (index : Nat) :
    nestingBefore other index = nestingBefore source index ∧
      rawBefore other index = rawBefore source index ∧
      (rawBefore source index = false ->
        linesToClose .none false 0 ((Text.lines other).drop index) =
          linesToClose .none false 0 ((Text.lines source).drop index)) := by
  have htake : readLines (.atLineStart false) ((Text.lines other).take index) =
      readLines (.atLineStart false) ((Text.lines source).take index) := by
    rw [readLines_take, readLines_take]
    exact congrArg (List.take index) hread
  have hraw : rawBefore other index = rawBefore source index := by
    rw [rawBefore, rawBefore, rawAfterLines_eq, rawAfterLines_eq, htake]
  refine ⟨?_, hraw, ?_⟩
  · rw [nestingBefore, nestingBefore, codeOfLines_eq, codeOfLines_eq, htake]
  · intro houtside
    have hsource := readLines_drop false (Text.lines source) index
    have hother := readLines_drop false (Text.lines other) index
    change readLines (.atLineStart (rawBefore source index)) _ = _ at hsource
    change readLines (.atLineStart (rawBefore other index)) _ = _ at hother
    rw [houtside] at hsource
    rw [hraw, houtside] at hother
    apply linesToClose_of_readLines
    rw [hsource, hother]
    exact congrArg (List.drop index) hread

theorem readsCode
    {lexemes : List Lexeme} (hsource : IsSource lexemes) (hblocks : HasNoBlockComment lexemes) :
    ReadsCode lexemes := by
  have hlines := readLines_source hsource hblocks
  constructor
  · exact hlines
  · rw [codeOfLines_eq]
    change (readLines .code _).flatMap Prod.fst = _
    rw [hlines, Trace.flatMap_byLine]
    exact List.append_nil _
  · intro others hothers hnone htraces
    apply agree_of_readLines
    rw [hlines, readLines_source hothers hnone, htraces]

/-!
# Code before a line
-/

def codeBefore (lexemes : List Lexeme) (index : Nat) : List Char :=
  ((Trace.byLine [] (tracesOf lexemes)).take index).flatMap Prod.fst

def inRawBefore (lexemes : List Lexeme) (index : Nat) : Bool :=
  ((Trace.byLine [] (tracesOf lexemes)).take index).foldl (fun _ line => line.2) false

/-- What is read of a text is the code of these lexemes, on each line and before it. -/
structure ReadsAs (source : Text) (lexemes : List Lexeme) : Prop where
  lines : readLines .code (Text.lines source) = Trace.byLine [] (tracesOf lexemes)
  code : codeOfLines false (Text.lines source) = Trace.visible (tracesOf lexemes)
  nesting : forall index,
    nestingBefore source index = nestingChange (codeBefore lexemes index)
  inRaw : forall index, rawBefore source index = inRawBefore lexemes index

theorem readsAs_textOf
    {lexemes : List Lexeme} (hsource : IsSource lexemes) (hblocks : HasNoBlockComment lexemes) :
    ReadsAs (textOf lexemes) lexemes := by
  have hreads := readsCode hsource hblocks
  have htake (index : Nat) :
      readLines (.atLineStart false) ((Text.lines (textOf lexemes)).take index) =
        (Trace.byLine [] (tracesOf lexemes)).take index := by
    rw [readLines_take]
    exact congrArg (List.take index) hreads.lines
  constructor
  · exact hreads.lines
  · exact hreads.code
  · intro index
    rw [nestingBefore, codeOfLines_eq, htake, codeBefore]
  · intro index
    rw [rawBefore, rawAfterLines_eq, htake, inRawBefore]

theorem exists_codeOfLines_blockComment
    {before after : List Lexeme} {body : Text}
    (hsource : IsSource (before ++ .blockComment body :: after))
    (hblocks : HasNoBlockComment before) :
    exists more,
      codeOfLines false (Text.lines (textOf (before ++ .blockComment body :: after))) =
        Trace.visible (tracesOf before) ++ '/' :: '*' :: more := by
  have hlater : textOf (.blockComment body :: after) =
      '/' :: '*' :: (body ++ ['*', '/'] ++ textOf after) := textOf_cons _ after
  have hopens : readText .code (textOf (.blockComment body :: after)) =
      Trace.addCode '/' (Trace.addCode '*'
        (readText .code (body ++ ['*', '/'] ++ textOf after))) := by
    rw [hlater, readText_code (by decide) (by simp) (by decide) (by simp),
      readText_code (by decide) (by simp) (by decide) (by simp)]
  have hread := readText_textOf_append hsource hblocks (by rw [hlater]; simp)
  have hcode := codeOfLines_eq false (Text.lines (textOf (before ++ .blockComment body :: after)))
  change _ = (readText .code _).flatMap Prod.fst at hcode
  rw [hread, Trace.flatMap_byLine, hopens, Trace.flatMap_addCode, Trace.flatMap_addCode]
    at hcode
  exact ⟨_, hcode⟩

/-- The scanner tells code from literals and line comments, and takes no other comment. -/
theorem scans_source
    {lexemes : List Lexeme} (hsource : IsSource lexemes) :
    (HasNoBlockComment lexemes -> ReadsCode lexemes) ∧
      forall before body after,
        lexemes = before ++ .blockComment body :: after -> HasNoBlockComment before ->
          exists more,
            codeOfLines false (Text.lines (textOf lexemes)) =
              Trace.visible (tracesOf before) ++ '/' :: '*' :: more := by
  constructor
  · exact readsCode hsource
  · intro before body after hsplit hblocks
    rw [hsplit] at hsource ⊢
    exact exists_codeOfLines_blockComment hsource hblocks

def tagged : List Lexeme :=
  "package p\n\ntype A struct \x7b\n\tx int ".toList.map .code ++
    [.raw "json:\"\x7b\"\n\x7d".toList, .code ' ', .lineComment "\x60 \x7d".toList] ++
    "\n\ty [len(".toList.map .code ++
    [.quoted '"' "\\\"\x7d".toList, .code ')', .code '+', .quoted '\'' "\\'".toList] ++
    "]int\r\n\x7d\n".toList.map .code

theorem scans_tagged :
    IsSource tagged ∧ ReadsCode tagged ∧
      linesToClose .none false 0 ((Text.lines (textOf tagged)).drop 2) = 4 := by
  have hsource : IsSource tagged := by decide +kernel
  exact ⟨hsource, (scans_source hsource).1 (by unfold HasNoBlockComment; decide +kernel),
    by decide +kernel⟩

def commented (body : Text) : List Lexeme :=
  "package p\n\ntype A struct \x7b\n\tx int ".toList.map .code ++
    [.blockComment body] ++ "\n\ty int\n\x7d\n".toList.map .code

/-- A brace in a block comment is read, and the declaration ends two lines too early. -/
theorem not_readsCode_commented :
    IsSource (commented " \x7d ".toList) ∧ ¬ ReadsCode (commented " \x7d ".toList) ∧
      linesToClose .none false 0
          ((Text.lines (textOf (commented " \x7d ".toList))).drop 2) = 1 ∧
      linesToClose .none false 0 ((Text.lines (textOf (commented "   ".toList))).drop 2) = 3 := by
  refine ⟨by decide +kernel, ?_, by decide +kernel, by decide +kernel⟩
  intro hreads
  have hcode := hreads.code
  revert hcode
  decide +kernel

end Go
end StubAssist

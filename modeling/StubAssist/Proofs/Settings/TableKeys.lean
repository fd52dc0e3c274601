import StubAssist.Proofs.Settings.FaultyValues

/-!
# Keys of tables

The search for the key of a table looks for the header and then for a line that sets the
key, and knows nothing of statements.  So what it finds is measured here against the
outline of the document: it is the setting in the section of the table if the section is
found where it is, the key needs no quotes, and no line before it looks like the key.
-/

namespace StubAssist

open Toml (Span Key Value Statement AllSpaces IsIdle IsLineOf IsBareName IsPlace IsSetting
  readContent outline?)
open Text (byteSize isWhole pieces)

namespace KeySpan

/-!
# The search over whole lines
-/

theorem findIn_append (key : Text) (offset : Nat) (texts more : List Text) :
    findIn key offset (texts ++ more) =
      (findIn key offset texts).or (findIn key (offset + byteSize texts.flatten) more) := by
  induction texts generalizing offset with
  | nil =>
      rfl
  | cons first texts ih =>
      rw [List.cons_append, findIn, findIn]
      cases indentIn? key first with
      | some indent =>
          rfl
      | none =>
          show findIn key _ (texts ++ more) = _
          rw [ih, List.flatten_cons, Text.byteSize_append, Nat.add_assoc]

theorem allBlank_of_allSpaces {t : Text} (ht : AllSpaces t) :
    AllBlank t := by
  intro c hc
  have hspace := ht c hc
  rw [Toml.isSpaceOrTab, Bool.or_eq_true, beq_iff_eq, beq_iff_eq] at hspace
  rcases hspace with hspace | htab
  · rw [hspace]
    decide
  · rw [htab]
    decide

theorem IsKey.newline_not_mem {key : Text} (hkey : IsKey key) :
    '\n' ∉ key := by
  intro hmem
  cases hkey.isBlank_eq_false '\n' hmem

theorem findIn_setting
    {key indent gap : Text} (offset : Nat) (after : Text) (hkey : IsKey key)
    (hindent : AllSpaces indent) (hgap : AllSpaces gap) :
    findIn key offset (pieces (indent ++ (key ++ (gap ++ '=' :: after)))) =
      some ⟨offset + byteSize indent, byteSize key⟩ := by
  rcases Text.exists_pieces_cons '=' after with ⟨piece, more, hpieces⟩
  have hnone : '\n' ∉ indent ++ key ++ gap := by
    simp [Toml.newline_not_mem_of_allSpaces hindent, hkey.newline_not_mem,
      Toml.newline_not_mem_of_allSpaces hgap]
  have hsets : SetsAfter key indent (indent ++ key ++ gap ++ '=' :: piece) :=
    ⟨allBlank_of_allSpaces hindent, gap, piece, allBlank_of_allSpaces hgap, rfl⟩
  have hline := Text.pieces_append_of_not_mem hnone hpieces
  simp only [List.append_assoc] at hline
  rw [hline, findIn, (indentIn?_eq_some_iff hkey).mpr ⟨indent, by simpa using hsets, rfl⟩]

theorem findAfter_lines
    {key lines indent gap : Text} (before after : Text) (hkey : IsKey key)
    (hwhole : isWhole lines = true) (hindent : AllSpaces indent) (hgap : AllSpaces gap) :
    findAfter key before (lines ++ (indent ++ (key ++ (gap ++ '=' :: after)))) =
      (findIn key (byteSize before) (pieces lines)).or
        (some ⟨byteSize (before ++ (lines ++ indent)), byteSize key⟩) := by
  rw [findAfter, Text.pieces_append _ hwhole, findIn_append, findIn_setting _ _ hkey hindent hgap,
    Text.flatten_pieces, Text.byteSize_append before, Text.byteSize_append lines, Nat.add_assoc]

theorem pieces_flatten
    {t piece : Text} {texts more : List Text} (hpieces : pieces t = texts ++ piece :: more) :
    pieces texts.flatten = texts ∧ isWhole texts.flatten = true := by
  induction texts generalizing t with
  | nil =>
      exact ⟨rfl, rfl⟩
  | cons first texts ih =>
      by_cases hmem : '\n' ∈ t
      · rcases List.eq_append_cons_of_mem hmem with ⟨line, rest, ht, hnone⟩
        rw [ht, Toml.pieces_append_newline rest hnone] at hpieces
        rcases List.cons.inj hpieces with ⟨hfirst, hrest⟩
        rcases ih hrest with ⟨hflatten, hwhole⟩
        rw [List.flatten_cons, ← hfirst, List.append_assoc, List.singleton_append]
        constructor
        · rw [Toml.pieces_append_newline _ hnone, hflatten]
        · rw [Text.isWhole_append_of_ne_nil line (List.cons_ne_nil _ _),
            Text.isWhole_cons_newline, hwhole]
      · have hne : t ≠ [] := by
          intro hnil
          rw [hnil] at hpieces
          cases hpieces
        rw [(Text.pieces_of_not_mem hmem hne).1] at hpieces
        simp at hpieces

theorem not_sets_of_allBlank
    {key piece : Text} (hblank : AllBlank piece) :
    ¬ Sets key piece := by
  rintro ⟨indent, _, gap, after, _, hpiece⟩
  have hequals := hblank '=' (by rw [hpiece]; simp)
  cases hequals

/-!
# Lines of statements
-/

theorem isKey_of_isBareName {name : Text} (hname : IsBareName name) :
    IsKey name := by
  constructor
  · exact hname.ne_nil
  · intro c hc
    exact Toml.isBlank_eq_false_of_isBareKeyChar (hname.isBareKeyChar c hc)
  · intro c hc hequals
    have hbare := hname.isBareKeyChar c hc
    rw [hequals] at hbare
    cases hbare

theorem trimStart_of_sets
    {key indent line : Text} (hkey : IsKey key) (hsets : SetsAfter key indent line) :
    exists gap after, AllBlank gap ∧ Text.trimStart line = key ++ (gap ++ '=' :: after) := by
  rcases hsets with ⟨hindent, gap, after, hgap, hline⟩
  refine ⟨gap, after, hgap, ?_⟩
  rw [hline, List.append_assoc, List.append_assoc]
  exact trimStart_append hindent (hkey.head?_append _)

theorem not_sets_of_isIdle
    {name line : Text} (hname : IsBareName name) (hidle : IsIdle line) :
    ¬ Sets name line := by
  rcases hidle with ⟨gap, rest, hline, hgap, hrest⟩
  have hblank := allBlank_of_allSpaces hgap
  by_cases hcomment : rest.head? = some '#'
  · rintro ⟨indent, hsets⟩
    rcases trimStart_of_sets (isKey_of_isBareName hname) hsets with ⟨_, _, _, htrim⟩
    have hmark : forall c, rest.head? = some c -> Text.isBlank c = false := by
      intro c hc
      rw [hcomment] at hc
      cases hc
      decide
    rw [hline, trimStart_append hblank hmark] at htrim
    rcases List.exists_cons_of_ne_nil hname.ne_nil with ⟨c, more, hcons⟩
    rw [htrim, hcons] at hcomment
    have hbare := hname.isBareKeyChar c (hcons ▸ List.mem_cons_self)
    rw [Option.some.inj hcomment] at hbare
    cases hbare
  · apply not_sets_of_allBlank
    intro c hc
    rw [hline] at hc
    rcases List.mem_append.mp hc with hindent | hend
    · exact hblank c hindent
    · rcases hrest with hnewline | hreturn | habsurd
      · rw [hnewline, List.mem_singleton] at hend
        rw [hend]
        decide
      · rw [hreturn] at hend
        simp only [List.mem_cons, List.not_mem_nil, or_false] at hend
        rcases hend with hend | hend
        · rw [hend]
          decide
        · rw [hend]
          decide
      · exact absurd habsurd hcomment

theorem isBlank_eq_false_of_readContent
    {total : Nat} {t rest : Text} {content : Toml.Content} {c : Char}
    (hread : readContent total t = some (content, rest))
    (hspace : forall c, t.head? = some c -> Toml.isSpaceOrTab c = false)
    (hhead : t.head? = some c) :
    Text.isBlank c = false := by
  by_cases hbracket : t.head? = some '['
  · rw [hbracket] at hhead
    cases hhead
    decide
  · rcases Toml.readContent_entry hread hbracket hspace with ⟨_, _, _, _, _, _, hname, _⟩
    exact (Toml.head?_of_readName hname hhead).1

theorem eq_or_isBlank_of_head?
    {gap after : Text} {c : Char} (hgap : AllBlank gap)
    (hhead : ((gap ++ '=' :: after).dropWhile Toml.isSpaceOrTab).head? = some c) :
    c = '=' ∨ Text.isBlank c = true := by
  induction gap with
  | nil =>
      exact Or.inl (Option.some.inj hhead).symm
  | cons d gap ih =>
      rw [List.cons_append] at hhead
      cases hd : Toml.isSpaceOrTab d with
      | true =>
          rw [List.dropWhile_cons_of_pos hd] at hhead
          exact ih (fun c hc => hgap c (List.mem_cons_of_mem d hc)) hhead
      | false =>
          rw [List.dropWhile_cons_of_neg (by rw [hd]; exact Bool.false_ne_true)] at hhead
          rw [← Option.some.inj hhead]
          exact Or.inr (hgap d List.mem_cons_self)

theorem exists_entry_of_sets
    {total : Nat} {statement : Statement} {name line : Text} (hname : IsBareName name)
    (hline : IsLineOf total statement line) (hsets : Sets name line) :
    exists span value, statement.content = .entry [] ⟨name, span⟩ value := by
  have hkey := isKey_of_isBareName hname
  rcases hsets with ⟨indent', hsets⟩
  rcases hline with ⟨indent, begun, more, rest, hline, hindent, hspace, hread⟩
  rcases trimStart_of_sets hkey hsets with ⟨gap, after, hgap, htrim⟩
  have hbegun : begun = name ++ (gap ++ '=' :: after) := by
    rw [← htrim, hline]
    symm
    apply trimStart_append (allBlank_of_allSpaces hindent)
    intro c hc
    apply isBlank_eq_false_of_readContent hread hspace
    rw [List.head?_append, hc]
    rfl
  rw [hbegun, List.append_assoc, List.append_assoc] at hread hspace
  rcases List.exists_cons_of_ne_nil hname.ne_nil with ⟨c, others, hcons⟩
  have hc := hname.isBareKeyChar c (hcons ▸ List.mem_cons_self)
  have hbracket : (name ++ (gap ++ ('=' :: after ++ more))).head? ≠ some '[' := by
    rw [hcons]
    intro hhead
    rw [Option.some.inj hhead] at hc
    cases hc
  rcases Toml.readContent_entry hread hbracket hspace with
    ⟨path, key, value, name', left, hcontent, hreadName, hrest⟩
  -- the name ends where the blanks or the equals sign begin
  have hstops : forall c, (gap ++ ('=' :: after ++ more)).head? = some c ->
      Toml.isBareKeyChar c = false := by
    intro c hhead
    cases gap with
    | nil =>
        rw [← Option.some.inj hhead]
        rfl
    | cons blank gap =>
        have hblank := hgap blank List.mem_cons_self
        rw [← Option.some.inj hhead]
        by_contra hbare
        rw [Toml.isBlank_eq_false_of_isBareKeyChar (by simpa using hbare)] at hblank
        cases hblank
  rw [Toml.readName_eq_of_isBareName hname hstops] at hreadName
  cases hreadName
  rcases hrest with ⟨_, hdot⟩ | ⟨hpath, hkey', _⟩
  · rcases eq_or_isBlank_of_head? hgap hdot with hequals | hblank
    · cases hequals
    · cases hblank
  · exact ⟨_, value, by rw [hcontent, hpath, hkey']; rfl⟩

/-!
# Headers in the text
-/

theorem eq_append_of_splitAround
    {needle t before after : Text} (hsplit : Text.splitAround needle t = some (before, after)) :
    t = before ++ (needle ++ after) := by
  induction t generalizing before with
  | nil =>
      unfold Text.splitAround at hsplit
      split at hsplit
      · rename_i hempty
        cases hsplit
        rw [List.isEmpty_iff.mp hempty]
        rfl
      · cases hsplit
  | cons c rest ih =>
      unfold Text.splitAround at hsplit
      split at hsplit
      · rename_i after' hprefix
        cases hsplit
        show c :: rest = needle ++ after
        exact afterPrefix?_eq_some_iff.mp hprefix
      · rcases Option.map_eq_some_iff.mp hsplit with ⟨⟨before', after'⟩, hrest, hstep⟩
        cases hstep
        rw [ih hrest]
        rfl

theorem append_inj_of_byteSize
    {a b c d : Text} (hsplit : a ++ b = c ++ d) (hsize : byteSize a = byteSize c) :
    a = c ∧ b = d := by
  have hnil : forall x : Text, byteSize x = 0 -> x = [] := by
    intro x hx
    have hlength := Text.length_le_byteSize x
    rw [hx] at hlength
    exact List.eq_nil_of_length_eq_zero (Nat.le_zero.mp hlength)
  rcases List.append_eq_append_iff.mp hsplit with ⟨x, hc, hb⟩ | ⟨x, ha, hd⟩
  · have hx : x = [] := by
      rw [hc, Text.byteSize_append] at hsize
      exact hnil x (by omega)
    rw [hx, List.append_nil] at hc
    rw [hx, List.nil_append] at hb
    exact ⟨hc.symm, hb⟩
  · have hx : x = [] := by
      rw [ha, Text.byteSize_append] at hsize
      exact hnil x (by omega)
    rw [hx, List.append_nil] at ha
    rw [hx, List.nil_append] at hd
    exact ⟨ha, hd.symm⟩

theorem exists_wholeLines
    {table before above whole indent : Text}
    (hsplit : before ++ header table ++ above = whole ++ indent) (hwhole : isWhole whole = true)
    (hindent : AllSpaces indent) :
    exists lines, above = lines ++ indent ∧ isWhole lines = true := by
  rcases List.append_eq_append_iff.mp hsplit with ⟨lines, hlines, habove⟩ | ⟨more, hmore, hindent'⟩
  · refine ⟨lines, habove, ?_⟩
    by_cases hnil : lines = []
    · rw [hnil]
      rfl
    · rw [hlines, Text.isWhole_append_of_ne_nil _ hnil] at hwhole
      exact hwhole
  · cases hlast : more.getLast? with
    | none =>
        rw [List.getLast?_eq_none_iff.mp hlast, List.nil_append] at hindent'
        exact ⟨[], hindent'.symm, rfl⟩
    | some c =>
        have hc : c = ']' := by
          have hends := congrArg List.getLast? hmore
          rw [header, ← List.append_assoc, List.getLast?_concat, List.getLast?_append, hlast]
            at hends
          exact (Option.some.inj hends).symm
        have hspace := hindent c (by
          rw [hindent']
          exact List.mem_append_left _ (List.mem_of_getLast? hlast))
        rw [hc] at hspace
        cases hspace

/-!
# What is pointed at
-/

/-- The first occurrence of the header in the text is the header itself. -/
def IsFoundAt (source table : Text) (heading : Span) : Prop :=
  exists before after,
    Text.splitAround (header table) source = some (before, after) ∧
      heading = ⟨byteSize before, byteSize (header table)⟩

/-- How the span that is found for a name of a table lies to the setting. -/
structure PointsIntoTable (source table name : Text) (statements : List Statement)
    (span? : Option Span) : Prop where
  covers : forall span, span? = some span ->
    span.Covers source name ∧
      exists before after,
        Text.splitAround (header table) source = some (before, after) ∧
          byteSize (before ++ header table) ≤ span.offset
  exact : forall heading between key item,
    IsSetting statements table name heading between key item ->
      (span? = some key.span ↔
        exists before above after,
          Text.splitAround (header table) source = some (before, above ++ (name ++ after)) ∧
            key.span = ⟨byteSize (before ++ header table ++ above), byteSize name⟩ ∧
            forall line, line ∈ pieces above -> ¬ Sets name line)
  inside : forall heading between key item,
    IsSetting statements table name heading between key item ->
      IsFoundAt source table heading ->
      key.span.Covers source name ->
        exists span,
          span? = some span ∧ heading.offset + heading.length ≤ span.offset ∧
            span.offset ≤ key.span.offset
  plain : forall heading between key item,
    IsSetting statements table name heading between key item ->
      IsFoundAt source table heading ->
      key.span.Covers source name ->
        (forall earlier, earlier ∈ between -> '\n' ∉ earlier.text) ->
          span? = some key.span

variable {source table name : Text} {statements between : List Statement}
variable {heading : Span} {key : Key} {item : Span × Value}

theorem exists_above_of_findInTable
    {span : Span} (hname : IsKey name) (hfound : findInTable table name source = some span) :
    exists before above after,
      Text.splitAround (header table) source = some (before, above ++ (name ++ after)) ∧
        span = ⟨byteSize (before ++ header table ++ above), byteSize name⟩ ∧
        forall line, line ∈ pieces above -> ¬ Sets name line := by
  unfold findInTable at hfound
  split at hfound
  · cases hfound
  · rename_i before post hsplit
    rcases (findIn_eq_some_iff hname).mp hfound with
      ⟨skipped, indent, piece, more, hpieces, hskipped, ⟨hindent, gap, after, _, hpiece⟩, hspan⟩
    rcases pieces_flatten hpieces with ⟨hflatten, hwhole⟩
    have hpost : post =
        skipped.flatten ++ indent ++ (name ++ (gap ++ '=' :: after ++ more.flatten)) := by
      rw [← Text.flatten_pieces post, hpieces, List.flatten_append, List.flatten_cons, hpiece]
      simp only [List.append_assoc]
    refine ⟨before, skipped.flatten ++ indent, _, by rw [hsplit, hpost], ?_, ?_⟩
    · rw [hspan, Text.byteSize_append (before ++ header table)]
    · intro line hline
      rw [Text.pieces_append _ hwhole, hflatten] at hline
      rcases List.mem_append.mp hline with hearlier | hlast
      · exact hskipped line hearlier
      · apply not_sets_of_allBlank
        intro c hc
        apply hindent
        rw [← Text.flatten_pieces indent]
        exact List.mem_flatten.mpr ⟨line, hlast, hc⟩

theorem findAfter_place
    {front header' gap tail lines indent t before above after : Text}
    (hplace : IsPlace source heading between key front header' gap tail lines indent t)
    (hname : IsBareName key.text) (ht : t = key.text ++ after) (hwhole : isWhole above = true)
    (hsource : source = before ++ (above ++ (indent ++ t))) :
    findAfter key.text before (above ++ (indent ++ t)) =
      (findIn key.text (byteSize before) (pieces above)).or (some key.span) := by
  rcases hplace.exists_equals hname ht with ⟨hlength, spaces, rest, hspaces, hafter⟩
  have hupto : source = before ++ (above ++ indent) ++ t := by
    rw [hsource]
    simp only [List.append_assoc]
  have hspan : key.span = ⟨byteSize (before ++ (above ++ indent)), byteSize key.text⟩ := by
    rw [← hplace.offset hupto, ← hlength]
  rw [hspan, ht, hafter]
  exact findAfter_lines before rest (isKey_of_isBareName hname) hwhole hplace.leads.allSpaces
    hspaces

theorem isWhole_place
    {front header' gap tail lines indent t : Text}
    (hplace : IsPlace source heading between key front header' gap tail lines indent t) :
    isWhole (gap ++ (tail ++ '\n' :: lines)) = true := by
  rw [← List.append_assoc, Text.isWhole_append_of_ne_nil _ (List.cons_ne_nil _ _),
    Text.isWhole_cons_newline, hplace.leads.isWhole]

theorem findInTable_eq_of_isSetting
    {before above after : Text} (hname : IsBareName name)
    (houtline : outline? source = some statements)
    (hsetting : IsSetting statements table name heading between key item)
    (hsplit : Text.splitAround (header table) source = some (before, above ++ (name ++ after)))
    (hspan : key.span = ⟨byteSize (before ++ header table ++ above), byteSize name⟩)
    (habove : forall line, line ∈ pieces above -> ¬ Sets name line) :
    findInTable table name source = some key.span := by
  rcases hsetting.exists_place houtline with
    ⟨front, header', gap, tail, lines, indent, t, hplace⟩
  have htext := hsetting.text_eq
  let whole := front ++ header' ++ (gap ++ (tail ++ '\n' :: lines))
  have hwhole : isWhole whole = true := by
    rw [Text.isWhole_append_of_ne_nil _ (by simp), isWhole_place hplace]
  have hupto : source = whole ++ indent ++ t := hplace.upto
  have hoffset := hplace.offset hupto
  rw [hspan] at hoffset
  have hsource := eq_append_of_splitAround hsplit
  rw [← List.append_assoc, ← List.append_assoc] at hsource
  rcases append_inj_of_byteSize (hsource.symm.trans hupto) hoffset with ⟨hbefore, ht⟩
  rcases exists_wholeLines hbefore hwhole hplace.leads.allSpaces with ⟨others, hothers, hwhole'⟩
  rw [← htext] at hname ht
  have hlines : source = before ++ header table ++ (others ++ (indent ++ t)) := by
    rw [hupto, ← hbefore, hothers]
    simp only [List.append_assoc]
  have hnone : findIn key.text (byteSize (before ++ header table)) (pieces others) = none := by
    rw [findIn_eq_none_iff (isKey_of_isBareName hname), htext]
    intro line hline
    apply habove
    rw [hothers, Text.pieces_append _ hwhole']
    exact List.mem_append_left _ hline
  have hfind := findAfter_place hplace hname ht.symm hwhole' hlines
  rw [hnone, Option.none_or] at hfind
  unfold findInTable
  rw [hsplit, ← hfind, ← ht, hothers, htext, List.append_assoc]

theorem findInTable_eq_of_isFoundAt
    {front header' gap tail lines indent t : Text}
    (hplace : IsPlace source heading between key front header' gap tail lines indent t)
    (hname : IsBareName key.text) (hfound : IsFoundAt source table heading)
    (hcovers : key.span.Covers source key.text) :
    findInTable table key.text source =
      (findIn key.text (byteSize (front ++ header')) (pieces (gap ++ (tail ++ '\n' :: lines)))).or
        (some key.span) := by
  rcases hfound with ⟨before, post, hsplit, hheading⟩
  have hsource := eq_append_of_splitAround hsplit
  have hupto := hplace.upto
  rw [hplace.heading] at hheading
  rcases append_inj_of_byteSize (hplace.split.symm.trans hsource)
    (congrArg Span.offset hheading) with ⟨hfront, hrest⟩
  rcases append_inj_of_byteSize hrest (congrArg Span.length hheading) with ⟨hheader, hpost⟩
  rcases hcovers with ⟨before', after, hcovered, hspan⟩
  have hoffset := hplace.offset hupto
  rw [hspan] at hoffset
  rw [List.append_assoc] at hcovered
  rcases append_inj_of_byteSize (hcovered.symm.trans hupto) hoffset with ⟨_, ht⟩
  have hlines : source = front ++ header' ++ (gap ++ (tail ++ '\n' :: lines) ++ (indent ++ t)) := by
    rw [hupto]
    simp only [List.append_assoc]
  have hfind := findAfter_place hplace hname ht.symm (isWhole_place hplace) hlines
  unfold findInTable
  rw [hsplit, ← hfront, ← hheader, ← hfind, ← hpost]
  simp only [List.append_assoc, List.cons_append]

theorem findIn_place_eq_none
    {front header' gap tail lines indent t : Text}
    (hplace : IsPlace source heading between key front header' gap tail lines indent t)
    (hname : IsBareName name)
    (hsetting : IsSetting statements table name heading between key item)
    (hlines : forall earlier, earlier ∈ between -> '\n' ∉ earlier.text) (offset : Nat) :
    findIn name offset (pieces (gap ++ (tail ++ '\n' :: lines))) = none := by
  rcases hsetting with ⟨_, _, _, hothers, _, _⟩
  have hnone : '\n' ∉ gap ++ tail := by
    simp [Toml.newline_not_mem_of_allSpaces hplace.allSpaces, hplace.leads.newline_not_mem]
  rw [findIn_eq_none_iff (isKey_of_isBareName hname), ← List.append_assoc,
    Toml.pieces_append_newline lines hnone]
  intro line hline hsets
  rcases List.mem_cons.mp hline with hfirst | hlater
  · rw [hfirst, List.append_assoc] at hsets
    exact not_sets_of_isIdle hname (hplace.leads.isIdle.append hplace.allSpaces) hsets
  · rcases hplace.leads.isLineOf hlines line hlater with hidle | ⟨earlier, hmem, hlineOf⟩
    · exact not_sets_of_isIdle hname hidle hsets
    · rcases exists_entry_of_sets hname hlineOf hsets with ⟨span, value, hcontent⟩
      exact hothers earlier hmem ⟨name, span⟩ value hcontent rfl

theorem pointsIntoTable
    (hname : IsBareName name) (houtline : outline? source = some statements) :
    PointsIntoTable source table name statements (findInTable table name source) := by
  have hkey := isKey_of_isBareName hname
  constructor
  · intro span hspan
    rcases exists_above_of_findInTable hkey hspan with ⟨before, above, after, hsplit, hfound, _⟩
    have hsource := eq_append_of_splitAround hsplit
    rw [hfound]
    refine ⟨⟨before ++ header table ++ above, after, ?_, rfl⟩, before, _, hsplit, ?_⟩
    · rw [hsource]
      simp only [List.append_assoc]
    · exact Text.byteSize_append_le _ _
  · intro heading between key item hsetting
    constructor
    · exact exists_above_of_findInTable hkey
    · rintro ⟨before, above, after, hsplit, hspan, habove⟩
      exact findInTable_eq_of_isSetting hname houtline hsetting hsplit hspan habove
  · intro heading between key item hsetting hfound hcovers
    rcases hsetting.exists_place houtline with
      ⟨front, header', gap, tail, lines, indent, t, hplace⟩
    have hoffset := hplace.offset hplace.upto
    rw [List.append_assoc, Text.byteSize_append, Text.byteSize_append,
      Text.byteSize_append (gap ++ _)] at hoffset
    rw [← hsetting.text_eq] at hname hcovers hkey ⊢
    rw [findInTable_eq_of_isFoundAt hplace hname hfound hcovers, hplace.heading]
    cases hfind : findIn key.text (byteSize (front ++ header'))
        (pieces (gap ++ (tail ++ '\n' :: lines))) with
    | none =>
        refine ⟨key.span, rfl, ?_, Nat.le_refl _⟩
        dsimp only
        omega
    | some span =>
        have hfirst := ((findIn_eq_some_iff hkey).mp hfind).covers
        have hend := hfirst.1.end_le
        rw [Text.byteSize_append, Text.byteSize_append] at hend
        rw [Text.byteSize_append] at hfirst
        refine ⟨span, rfl, hfirst.2, ?_⟩
        omega
  · intro heading between key item hsetting hfound hcovers hlines
    rcases hsetting.exists_place houtline with
      ⟨front, header', gap, tail, lines, indent, t, hplace⟩
    have hnone := findIn_place_eq_none hplace hname hsetting hlines
    rw [← hsetting.text_eq] at hname hcovers hnone ⊢
    rw [findInTable_eq_of_isFoundAt hplace hname hfound hcovers, hnone, Option.none_or]

end KeySpan

/-!
# Faults of tables
-/

theorem Settings.eq_of_parse_faulty
    {filename name source : Text} {fault : Fault} {span? : Option Span}
    (hparse : parse filename source = .error (.faulty name fault span?)) :
    exists entries settings,
      Toml.parse? source = some entries ∧ decode entries = .ok settings ∧
        settings.fault? = some fault ∧ span? = fault.span? source := by
  unfold parse at hparse
  split at hparse
  · cases hparse
  · rename_i entries hentries
    split at hparse
    · split at hparse <;> cases hparse
    · rename_i settings hdecode
      split at hparse
      · rename_i hfault
        cases hparse
        exact ⟨entries, settings, hentries, hdecode, hfault, rfl⟩
      · cases hparse

theorem Fault.span?_eq_findInTable
    {fault : Fault} {source table name : Text} (hsetting : fault.setting? = some (table, name)) :
    fault.span? source = KeySpan.findInTable table name source ∧ IsBareName name := by
  cases fault with
  | blankReceiverName =>
      cases hsetting
  | blankTool table =>
      cases hsetting
      exact ⟨rfl, List.cons_ne_nil _ _, List.all_eq_true.mp rfl⟩
  | zeroTimeout table =>
      cases hsetting
      exact ⟨rfl, List.cons_ne_nil _ _, List.all_eq_true.mp rfl⟩

/--
What is reported about a setting of a table, against the outline of the document: where the
span lies, and that the setting that the outline gives has a value at fault.
-/
theorem Settings.parse_pointsIntoTable
    {filename source table name : Text} {fault : Fault} {span? : Option Span}
    (hparse : parse filename source = .error (.faulty filename fault span?))
    (hsetting : fault.setting? = some (table, name)) :
    exists statements,
      Toml.outline? source = some statements ∧
        KeySpan.PointsIntoTable source table name statements span? ∧
          forall heading between key item,
            IsSetting statements table name heading between key item -> fault.IsOf item.2 := by
  rcases eq_of_parse_faulty hparse with ⟨entries, settings, hentries, hdecode, hfault, hspan⟩
  have houtlined := hentries
  rw [Toml.parse?_eq] at houtlined
  rcases Option.bind_eq_some_iff.mp houtlined with ⟨statements, houtline, _⟩
  rcases @Fault.span?_eq_findInTable fault source table name hsetting with ⟨hfind, hname⟩
  refine ⟨statements, houtline, ?_, ?_⟩
  · rw [hspan, hfind]
    exact KeySpan.pointsIntoTable hname houtline
  · intro heading between key item hgiven
    exact isOf_of_fault? hdecode hfault hsetting (hgiven.lookup houtline hentries)

def Settings.faultOf : Except SettingsError Settings -> Option (Text × Fault × Option Span)
  | .error (.faulty filename fault span?) => some (filename, fault, span?)
  | _ => none

theorem Settings.eq_of_faultOf
    {outcome : Except SettingsError Settings} {filename : Text} {fault : Fault}
    {span? : Option Span} (hfault : faultOf outcome = some (filename, fault, span?)) :
    outcome = .error (.faulty filename fault span?) := by
  cases outcome with
  | ok settings =>
      cases hfault
  | error error =>
      cases error with
      | faulty filename' fault' span' =>
          cases hfault
          rfl
      | unreadable path error => cases hfault
      | notToml filename' => cases hfault
      | misfit filename' error => cases hfault

def twoTables : Text :=
  "# tools\n[generator]\nargs = [] # no tool = yet\n\n  tool = \" \"\n[index]\ntool = \"gopls\"\n"

theorem parse_pointsIntoTable_twoTables :
    Settings.parse "quickimpl.toml" twoTables =
        .error (.faulty "quickimpl.toml" (.blankTool .generator) (some ⟨49, 4⟩)) ∧
      exists statements,
        outline? twoTables = some statements ∧
          KeySpan.PointsIntoTable twoTables "generator" "tool" statements (some ⟨49, 4⟩) ∧
            exists heading between key item,
              IsSetting statements "generator" "tool" heading between key item ∧
                key.span = ⟨49, 4⟩ ∧ Fault.IsOf (.blankTool .generator) item.2 := by
  have hparse : Settings.parse "quickimpl.toml" twoTables =
      .error (.faulty "quickimpl.toml" (.blankTool .generator) (some ⟨49, 4⟩)) :=
    Settings.eq_of_faultOf (by decide +kernel)
  have hkeys : (outline? twoTables).bind (fun statements =>
      (Toml.keysIn "generator" "tool" false statements).head?.map (·.span)) = some ⟨49, 4⟩ := by
    decide +kernel
  rcases Settings.parse_pointsIntoTable hparse rfl with ⟨statements, houtline, hpoints, hfaulty⟩
  rw [houtline, Option.bind_some] at hkeys
  rcases Option.map_eq_some_iff.mp hkeys with ⟨key, hhead, hspan⟩
  rcases Toml.exists_isSetting_of_head?_keysIn hhead with ⟨heading, between, item, hsetting⟩
  exact ⟨hparse, statements, houtline, hpoints, heading, between, key, item, hsetting, hspan,
    hfaulty heading between key item hsetting⟩

/-- A comment that mentions the table, and then another table with the same setting. -/
def mentioned : Text :=
  "# the [generator] table\n[index]\ntool = \"gopls\"\n\n[generator]\ntool = \"\"\n"

/-- The fault is in one table and the other one's setting is pointed at. -/
theorem parse_mentioned_pointsElsewhere :
    Settings.parse "quickimpl.toml" mentioned =
        .error (.faulty "quickimpl.toml" (.blankTool .generator) (some ⟨32, 4⟩)) ∧
      exists statements,
        outline? mentioned = some statements ∧
          (Toml.keysIn "index" "tool" false statements).map (·.span) = [⟨32, 4⟩] ∧
          (Toml.keysIn "generator" "tool" false statements).map (·.span) = [⟨60, 4⟩] ∧
          forall heading between key item,
            IsSetting statements "generator" "tool" heading between key item ->
              key.span ≠ ⟨32, 4⟩ := by
  have hkeys : (outline? mentioned).map (fun statements =>
      ((Toml.keysIn "index" "tool" false statements).map (·.span),
        (Toml.keysIn "generator" "tool" false statements).map (·.span))) =
      some ([⟨32, 4⟩], [⟨60, 4⟩]) := by decide +kernel
  refine ⟨Settings.eq_of_faultOf (by decide +kernel), ?_⟩
  rcases Option.map_eq_some_iff.mp hkeys with ⟨statements, houtline, hspans⟩
  rcases Prod.mk.inj hspans with ⟨hindex, hgenerator⟩
  refine ⟨statements, houtline, hindex, hgenerator, ?_⟩
  intro heading between key item hsetting hspan
  have hmem : key.span ∈ (Toml.keysIn "generator" "tool" false statements).map (·.span) :=
    List.mem_map.mpr ⟨key, hsetting.mem_keysIn false, rfl⟩
  rw [hgenerator, hspan] at hmem
  simp at hmem

end StubAssist

import StubAssist.Proofs.Toml.Names

/-!
# Sections of tables

The setting of a name in a table at the top is an entry behind the header of the table
and before any other header.  Its key stands behind whole lines and blanks, and a key
that is written without quotes is followed by its equals sign on the same line.
-/

namespace StubAssist
namespace Toml

open Text (byteSize isWhole)

/-!
# Settings of a document
-/

def Statement.Opens (statement : Statement) (table : Text) (heading : Span) : Prop :=
  exists key, statement.content = .header heading false [] key ∧ key.text = table

def Statement.isHeader (statement : Statement) : Bool :=
  match statement.content with
  | .header _ _ _ _ => true
  | .entry _ _ _ => false

/-- An entry of the last header, at this key and not in a table of it. -/
def Statement.Gives (statement : Statement) (key : Key) (item : Span × Value) : Prop :=
  statement.content = .entry [] key item

/-- The key is that of a setting in the section of the table, the first with its name. -/
inductive IsSetting (statements : List Statement) (table name : Text) (heading : Span)
    (between : List Statement) (key : Key) (item : Span × Value) : Prop where
  | intro {before after : List Statement} {header setting : Statement}
      (hsplit : statements = before ++ header :: (between ++ setting :: after))
      (hopens : header.Opens table heading)
      (hheaders : forall earlier, earlier ∈ between -> earlier.isHeader = false)
      (hothers : forall earlier, earlier ∈ between -> forall other value,
        earlier.Gives other value -> other.text ≠ name)
      (hgives : setting.Gives key item)
      (hname : key.text = name)

def keysIn (table name : Text) (inTable : Bool) : List Statement -> List Key
  | [] => []
  | statement :: rest =>
      match statement.content with
      | .header _ doubled path key =>
          keysIn table name (!doubled && path.isEmpty && key.text == table) rest
      | .entry path key _ =>
          if inTable && path.isEmpty && key.text == name then key :: keysIn table name inTable rest
          else keysIn table name inTable rest

theorem mem_keysIn_of_later
    {table name : Text} {inTable : Bool} {between after : List Statement} {setting : Statement}
    {key : Key} {item : Span × Value}
    (hheaders : forall earlier, earlier ∈ between -> earlier.isHeader = false)
    (hgives : setting.Gives key item) (hname : key.text = name) (hin : inTable = true) :
    key ∈ keysIn table name inTable (between ++ setting :: after) := by
  induction between with
  | nil =>
      rw [Statement.Gives] at hgives
      simp [keysIn, hgives, hname, hin]
  | cons first between ih =>
      have hlater := ih (fun earlier hmem => hheaders earlier (List.mem_cons_of_mem first hmem))
      have hfirst := hheaders first List.mem_cons_self
      rw [List.cons_append, keysIn]
      cases hcontent : first.content with
      | header span doubled path key' =>
          simp [Statement.isHeader, hcontent] at hfirst
      | entry path key' value =>
          dsimp only
          split
          · exact List.mem_cons_of_mem key' hlater
          · exact hlater

theorem IsSetting.mem_keysIn
    {statements between : List Statement} {table name : Text} {heading : Span} {key : Key}
    {item : Span × Value} (inTable : Bool)
    (hsetting : IsSetting statements table name heading between key item) :
    key ∈ keysIn table name inTable statements := by
  rcases hsetting with @⟨before, after, header, setting, hsplit, hopens, hheaders, _, hgives, hname⟩
  rw [hsplit]
  clear hsplit
  induction before generalizing inTable with
  | nil =>
      rcases hopens with ⟨tableKey, hcontent, htable⟩
      rw [List.nil_append, keysIn, hcontent]
      apply mem_keysIn_of_later hheaders hgives hname
      simp [htable]
  | cons first before ih =>
      rw [List.cons_append, keysIn]
      cases first.content with
      | header span doubled path key' =>
          exact ih _
      | entry path key' value =>
          dsimp only
          split
          · exact List.mem_cons_of_mem key' (ih inTable)
          · exact ih inTable

theorem IsSetting.cons
    {statements between : List Statement} {table name : Text} {heading : Span} {key : Key}
    {item : Span × Value} (first : Statement)
    (hsetting : IsSetting statements table name heading between key item) :
    IsSetting (first :: statements) table name heading between key item := by
  rcases hsetting with @⟨before, after, header, setting, hsplit, hopens, hheaders, hothers, hgives,
    hname⟩
  have hcons : first :: statements =
      (first :: before) ++ header :: (between ++ setting :: after) := by
    rw [hsplit, List.cons_append]
  exact IsSetting.intro hcons hopens hheaders hothers hgives hname

theorem isSetting_or_open_of_head?_keysIn
    {statements : List Statement} {table name : Text} {inTable : Bool} {key : Key}
    (hhead : (keysIn table name inTable statements).head? = some key) :
    (exists heading between item, IsSetting statements table name heading between key item) ∨
      inTable = true ∧
        exists between setting after item,
          statements = between ++ setting :: after ∧
            (forall earlier, earlier ∈ between -> earlier.isHeader = false) ∧
            (forall earlier, earlier ∈ between -> forall other value,
              earlier.Gives other value -> other.text ≠ name) ∧
            setting.Gives key item ∧ key.text = name := by
  induction statements generalizing inTable with
  | nil =>
      cases hhead
  | cons first rest ih =>
      rw [keysIn] at hhead
      cases hcontent : first.content with
      | header span doubled path tableKey =>
          rw [hcontent] at hhead
          rcases ih hhead with ⟨heading, between, item, hsetting⟩ |
            ⟨hopens, between, setting, after, item, hrest, hheaders, hothers, hgives, hname⟩
          · exact Or.inl ⟨heading, between, item, hsetting.cons first⟩
          · simp only [Bool.and_eq_true, Bool.not_eq_true', List.isEmpty_iff, beq_iff_eq] at hopens
            rcases hopens with ⟨⟨hsingle, hpath⟩, htable⟩
            -- this header opens the section in which the setting was found
            rw [hsingle, hpath] at hcontent
            have hcons : first :: rest = [] ++ first :: (between ++ setting :: after) := by
              rw [hrest, List.nil_append]
            exact Or.inl ⟨span, between, item, IsSetting.intro hcons
              ⟨tableKey, hcontent, htable⟩ hheaders hothers hgives hname⟩
      | entry path first' value =>
          rw [hcontent] at hhead
          dsimp only at hhead
          split at hhead
          · rename_i hfirst
            cases hhead
            simp only [Bool.and_eq_true, List.isEmpty_iff, beq_iff_eq] at hfirst
            rcases hfirst with ⟨⟨hin, hpath⟩, hname⟩
            rw [hpath] at hcontent
            exact Or.inr ⟨hin, [], first, rest, value, rfl, by simp, by simp, hcontent, hname⟩
          · rename_i hfirst
            rcases ih hhead with ⟨heading, between, item, hsetting⟩ |
              ⟨hin, between, setting, after, item, hrest, hheaders, hothers, hgives, hname⟩
            · exact Or.inl ⟨heading, between, item, hsetting.cons first⟩
            · refine Or.inr ⟨hin, first :: between, setting, after, item,
                congrArg (first :: ·) hrest, ?_, ?_, hgives, hname⟩
              · intro earlier hmem
                rcases List.mem_cons.mp hmem with hsame | hlater
                · rw [hsame, Statement.isHeader, hcontent]
                · exact hheaders earlier hlater
              · intro earlier hmem other found hfound hother
                rcases List.mem_cons.mp hmem with hsame | hlater
                · rw [hsame, Statement.Gives, hcontent] at hfound
                  cases hfound
                  simp [hin, hother] at hfirst
                · exact hothers earlier hlater other found hfound hother

theorem exists_isSetting_of_head?_keysIn
    {statements : List Statement} {table name : Text} {key : Key}
    (hhead : (keysIn table name false statements).head? = some key) :
    exists heading between item, IsSetting statements table name heading between key item := by
  rcases isSetting_or_open_of_head?_keysIn hhead with hsetting | ⟨hin, _⟩
  · exact hsetting
  · cases hin

/-- The text from a header on, and how the setting behind it is read. -/
structure IsPlace (source : Text) (heading : Span) (between : List Statement) (key : Key)
    (front header gap tail lines indent t : Text) : Prop where
  split : source = front ++ (header ++ (gap ++ (tail ++ '\n' :: (lines ++ (indent ++ t)))))
  heading : heading = ⟨byteSize front, byteSize header⟩
  allSpaces : AllSpaces gap
  leads : Leads (byteSize source) between tail lines indent
  reads : exists value rest, readContent (byteSize source) t = some (.entry [] key value, rest)
  starts : forall c, t.head? = some c -> isSpaceOrTab c = false

theorem span_of_readContent
    {total : Nat} {t rest : Text} {span : Span} {doubled : Bool} {path : List Key} {key : Key}
    (hread : readContent total t = some (.header span doubled path key, rest)) :
    span = ⟨total - byteSize t, byteSize t - byteSize rest⟩ := by
  rw [readContent, read_bind, read_get, Option.bind_some] at hread
  split at hread
  · rcases read_bind_iff.mp hread with ⟨⟨span', doubled', path', key'⟩, rest', hheader, hlast⟩
    cases hlast
    exact (withSpan_eq_some_iff.mp hheader).2
  · rcases read_bind_iff.mp hread with ⟨⟨path', key', value⟩, rest', hentry, hlast⟩
    cases hlast

theorem dropByteOrderMark_suffix (t : Text) :
    dropByteOrderMark t <:+ t := by
  unfold dropByteOrderMark
  split
  · exact List.suffix_cons _ _
  · exact List.suffix_refl _

theorem IsSetting.exists_place
    {source table name : Text} {statements between : List Statement} {heading : Span} {key : Key}
    {item : Span × Value} (houtline : outline? source = some statements)
    (hsetting : IsSetting statements table name heading between key item) :
    exists front header gap tail lines indent t,
      IsPlace source heading between key front header gap tail lines indent t := by
  rcases hsetting with @⟨before, after, header, setting, hsplit, hopens, _, _, hgives, _⟩
  rcases hopens with ⟨tableKey, hheader, _⟩
  unfold outline? at houtline
  rcases Option.map_eq_some_iff.mp houtline with ⟨⟨_, left⟩, hread, hstatements⟩
  dsimp only at hstatements
  rw [hstatements, hsplit] at hread
  rcases (laid_of_readStatements hread).exists_read with ⟨t₀, rest₀, hsuffix, hread₀, hlaid⟩
  rcases readStatement_eq_some hread₀ with ⟨gap, ht₀, hgap, hend, hcontent₀⟩
  rcases hlaid.exists_leads hend with
    ⟨tail, lines, indent, t, rest, hrest₀, hleads, hread', hstarts⟩
  rcases readStatement_eq_some hread' with ⟨gap', ht, _, _, hcontent⟩
  rcases hsuffix.trans (dropByteOrderMark_suffix source) with ⟨front, hfront⟩
  rw [hheader] at hcontent₀
  have hspan := span_of_readContent hcontent₀
  refine ⟨front, header.text, gap, tail, lines, indent, t, ?_, ?_, hgap, hleads, ?_, hstarts⟩
  · rw [← hfront, ht₀, hrest₀]
  · have hsize := congrArg byteSize ht₀
    rw [Text.byteSize_append] at hsize
    rw [hspan, ← hfront, Text.byteSize_append, Nat.add_sub_cancel, hsize, Nat.add_sub_cancel]
  · rw [hgives] at hcontent
    exact ⟨item, _, hcontent⟩

theorem IsSetting.text_eq
    {table name : Text} {statements between : List Statement} {heading : Span} {key : Key}
    {item : Span × Value} (hsetting : IsSetting statements table name heading between key item) :
    key.text = name := by
  cases hsetting
  assumption

variable {source table : Text} {heading : Span} {between : List Statement} {key : Key}
variable {front header gap tail lines indent t : Text}

theorem IsPlace.upto
    (hplace : IsPlace source heading between key front header gap tail lines indent t) :
    source = front ++ header ++ (gap ++ (tail ++ '\n' :: lines)) ++ indent ++ t := by
  rw [hplace.split]
  simp only [List.append_assoc, List.cons_append]

theorem IsPlace.offset
    {upto : Text} (hplace : IsPlace source heading between key front header gap tail lines indent t)
    (hupto : source = upto ++ t) :
    key.span.offset = byteSize upto := by
  rcases hplace.reads with ⟨value, rest, hread⟩
  rcases exists_name_of_entry hread hplace.starts with ⟨name, left, _, hkey, _⟩
  rw [hkey, keyAt, hupto, Text.byteSize_append, Nat.add_sub_cancel]

theorem IsPlace.exists_equals
    {after : Text}
    (hplace : IsPlace source heading between key front header gap tail lines indent t)
    (hname : IsBareName key.text) (ht : t = key.text ++ after) :
    key.span.length = byteSize key.text ∧
      exists spaces rest, AllSpaces spaces ∧ after = spaces ++ '=' :: rest := by
  rcases hplace.reads with ⟨value, rest, hread⟩
  rcases exists_name_of_entry hread hplace.starts with ⟨name, left, hreadName, hkey, hequals⟩
  rcases List.exists_cons_of_ne_nil hname.ne_nil with ⟨c, others, hcons⟩
  have hhead : t.head? = some c := by
    rw [ht, hcons]
    rfl
  have hsplit := eq_append_of_readName hreadName hhead
    (hname.isBareKeyChar c (hcons ▸ List.mem_cons_self))
  have htext : key.text = name := by
    rw [hkey]
    rfl
  rw [ht, htext, List.append_cancel_left_eq] at hsplit
  constructor
  · rw [hkey, keyAt, ht, htext, hsplit, Text.byteSize_append, Nat.add_sub_cancel]
  · rcases List.head?_eq_some_iff.mp hequals with ⟨rest, hrest⟩
    refine ⟨left.takeWhile isSpaceOrTab, rest, ?_, ?_⟩
    · intro c hc
      exact List.mem_takeWhile_imp hc
    · rw [← hrest, List.takeWhile_append_dropWhile, hsplit]

end Toml
end StubAssist

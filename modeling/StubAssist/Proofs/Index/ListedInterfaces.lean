import Mathlib.Data.List.Forall2
import StubAssist.Proofs.Index.Distinct
import StubAssist.Proofs.QuickFix.Stages
import StubAssist.Proofs.Text.Splits

/-!
# Listed interfaces

What the listing tool prints, the user picks from and the generator gets are the same
names.  A name is split into a container and the rest when the listing is read, and is
put together again when it is shown or passed on; whatever dots it has, nothing is lost
on the way, so that two candidates are the same only if their names are.
-/

namespace StubAssist

/-!
# Names and candidates
-/

namespace Candidate

def ofListed (name : Text) : Candidate :=
  inPackage (WorkspaceSymbols.splitQualified name).1 (WorkspaceSymbols.splitQualified name).2

theorem qualifiedName_ofListed (name : Text) :
    (ofListed name).qualifiedName = name := by
  unfold ofListed WorkspaceSymbols.splitQualified
  cases hsplit : Text.splitLast '.' name with
  | none =>
      rfl
  | some parts =>
      rcases parts with ⟨container, last⟩
      rcases Text.splitLast_eq_some_iff.mp hsplit with ⟨hname, _⟩
      cases container with
      | nil =>
          rfl
      | cons c container =>
          cases last with
          | nil =>
              rfl
          | cons d last =>
              exact hname.symm

theorem ofListed_injective : Function.Injective ofListed :=
  Function.LeftInverse.injective qualifiedName_ofListed

end Candidate

/-- What becomes of a listed name: it is shown, and passed to the generator, as it is. -/
structure StandsFor (name : Text) (candidate : Candidate) : Prop where
  shown : candidate.qualifiedName = name
  passed :
    forall (trigger : Trigger) (settings : ReceiverSettings),
      trigger.hasStructName = true ->
        exists command,
          StubCommand.compose trigger candidate settings = .ok command ∧
            command.arguments =
              [receiverExpression settings trigger.structName, name]

theorem standsFor_ofListed (name : Text) :
    StandsFor name (.ofListed name) := by
  constructor
  · exact Candidate.qualifiedName_ofListed name
  · intro trigger settings hnamed
    refine ⟨_, StubCommand.compose_of_named _ settings hnamed, ?_⟩
    unfold StubCommand.arguments StubCommand.of
    rw [Candidate.qualifiedName_ofListed]

namespace SymbolKind

theorem ofText_eq_interface_iff {t : Text} :
    ofText t = .interface ↔ Text.lowerCase t = Text.lowerCase "Interface" := by
  have hword : Text.lowerCase "Interface" = "interface".toList := by decide
  rw [hword, ofText]
  constructor
  · intro hkind
    cases hfound : spellings.lookup (Text.lowerCase t) with
    | none =>
        rw [hfound] at hkind
        cases hkind
    | some kind =>
        rw [hfound] at hkind
        rcases List.lookup_eq_some_iff.mp hfound with ⟨before, after, hsplit, _⟩
        have hmem : (Text.lowerCase t, interface) ∈ spellings := by
          rw [hsplit, show kind = interface from hkind]
          exact List.mem_append_right before List.mem_cons_self
        simpa [spellings] using hmem
  · intro hlower
    rw [hlower]
    rfl

end SymbolKind

/-!
# Lines of a listing
-/

namespace WorkspaceSymbols

/-- The line is an entry: a place, a name and a kind, split at the last two blanks. -/
structure IsEntry (line place name kind : Text) : Prop where
  split : Text.trim line = place ++ ' ' :: (name ++ ' ' :: kind)
  name : ' ' ∉ name
  kind : ' ' ∉ kind
  accepted : (parsePlace place).isSome = true

theorem parseLine_of_trim
    {line place name kind : Text}
    (hsplit : Text.trim line = place ++ ' ' :: (name ++ ' ' :: kind)) (hname : ' ' ∉ name)
    (hkind : ' ' ∉ kind) :
    parseLine line =
      (parsePlace place).map fun range =>
        ⟨(splitQualified name).1, SymbolKind.ofText kind, range, (splitQualified name).2⟩ := by
  have houter : Text.splitLast ' ' (Text.trim line) = some (place ++ ' ' :: name, kind) := by
    rw [Text.splitLast_eq_some_iff, hsplit, List.append_assoc]
    exact ⟨rfl, hkind⟩
  have hinner : Text.splitLast ' ' (place ++ ' ' :: name) = some (place, name) :=
    Text.splitLast_append place hname
  unfold parseLine
  simp only [bind, houter, hinner, Option.bind_some]
  cases parsePlace place <;> rfl

theorem parseLine_of_isEntry
    {line place name kind : Text} (hentry : IsEntry line place name kind) :
    exists range,
      parseLine line = some ⟨(splitQualified name).1, SymbolKind.ofText kind, range,
        (splitQualified name).2⟩ := by
  rcases Option.isSome_iff_exists.mp hentry.accepted with ⟨range, hrange⟩
  refine ⟨range, ?_⟩
  rw [parseLine_of_trim hentry.split hentry.name hentry.kind, hrange]
  rfl

theorem exists_isEntry_of_parseLine
    {line : Text} {symbol : Symbol} (hline : parseLine line = some symbol) :
    exists place name kind,
      IsEntry line place name kind ∧ symbol.kind = SymbolKind.ofText kind ∧
        Candidate.ofSymbol symbol = .ofListed name := by
  unfold parseLine at hline
  simp only [bind, pure, Option.bind_eq_some_iff] at hline
  rcases hline with ⟨⟨rest, kind⟩, houter, ⟨place, name⟩, hinner, range, hrange, hsymbol⟩
  dsimp only at hinner hrange
  rcases Text.splitLast_eq_some_iff.mp houter with ⟨hline, hkind⟩
  rcases Text.splitLast_eq_some_iff.mp hinner with ⟨hrest, hname⟩
  cases hsymbol
  refine ⟨place, name, kind, ⟨?_, hname, hkind, ?_⟩, rfl, rfl⟩
  · rw [hline, hrest, List.append_assoc]
    rfl
  · exact Option.isSome_iff_exists.mpr ⟨range, hrange⟩

def ReadsInterface (kind : Text) : Prop :=
  Text.lowerCase kind = Text.lowerCase "Interface"

/-- The names that the entries for interfaces have, line by line. -/
inductive Lists : List Text -> List Text -> Prop
  | nil : Lists [] []
  | interface {line place name kind : Text} {lines names : List Text}
      (hentry : IsEntry line place name kind) (hkind : ReadsInterface kind)
      (hrest : Lists lines names) :
      Lists (line :: lines) (name :: names)
  | other {line : Text} {lines names : List Text}
      (hnone : forall place name kind,
        IsEntry line place name kind -> ¬ ReadsInterface kind)
      (hrest : Lists lines names) :
      Lists (line :: lines) names

theorem kind_of_isEntry
    {line place name kind : Text} {symbol : Symbol}
    (hentry : IsEntry line place name kind) (hline : parseLine line = some symbol) :
    symbol.kind = SymbolKind.ofText kind := by
  rcases parseLine_of_isEntry hentry with ⟨range, hparse⟩
  rw [hparse] at hline
  cases hline
  rfl

theorem exists_lists (lines : List Text) :
    exists names,
      Lists lines names ∧
        ((lines.filterMap parseLine).filter (·.kind == .interface)).map Candidate.ofSymbol =
          names.map .ofListed := by
  induction lines with
  | nil =>
      exact ⟨[], Lists.nil, rfl⟩
  | cons line rest ih =>
      rcases ih with ⟨names, hlists, hcandidates⟩
      cases hline : parseLine line with
      | none =>
          refine ⟨names, Lists.other ?_ hlists, ?_⟩
          · intro place name kind hentry
            rcases parseLine_of_isEntry hentry with ⟨range, hparse⟩
            rw [hline] at hparse
            cases hparse
          · rw [List.filterMap_cons_none hline]
            exact hcandidates
      | some symbol =>
          rw [List.filterMap_cons_some hline, List.filter_cons]
          by_cases hinterface : symbol.kind = .interface
          · rcases exists_isEntry_of_parseLine hline with
              ⟨place, name, kind, hentry, hkind, hcandidate⟩
            have hreads : ReadsInterface kind :=
              SymbolKind.ofText_eq_interface_iff.mp (hkind.symm.trans hinterface)
            refine ⟨name :: names, Lists.interface hentry hreads hlists, ?_⟩
            rw [if_pos (beq_iff_eq.mpr hinterface), List.map_cons, List.map_cons, hcandidate,
              hcandidates]
          · refine ⟨names, Lists.other ?_ hlists, ?_⟩
            · intro place name kind hentry hreads
              rw [kind_of_isEntry hentry hline] at hinterface
              exact hinterface (SymbolKind.ofText_eq_interface_iff.mpr hreads)
            · rw [if_neg (by simpa using hinterface)]
              exact hcandidates

theorem interfacesOf_parse (listing : Text) :
    exists names,
      Lists (Text.lines listing) names ∧
        interfacesOf (parse listing) = (distinct names).map .ofListed := by
  rcases exists_lists (Text.lines listing) with ⟨names, hlists, hcandidates⟩
  refine ⟨names, hlists, ?_⟩
  unfold interfacesOf parse
  rw [hcandidates, distinct_map Candidate.ofListed_injective]

end WorkspaceSymbols

/-!
# An index that runs the tool
-/

namespace WorkspaceIndex

variable {ω : Type} {runner : ToolRunner ω} {index : WorkspaceIndex} {world : ω}
variable {keyword : Text} {stdout stderr : Utf8.Bytes}

theorem ask_of_success
    (hkeyword : Text.trim keyword ≠ [])
    (hrun : (runner.run world (index.invocation (Text.trim keyword))).1 =
      .finished (.code 0) stdout stderr) :
    (index.ask runner world keyword).1.symbols =
      .ok (WorkspaceSymbols.parse (Utf8.decodeLossy stdout)) := by
  unfold ask ToolRunner.report
  dsimp only
  rw [if_neg (by simpa using hkeyword), hrun]
  rfl

/--
After a successful run the candidates stand for the names of the interfaces that were
listed, each once and in the order of first appearance.
-/
theorem interfaces_of_success
    (hkeyword : Text.trim keyword ≠ [])
    (hrun : (runner.run world (index.invocation (Text.trim keyword))).1 =
      .finished (.code 0) stdout stderr) :
    exists names firsts candidates,
      WorkspaceSymbols.Lists (Text.lines (Utf8.decodeLossy stdout)) names ∧
        FirstsOf names firsts ∧
        (index.ask runner world keyword).1.interfaces = .ok candidates ∧
        List.Forall₂ StandsFor firsts candidates := by
  rcases WorkspaceSymbols.interfacesOf_parse (Utf8.decodeLossy stdout) with
    ⟨names, hlists, hcandidates⟩
  refine ⟨names, distinct names, (distinct names).map .ofListed, hlists,
    firstsOf_distinct names, ?_, ?_⟩
  · rw [Reply.interfaces, ask_of_success hkeyword hrun, ← hcandidates]
    rfl
  · rw [List.forall₂_map_right_iff]
    exact List.forall₂_same.mpr fun name _ => standsFor_ofListed name

def dottedListing : Text :=
  "a.go:1:1-2 .Lead Interface\na.go:1:1-2 io.Reader INTERFACE\nno entry\n".toList ++
    "a.go:1:1-2 .Lead interface\na.go:1:1-2 a..b. Struct\n".toList ++
    "b c.go:1:1-2:1 ... Interface\n".toList

def dottedRunner : ToolRunner Unit where
  run _ _ := (.finished (.code 0) (Utf8.encode dottedListing) [], ())

theorem interfaces_of_dotted :
    Text.trim "Read" ≠ [] ∧
      (ask dottedRunner ⟨"gopls", "", 10000⟩ () "Read").1.interfaces =
          .ok [⟨".Lead", none⟩, ⟨"Reader", some "io".toList⟩, ⟨"...", none⟩] ∧
        exists names firsts,
          WorkspaceSymbols.Lists
            (Text.lines (Utf8.decodeLossy (Utf8.encode dottedListing))) names ∧
          FirstsOf names firsts ∧
          List.Forall₂ StandsFor firsts
            [⟨".Lead", none⟩, ⟨"Reader", some "io".toList⟩, ⟨"...", none⟩] := by
  have hkeyword : Text.trim "Read" ≠ [] := by decide
  have hcandidates : interfacesOf (WorkspaceSymbols.parse
      (Utf8.decodeLossy (Utf8.encode dottedListing))) =
      [⟨".Lead", none⟩, ⟨"Reader", some "io".toList⟩, ⟨"...", none⟩] := by
    decide +kernel
  have hinterfaces : (ask dottedRunner ⟨"gopls", "", 10000⟩ () "Read").1.interfaces =
      .ok [⟨".Lead", none⟩, ⟨"Reader", some "io".toList⟩, ⟨"...", none⟩] := by
    rw [Reply.interfaces, ask_of_success hkeyword rfl, ← hcandidates]
    rfl
  rcases @interfaces_of_success _ dottedRunner ⟨"gopls", "", 10000⟩ () _ _ _ hkeyword rfl with
    ⟨names, firsts, candidates, hlists, hfirsts, hreply, hstands⟩
  rw [hinterfaces] at hreply
  cases hreply
  exact ⟨hkeyword, hinterfaces, names, firsts, hlists, hfirsts, hstands⟩

end WorkspaceIndex
end StubAssist

import Mathlib.Data.List.Nodup
import StubAssist.Proofs.Index.ListedInterfaces

/-!
# Repeated names

Interfaces on offer are told apart by name and package, and are shown under their
qualified names.  One qualified name can be cut into package and name at any of its dots,
so two interfaces that are told apart may be shown alike.  They are exactly where one of
them is cut at an earlier dot than the other, and where that does not happen each
qualified name is on offer once.  It never happens to the names of a listing, which come
whole and are all cut by one rule.
-/

namespace StubAssist

def Symbol.qualifiedName (symbol : Symbol) : Text :=
  qualify symbol.container symbol.name

def interfaceSymbols (symbols : List Symbol) : List Symbol :=
  symbols.filter (·.kind == .interface)

/-!
# One name cut at two dots
-/

namespace Candidate

theorem qualifiedName_ofSymbol (symbol : Symbol) :
    (ofSymbol symbol).qualifiedName = symbol.qualifiedName := by
  unfold ofSymbol inPackage qualifiedName Symbol.qualifiedName
  cases symbol.container with
  | none =>
      rfl
  | some path =>
      cases path <;> rfl

theorem package_ofSymbol_ne_some_nil (symbol : Symbol) :
    (ofSymbol symbol).package ≠ some [] := by
  intro hempty
  have hkept := (Option.filter_eq_some_iff.mp hempty).2
  cases hkept

/--
One candidate is cut at an earlier dot than the other: what stands between the two dots
belongs to the name of the one and to the package of the other.
-/
def CutsEarlier (one other : Candidate) : Prop :=
  exists between,
    one.name = between ++ '.' :: other.name ∧
      other.package = some (qualify one.package between)

theorem qualify_of_ne_nil
    {path : Text} (name : Text) (hpath : path ≠ []) :
    qualify (some path) name = path ++ '.' :: name := by
  cases path with
  | nil => exact absurd rfl hpath
  | cons c path => rfl

theorem qualify_append (package : Option Text) (name rest : Text) :
    qualify package (name ++ rest) = qualify package name ++ rest := by
  cases package with
  | none =>
      rfl
  | some path =>
      cases path with
      | nil =>
          rfl
      | cons c path =>
          exact (List.append_assoc (c :: path) ('.' :: name) rest).symm

theorem CutsEarlier.ne
    {one other : Candidate} (hcuts : CutsEarlier one other) :
    one ≠ other := by
  rcases hcuts with ⟨between, hname, _⟩
  intro heq
  have hlength := congrArg List.length hname
  rw [heq, List.length_append, List.length_cons] at hlength
  omega

theorem CutsEarlier.qualifiedName_eq
    {one other : Candidate} (hcuts : CutsEarlier one other)
    (hother : other.package ≠ some []) :
    one.qualifiedName = other.qualifiedName := by
  rcases hcuts with ⟨between, hname, hpackage⟩
  have hpath : qualify one.package between ≠ [] := by
    intro hempty
    rw [hpackage, hempty] at hother
    exact hother rfl
  unfold qualifiedName
  rw [hname, qualify_append, hpackage, qualify_of_ne_nil other.name hpath]

theorem cutsEarlier_of_append_eq
    {path later name last gap : Text} (hpath : path ≠ []) (hlater : later = path ++ gap)
    (hgap : '.' :: name = gap ++ '.' :: last) :
    (⟨name, some path⟩ : Candidate) = ⟨last, some later⟩ ∨
      CutsEarlier ⟨name, some path⟩ ⟨last, some later⟩ := by
  cases gap with
  | nil =>
      rw [List.nil_append] at hgap
      rw [hlater, List.append_nil, (List.cons.inj hgap).2]
      exact Or.inl rfl
  | cons c between =>
      rcases List.cons.inj hgap with ⟨hdot, hname⟩
      refine Or.inr ⟨between, hname, ?_⟩
      rw [qualify_of_ne_nil between hpath, hlater, ← hdot]

theorem qualifiedName_eq_iff
    {one other : Candidate} (hone : one.package ≠ some []) (hother : other.package ≠ some []) :
    one.qualifiedName = other.qualifiedName ↔
      one = other ∨ CutsEarlier one other ∨ CutsEarlier other one := by
  constructor
  · intro heq
    rcases one with ⟨name, package⟩
    rcases other with ⟨last, later⟩
    cases package with
    | none =>
        cases later with
        | none =>
            have hname : name = last := heq
            exact Or.inl (by rw [hname])
        | some later =>
            have hlater : later ≠ [] := fun hempty => hother (by rw [hempty])
            have hname : name = qualify (some later) last := heq
            rw [qualify_of_ne_nil last hlater] at hname
            exact Or.inr (Or.inl ⟨later, hname, rfl⟩)
    | some path =>
        have hpath : path ≠ [] := fun hempty => hone (by rw [hempty])
        cases later with
        | none =>
            have hlast : qualify (some path) name = last := heq
            rw [qualify_of_ne_nil name hpath] at hlast
            exact Or.inr (Or.inr ⟨path, hlast.symm, rfl⟩)
        | some later =>
            have hlater : later ≠ [] := fun hempty => hother (by rw [hempty])
            have htext : qualify (some path) name = qualify (some later) last := heq
            rw [qualify_of_ne_nil name hpath, qualify_of_ne_nil last hlater] at htext
            -- One of the two packages is the beginning of the other, up to a dot.
            rcases List.append_eq_append_iff.mp htext with ⟨gap, h, hgap⟩ | ⟨gap, h, hgap⟩
            · exact (cutsEarlier_of_append_eq hpath h hgap).imp id Or.inl
            · exact (cutsEarlier_of_append_eq hlater h hgap).imp Eq.symm Or.inr
  · rintro (heq | hcuts | hcuts)
    · rw [heq]
    · exact hcuts.qualifiedName_eq hother
    · exact (hcuts.qualifiedName_eq hone).symm

end Candidate

/-!
# Names on offer
-/

/--
Each qualified name of an interface is listed once, by the first symbol that has it, and
in the order of those first symbols.
-/
structure ListsNamesOnce (symbols : List Symbol) (candidates : List Candidate) : Prop where
  names :
    FirstsOf ((interfaceSymbols symbols).map Symbol.qualifiedName)
      (candidates.map Candidate.qualifiedName)
  first :
    forall candidate, candidate ∈ candidates ->
      exists symbol,
        (interfaceSymbols symbols).find? (·.qualifiedName == candidate.qualifiedName) =
            some symbol ∧
          candidate = .ofSymbol symbol

/-- No two interfaces among the symbols have one qualified name that is cut at two dots. -/
def CutsAlike (symbols : List Symbol) : Prop :=
  forall one, one ∈ interfaceSymbols symbols ->
    forall other, other ∈ interfaceSymbols symbols ->
      ¬ Candidate.CutsEarlier (.ofSymbol one) (.ofSymbol other)

section Offers

variable {symbols : List Symbol}

theorem firstsOf_interfacesOf (symbols : List Symbol) :
    FirstsOf ((interfaceSymbols symbols).map Candidate.ofSymbol) (interfacesOf symbols) :=
  firstsOf_distinct _

theorem mem_interfacesOf_iff {candidate : Candidate} :
    candidate ∈ interfacesOf symbols ↔
      exists symbol, symbol ∈ interfaceSymbols symbols ∧ Candidate.ofSymbol symbol = candidate :=
  mem_distinct_iff.trans List.mem_map

theorem mem_map_qualifiedName_iff {name : Text} :
    name ∈ (interfacesOf symbols).map Candidate.qualifiedName ↔
      name ∈ (interfaceSymbols symbols).map Symbol.qualifiedName := by
  constructor
  · intro hname
    rcases List.mem_map.mp hname with ⟨candidate, hcandidate, hshown⟩
    rcases mem_interfacesOf_iff.mp hcandidate with ⟨symbol, hsymbol, hof⟩
    refine List.mem_map.mpr ⟨symbol, hsymbol, ?_⟩
    rw [← hshown, ← hof, Candidate.qualifiedName_ofSymbol]
  · intro hname
    rcases List.mem_map.mp hname with ⟨symbol, hsymbol, hshown⟩
    refine List.mem_map.mpr ⟨.ofSymbol symbol, mem_interfacesOf_iff.mpr ⟨symbol, hsymbol, rfl⟩, ?_⟩
    rw [Candidate.qualifiedName_ofSymbol, hshown]

theorem CutsAlike.ofSymbol_eq
    {one other : Symbol} (halike : CutsAlike symbols) (hone : one ∈ interfaceSymbols symbols)
    (hother : other ∈ interfaceSymbols symbols)
    (hname : one.qualifiedName = other.qualifiedName) :
    Candidate.ofSymbol one = Candidate.ofSymbol other := by
  rw [← Candidate.qualifiedName_ofSymbol, ← Candidate.qualifiedName_ofSymbol,
    Candidate.qualifiedName_eq_iff (Candidate.package_ofSymbol_ne_some_nil one)
      (Candidate.package_ofSymbol_ne_some_nil other)] at hname
  rcases hname with heq | hcuts | hcuts
  · exact heq
  · exact absurd hcuts (halike one hone other hother)
  · exact absurd hcuts (halike other hother one hone)

theorem CutsAlike.map_qualifiedName_interfacesOf (halike : CutsAlike symbols) :
    (interfacesOf symbols).map Candidate.qualifiedName =
      distinct ((interfaceSymbols symbols).map Symbol.qualifiedName) := by
  have hnames : (interfaceSymbols symbols).map Symbol.qualifiedName =
      ((interfaceSymbols symbols).map Candidate.ofSymbol).map Candidate.qualifiedName := by
    rw [List.map_map]
    exact List.map_congr_left fun symbol _ => (Candidate.qualifiedName_ofSymbol symbol).symm
  rw [hnames, distinct_map_of_injOn]
  · rfl
  · intro a ha b hb heq
    rcases List.mem_map.mp ha with ⟨one, hone, rfl⟩
    rcases List.mem_map.mp hb with ⟨other, hother, rfl⟩
    rw [Candidate.qualifiedName_ofSymbol, Candidate.qualifiedName_ofSymbol] at heq
    exact halike.ofSymbol_eq hone hother heq

theorem CutsAlike.listsNamesOnce (halike : CutsAlike symbols) :
    ListsNamesOnce symbols (interfacesOf symbols) := by
  constructor
  · rw [halike.map_qualifiedName_interfacesOf]
    exact firstsOf_distinct _
  · intro candidate hcandidate
    rcases mem_interfacesOf_iff.mp hcandidate with ⟨symbol, hsymbol, rfl⟩
    have hshown : (symbol.qualifiedName == (Candidate.ofSymbol symbol).qualifiedName) = true := by
      rw [Candidate.qualifiedName_ofSymbol]
      exact beq_self_eq_true _
    have hsome : ((interfaceSymbols symbols).find?
        (·.qualifiedName == (Candidate.ofSymbol symbol).qualifiedName)).isSome = true :=
      List.find?_isSome.mpr ⟨symbol, hsymbol, hshown⟩
    rcases Option.isSome_iff_exists.mp hsome with ⟨first, hfirst⟩
    have hname : first.qualifiedName = symbol.qualifiedName := by
      have hfound := List.find?_some hfirst
      rwa [beq_iff_eq, Candidate.qualifiedName_ofSymbol] at hfound
    exact ⟨first, hfirst,
      (halike.ofSymbol_eq (List.mem_of_find?_eq_some hfirst) hsymbol hname).symm⟩

theorem cutsAlike_of_nodup
    (honce : ((interfacesOf symbols).map Candidate.qualifiedName).Nodup) :
    CutsAlike symbols := by
  intro one hone other hother hcuts
  -- Both are on offer, since they differ, and under one name, which stands there once.
  have hname := hcuts.qualifiedName_eq (Candidate.package_ofSymbol_ne_some_nil other)
  exact hcuts.ne (List.inj_on_of_nodup_map honce (mem_interfacesOf_iff.mpr ⟨one, hone, rfl⟩)
    (mem_interfacesOf_iff.mpr ⟨other, hother, rfl⟩) hname)

/-- What is on offer after an answer, in terms of candidates and of their names. -/
structure Offers (symbols : List Symbol) (candidates : List Candidate) : Prop where
  apart : FirstsOf ((interfaceSymbols symbols).map Candidate.ofSymbol) candidates
  shown :
    forall name,
      name ∈ candidates.map Candidate.qualifiedName ↔
        name ∈ (interfaceSymbols symbols).map Symbol.qualifiedName
  once_iff : (candidates.map Candidate.qualifiedName).Nodup ↔ CutsAlike symbols
  namesOnce_iff : ListsNamesOnce symbols candidates ↔ CutsAlike symbols

theorem offers_interfacesOf (symbols : List Symbol) :
    Offers symbols (interfacesOf symbols) := by
  constructor
  · exact firstsOf_interfacesOf symbols
  · intro name
    exact mem_map_qualifiedName_iff
  · exact ⟨cutsAlike_of_nodup, fun halike => halike.listsNamesOnce.names.once⟩
  · exact ⟨fun hlists => cutsAlike_of_nodup hlists.names.once, CutsAlike.listsNamesOnce⟩

/--
Whatever an index answers, the interfaces in it are on offer once for each name and
package, and once for each qualified name exactly where those are cut alike.
-/
theorem Reply.offers_of_ok
    {reply : Reply} (hanswer : reply.symbols = .ok symbols) :
    exists candidates,
      reply.interfaces = .ok candidates ∧ Offers symbols candidates := by
  refine ⟨interfacesOf symbols, ?_, offers_interfacesOf symbols⟩
  unfold Reply.interfaces
  rw [hanswer]
  rfl

end Offers

/-!
# Names from a listing
-/

namespace WorkspaceSymbols

theorem exists_ofListed_of_mem
    {listing : Text} {symbol : Symbol} (hsymbol : symbol ∈ interfaceSymbols (parse listing)) :
    exists name, Candidate.ofSymbol symbol = .ofListed name := by
  rcases List.mem_filterMap.mp (List.mem_of_mem_filter hsymbol) with ⟨line, _, hline⟩
  rcases exists_isEntry_of_parseLine hline with ⟨_, name, _, _, _, hcandidate⟩
  exact ⟨name, hcandidate⟩

/-- A listing has qualified names, so that none of them comes cut at two dots. -/
theorem cutsAlike_parse (listing : Text) :
    CutsAlike (parse listing) := by
  intro one hone other hother hcuts
  rcases exists_ofListed_of_mem hone with ⟨name, hname⟩
  rcases exists_ofListed_of_mem hother with ⟨last, hlast⟩
  have hshown := hcuts.qualifiedName_eq (Candidate.package_ofSymbol_ne_some_nil other)
  have hsame : name = last := by
    rwa [hname, hlast, Candidate.qualifiedName_ofListed, Candidate.qualifiedName_ofListed]
      at hshown
  exact hcuts.ne (by rw [hname, hlast, hsame])

theorem listsNamesOnce_parse (listing : Text) :
    ListsNamesOnce (parse listing) (interfacesOf (parse listing)) :=
  (cutsAlike_parse listing).listsNamesOnce

end WorkspaceSymbols

/-!
# The same name from two packages
-/

/-- `a.b.Reader` cut at either of its dots, once more at the last one, and as a struct. -/
def severedReaders : FixedIndex where
  symbols :=
    [⟨"b.Reader", .interface, .ofLines 0 0, some "a".toList⟩,
      ⟨"Reader", .interface, .ofLines 3 3, some "a.b".toList⟩,
      ⟨"Reader", .struct, .ofLines 6 6, some "a.b".toList⟩,
      ⟨"Reader", .interface, .ofLines 9 9, some "a.b".toList⟩]
  delayMillis := 0
  failures := []

theorem offers_of_severedReaders :
    (severedReaders.reply "Reader").symbols = .ok severedReaders.symbols ∧
      (severedReaders.reply "Reader").interfaces =
          .ok [⟨"b.Reader", some "a".toList⟩, ⟨"Reader", some "a.b".toList⟩] ∧
        Offers severedReaders.symbols
          [⟨"b.Reader", some "a".toList⟩, ⟨"Reader", some "a.b".toList⟩] := by
  have hanswer : (severedReaders.reply "Reader").symbols = .ok severedReaders.symbols := by
    rfl
  have hinterfaces : (severedReaders.reply "Reader").interfaces =
      .ok [⟨"b.Reader", some "a".toList⟩, ⟨"Reader", some "a.b".toList⟩] := by
    rfl
  rcases Reply.offers_of_ok hanswer with ⟨candidates, hreply, hoffers⟩
  rw [hinterfaces] at hreply
  cases hreply
  exact ⟨hanswer, hinterfaces, hoffers⟩

theorem not_listsNamesOnce :
    (severedReaders.reply "Reader").interfaces =
        .ok [⟨"b.Reader", some "a".toList⟩, ⟨"Reader", some "a.b".toList⟩] ∧
      ¬ ListsNamesOnce severedReaders.symbols
        [⟨"b.Reader", some "a".toList⟩, ⟨"Reader", some "a.b".toList⟩] := by
  constructor
  · rfl
  · intro hlists
    exact absurd hlists.names.once (by decide)

end StubAssist

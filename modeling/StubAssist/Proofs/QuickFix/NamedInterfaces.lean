import StubAssist.CommandLine.Run
import StubAssist.FileTree.Start
import StubAssist.Proofs.QuickFix.Resolution
import StubAssist.Proofs.Text.Splits

/-!
# Named interfaces

An interface can be picked in the prompt or be named on the command line.  A name is
split at its last dot, and it comes out whole again unless that dot is its first
character: the package before it is empty then, counts as none, and takes the dot with it.
For all other names it is the same whether an interface is named or picked.
-/

namespace StubAssist

/-!
# Reading a name
-/

/-- The text is a dot and then no other, so that an empty package is read before it. -/
def LeadsWithSoleDot (t : Text) : Prop :=
  exists name, t = '.' :: name ∧ '.' ∉ name

namespace Candidate

theorem ofQualified_sole_dot
    {name : Text} (hname : '.' ∉ name) :
    ofQualified ('.' :: name) = ⟨name, none⟩ := by
  unfold ofQualified
  rw [show Text.splitLast '.' ('.' :: name) = some ([], name) from
    Text.splitLast_append [] hname]
  rfl

theorem qualifiedName_ofQualified_of_not
    {t : Text} (hdot : ¬ LeadsWithSoleDot t) :
    (ofQualified t).qualifiedName = t := by
  unfold ofQualified
  cases hsplit : Text.splitLast '.' t with
  | none =>
      rfl
  | some parts =>
      rcases parts with ⟨path, name⟩
      rcases Text.splitLast_eq_some_iff.mp hsplit with ⟨ht, hname⟩
      cases path with
      | nil =>
          exact absurd ⟨name, ht, hname⟩ hdot
      | cons c path =>
          exact ht.symm

theorem cons_qualifiedName_ofQualified
    {t : Text} (hdot : LeadsWithSoleDot t) :
    '.' :: (ofQualified t).qualifiedName = t := by
  rcases hdot with ⟨name, rfl, hname⟩
  rw [ofQualified_sole_dot hname]
  rfl

theorem qualifiedName_ofQualified_eq_iff {t : Text} :
    (ofQualified t).qualifiedName = t ↔ ¬ LeadsWithSoleDot t := by
  constructor
  · intro hkept hdot
    have hlength := congrArg List.length (cons_qualifiedName_ofQualified hdot)
    rw [hkept, List.length_cons] at hlength
    omega
  · exact qualifiedName_ofQualified_of_not

end Candidate

/-!
# What a candidate is used for
-/

/-- Nothing of a candidate but its qualified name gets into a command. -/
theorem StubCommand.compose_congr
    {one other : Candidate} (trigger : Trigger) (settings : ReceiverSettings)
    (hname : one.qualifiedName = other.qualifiedName) :
    compose trigger one settings = compose trigger other settings := by
  unfold compose
  rw [hname]

theorem StubCommand.compose_eq_iff
    {one other : Candidate} {trigger : Trigger} {settings : ReceiverSettings} :
    compose trigger one settings = compose trigger other settings ↔
      (trigger.hasStructName = true -> one.qualifiedName = other.qualifiedName) := by
  constructor
  · intro hsame hnamed
    rw [compose_of_named one settings hnamed, compose_of_named other settings hnamed] at hsame
    exact congrArg StubCommand.interface (Except.ok.inj hsame)
  · intro hname
    cases hnamed : trigger.hasStructName with
    | true =>
        exact compose_congr trigger settings (hname hnamed)
    | false =>
        rw [compose_of_unnamed one settings hnamed, compose_of_unnamed other settings hnamed]

theorem QuickFix.implement_congr
    {δ ω : Type} [Document δ] {one other : Candidate} (fix : QuickFix) (runner : ToolRunner ω)
    (world : ω) (action : CodeAction) (document : δ)
    (hname : one.qualifiedName = other.qualifiedName) :
    fix.implement runner world action document one =
      fix.implement runner world action document other := by
  unfold implement generateAndApply
  rw [StubCommand.compose_congr action.trigger fix.receiver hname]

/-!
# Naming and picking
-/

/-- What a text stands for on the command line, beside a candidate that is shown as that text. -/
structure NamesAsShown (t : Text) : Prop where
  kept_iff : (Candidate.ofQualified t).qualifiedName = t ↔ ¬ LeadsWithSoleDot t
  lost : LeadsWithSoleDot t -> '.' :: (Candidate.ofQualified t).qualifiedName = t
  composed_iff :
    forall (candidate : Candidate) (trigger : Trigger) (settings : ReceiverSettings),
      candidate.qualifiedName = t ->
        (StubCommand.compose trigger (.ofQualified t) settings =
            StubCommand.compose trigger candidate settings ↔
          (trigger.hasStructName = true -> ¬ LeadsWithSoleDot t))
  resolved :
    ¬ LeadsWithSoleDot t ->
      forall {δ ω : Type} [Document δ] (candidate : Candidate) (fix : QuickFix)
        (runner : ToolRunner ω) (world : ω) (action : CodeAction) (document : δ)
        (warnings : List Text),
        candidate.qualifiedName = t ->
          fix.resolve runner world action document (.selected candidate) warnings =
            ((fix.implement runner world action document (.ofQualified t)).map
              some).preceded (warnings.map Notification.warning)

/-- A name stands for what is shown under it, unless its only dot comes first. -/
theorem namesAsShown (t : Text) :
    NamesAsShown t := by
  constructor
  · exact Candidate.qualifiedName_ofQualified_eq_iff
  · exact Candidate.cons_qualifiedName_ofQualified
  · intro candidate trigger settings hshown
    rw [StubCommand.compose_eq_iff, hshown, Candidate.qualifiedName_ofQualified_eq_iff]
  · intro hdot δ ω _ candidate fix runner world action document warnings hshown
    have hname : candidate.qualifiedName = (Candidate.ofQualified t).qualifiedName := by
      rw [hshown, Candidate.qualifiedName_ofQualified_of_not hdot]
    rw [QuickFix.resolve_selected,
      QuickFix.implement_congr fix runner world action document hname]

/-!
# A name that is listed and cannot be given
-/

def leadLister : ToolRunner FileTree where
  run files _ := (.finished (.code 0) (Utf8.encode "a.go:1:1-2 .Lead Interface\n") [], files)

/-- A search prints `.Lead`, which is picked as it is and named without its dot. -/
theorem named_ne_picked_lead :
    (CommandLine.runSearch leadLister (FileTree.populated []) ⟨"gopls", 10⟩ "Lead" "."
        false).output =
        "Interfaces matching 'Lead':\n  1. .Lead\n".toList ∧
      (WorkspaceIndex.ask leadLister ⟨"gopls", ".", 10000⟩ (FileTree.populated [])
        "Lead").1.interfaces =
        .ok [⟨".Lead", none⟩] ∧
      (Candidate.ofQualified ".Lead").qualifiedName ≠ ".Lead".toList ∧
      StubCommand.compose ⟨"type Foo struct", "Foo"⟩ (.ofQualified ".Lead") .default ≠
        StubCommand.compose ⟨"type Foo struct", "Foo"⟩ ⟨".Lead", none⟩ .default := by
  have hname : (Candidate.ofQualified ".Lead").qualifiedName ≠ ".Lead".toList := by
    decide
  refine ⟨rfl, rfl, hname, ?_⟩
  intro hsame
  exact hname (StubCommand.compose_eq_iff.mp hsame rfl)

end StubAssist

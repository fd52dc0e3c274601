import StubAssist.Proofs.Go.Insertions
import StubAssist.Proofs.QuickFix.DeclaredStructs

/-!
# Neutral stubs

Stubs that the scan for declarations would not notice after their struct leave every
declaration as it is, at most some lines further down.  So a second fix finds its own
struct again, and two fixes on structs that end on different lines may come in either
order.
-/

namespace StubAssist
namespace SourceBuffer

structure TakesStubs (buffer : SourceBuffer) (target : Symbol) (generated : Text) :
    Prop where
  outsideRaw : (Go.stateAt buffer.content (target.range.stop.line + 1)).inRaw = false
  neutral : Go.IsNeutral (Go.stateAt buffer.content (target.range.stop.line + 1))
    ('\n' :: generated)

instance (buffer : SourceBuffer) (target : Symbol) (generated : Text) :
    Decidable (buffer.TakesStubs target generated) :=
  decidable_of_iff
    ((Go.stateAt buffer.content (target.range.stop.line + 1)).inRaw = false ∧
      Go.IsNeutral (Go.stateAt buffer.content (target.range.stop.line + 1))
        ('\n' :: generated))
    ⟨fun h => ⟨h.left, h.right⟩, fun h => ⟨h.outsideRaw, h.neutral⟩⟩

theorem declarations_after_stubs
    {buffer : SourceBuffer} {target : Symbol} {generated : Text}
    (hends : Go.AllEnd buffer.content) (hdeclared : target ∈ buffer.declarations)
    (htakes : buffer.TakesStubs target generated) :
    (buffer.insertAtLine (target.range.stop.line + 1) ('\n' :: generated)).declarations =
      buffer.declarations.map (Symbol.moved (target.range.stop.line + 1)
        (Text.lines ('\n' :: generated)).length) :=
  Go.typeDeclarations_insertAtLine
    (Nat.succ_le_of_lt (Go.stop_lt_length_of_mem_typeDeclarations hdeclared))
    htakes.outsideRaw htakes.neutral hends

def crowded : SourceBuffer :=
  ⟨"foo.go",
    "func f() \x7b\n\ttype Local struct\x7b\x7d\n\x7d\n".toList ++
      "type (\n\tInner struct \x7b\n\t\x7d\n)\n".toList ++
      "type Last struct\x7b\x7d".toList⟩

def crowdedInner : Symbol :=
  ⟨"Inner", .struct, .ofLines 4 5, none⟩

theorem allEnd_crowded :
    Go.AllEnd crowded.content := by decide

theorem takesStubs_crowdedInner :
    crowded.TakesStubs crowdedInner "// soon\n" := by decide

theorem declarations_after_crowdedInner :
    crowdedInner ∈ crowded.declarations ∧
      (crowded.insertAtLine 6 "\n// soon\n").declarations =
        crowded.declarations.map (Symbol.moved 6 2) := by
  have hdeclared : crowdedInner ∈ crowded.declarations := by decide
  exact ⟨hdeclared,
    declarations_after_stubs allEnd_crowded hdeclared takesStubs_crowdedInner⟩

/-!
# Two fixes
-/

/-- Both fixes succeed, one after the other, and leave `result`. -/
def FixesInTurn (buffer : SourceBuffer) (name stubs laterName laterStubs : Text)
    (result : SourceBuffer) : Prop :=
  exists place laterPlace between,
    Insertion.apply buffer name stubs = (.ok place, between) ∧
      Insertion.apply between laterName laterStubs = (.ok laterPlace, result)

theorem find?_after_stubs
    {buffer : SourceBuffer} {name otherName stubs : Text} {target other : Symbol}
    (hends : Go.AllEnd buffer.content)
    (hfirst : buffer.declarations.find? (·.name == name) = some target)
    (hother : buffer.declarations.find? (·.name == otherName) = some other)
    (htakes : buffer.TakesStubs target stubs) :
    (buffer.insertAtLine (target.range.stop.line + 1)
        ('\n' :: stubs)).declarations.find? (·.name == otherName) =
      some (other.moved (target.range.stop.line + 1)
        (Text.lines ('\n' :: stubs)).length) := by
  have hstop := Go.stop_lt_length_of_mem_typeDeclarations (List.mem_of_find?_eq_some hfirst)
  have hmoved := Go.typeDeclarations_insertAtLine (Nat.succ_le_of_lt hstop)
    htakes.outsideRaw htakes.neutral hends
  show (Go.typeDeclarations _).find? _ = _
  rw [insertAtLine, hmoved, List.find?_map]
  show Option.map _ (buffer.declarations.find? (·.name == otherName)) = _
  rw [hother]
  rfl

theorem fixesInTurn_of_find?
    {buffer : SourceBuffer} {name otherName stubs : Text} {target other : Symbol}
    (otherStubs : Text) (hends : Go.AllEnd buffer.content)
    (hfirst : buffer.declarations.find? (·.name == name) = some target)
    (hother : buffer.declarations.find? (·.name == otherName) = some other)
    (htakes : buffer.TakesStubs target stubs) :
    buffer.FixesInTurn name stubs otherName otherStubs
      ((buffer.insertAtLine (target.range.stop.line + 1) ('\n' :: stubs)).insertAtLine
        (Go.movedLine (target.range.stop.line + 1) (Text.lines ('\n' :: stubs)).length
          other.range.stop.line + 1)
        ('\n' :: otherStubs)) :=
  ⟨_, _, _, apply_of_find? stubs hfirst,
    apply_of_find? otherStubs (find?_after_stubs hends hfirst hother htakes)⟩

theorem insertAtLine_comm_of_stop_lt
    {buffer : SourceBuffer} {first second : Symbol} {firstStubs : Text}
    (secondStubs : Text) (hsecond : second ∈ buffer.declarations)
    (hlines : first.range.stop.line < second.range.stop.line)
    (htakes : buffer.TakesStubs first firstStubs) :
    (buffer.insertAtLine (first.range.stop.line + 1) ('\n' :: firstStubs)).insertAtLine
        (Go.movedLine (first.range.stop.line + 1)
          (Text.lines ('\n' :: firstStubs)).length second.range.stop.line + 1)
        ('\n' :: secondStubs) =
      (buffer.insertAtLine (second.range.stop.line + 1) ('\n' :: secondStubs)).insertAtLine
        (Go.movedLine (second.range.stop.line + 1)
          (Text.lines ('\n' :: secondStubs)).length first.range.stop.line + 1)
        ('\n' :: firstStubs) := by
  have hstop := Go.stop_lt_length_of_mem_typeDeclarations hsecond
  have hcomm := Text.insertAtLine_comm ('\n' :: secondStubs) htakes.neutral.whole
    (Nat.succ_lt_succ hlines) (Nat.succ_le_of_lt hstop)
  rw [Go.movedLine_of_le _ (Nat.succ_le_of_lt hlines),
    Go.movedLine_of_lt _ (Nat.lt_succ_of_lt hlines), Nat.add_right_comm]
  exact congrArg (SourceBuffer.mk buffer.path) hcomm

/-- Fixes on structs that end on different lines come to the same in either order. -/
theorem fixes_commute
    {buffer : SourceBuffer} {nameA nameB stubsA stubsB : Text} {targetA targetB : Symbol}
    (hends : Go.AllEnd buffer.content)
    (hfirstA : buffer.declarations.find? (·.name == nameA) = some targetA)
    (hfirstB : buffer.declarations.find? (·.name == nameB) = some targetB)
    (hlines : targetA.range.stop.line ≠ targetB.range.stop.line)
    (htakesA : buffer.TakesStubs targetA stubsA)
    (htakesB : buffer.TakesStubs targetB stubsB) :
    exists result,
      buffer.FixesInTurn nameA stubsA nameB stubsB result ∧
        buffer.FixesInTurn nameB stubsB nameA stubsA result := by
  have hA := fixesInTurn_of_find? stubsB hends hfirstA hfirstB htakesA
  have hB := fixesInTurn_of_find? stubsA hends hfirstB hfirstA htakesB
  rcases Nat.lt_or_gt_of_ne hlines with hlt | hgt
  · rw [insertAtLine_comm_of_stop_lt stubsB (List.mem_of_find?_eq_some hfirstB) hlt
      htakesA] at hA
    exact ⟨_, hA, hB⟩
  · rw [insertAtLine_comm_of_stop_lt stubsA (List.mem_of_find?_eq_some hfirstA) hgt
      htakesB] at hB
    exact ⟨_, hA, hB⟩

theorem fixes_commute_crowded :
    exists result,
      crowded.FixesInTurn "Inner" "// soon\n" "Last" [] result ∧
        crowded.FixesInTurn "Last" [] "Inner" "// soon\n" result := by
  have hInner : crowded.declarations.find? (·.name == "Inner".toList) =
      some crowdedInner := by decide
  have hLast : crowded.declarations.find? (·.name == "Last".toList) =
      some ⟨"Last", .struct, .ofLines 7 7, none⟩ := by decide
  have htakesLast : crowded.TakesStubs ⟨"Last", .struct, .ofLines 7 7, none⟩ [] := by
    decide
  exact fixes_commute allEnd_crowded hInner hLast (by decide) takesStubs_crowdedInner
    htakesLast

end SourceBuffer
end StubAssist

import StubAssist.Proofs.Go.Lexemes
import StubAssist.Proofs.QuickFix.DeclaredStructs

/-!
# Where stubs land

Stubs go on the line after the first declaration of the name, which may be that of an
interface and may stand in a group or in a function.  Where the brackets that are read as
code balance, they land as deep as the declaration begins, but for what its lines add
before their first brace and after the one that closes it.

Block comments are read as code too, brackets and all.  In a source without them what is
read is what stands outside literals and comments.
-/

namespace StubAssist
namespace SourceBuffer

/-- The declaration that stubs for the name go after, and what comes before them. -/
structure LandsAfter (buffer : SourceBuffer) (name generated : Text)
    (insertion : Insertion) (target : Symbol) : Prop where
  first : buffer.declarations.find? (·.name == name) = some target
  kind : target.kind = .struct ∨ target.kind = .interface
  place : insertion = .after target generated
  landing : Go.Balanced (Go.codeOfLines false (Text.lines buffer.content)) ->
    Go.Landing buffer.content target
  reading : forall lexemes,
    Go.textOf lexemes = buffer.content -> Go.IsSource lexemes ->
      Go.HasNoBlockComment lexemes -> Go.ReadsAs buffer.content lexemes

def shapesSource : List Go.Lexeme :=
  "type Shape interface\x7b\x7d\n".toList.map .code ++
    "type (\n\tCircle struct\x7b\x7d\n)\n".toList.map .code ++
    "func f() \x7b\n\ttype Local struct\x7b\x7d\n\x7d\n".toList.map .code ++
    "type Last struct\x7b\x7d; var tip = ".toList.map .code ++
    [.raw ['\n'], .code '\n']

def shapes : SourceBuffer :=
  ⟨"foo.go", Go.textOf shapesSource⟩

theorem balanced_shapes :
    Go.Balanced (Go.codeOfLines false (Text.lines shapes.content)) := by decide

theorem isSource_shapes :
    Go.IsSource shapesSource ∧ Go.HasNoBlockComment shapesSource :=
  ⟨by decide, by unfold Go.HasNoBlockComment; decide⟩

def LandsAtTopLevel (buffer : SourceBuffer) (name : Text) : Prop :=
  forall generated insertion after,
    Insertion.apply buffer name generated = (.ok insertion, after) ->
      (exists target,
        Insertion.targetOf buffer name = .ok target ∧ target.kind = .struct) ∧
      Go.nestingBefore buffer.content insertion.line = 0 ∧
      Go.rawBefore buffer.content insertion.line = false

theorem LandsAtTopLevel.of_find?
    {buffer : SourceBuffer} {name : Text} {target : Symbol}
    (hlands : buffer.LandsAtTopLevel name)
    (hfirst : buffer.declarations.find? (·.name == name) = some target) :
    target.kind = .struct ∧
      Go.nestingBefore buffer.content (target.range.stop.line + 1) = 0 ∧
      Go.rawBefore buffer.content (target.range.stop.line + 1) = false := by
  rcases hlands [] _ _ (apply_of_find? [] hfirst) with ⟨⟨found, hfound, hkind⟩, hplace⟩
  rw [targetOf_eq, hfirst] at hfound
  cases hfound
  exact ⟨hkind, hplace⟩

end SourceBuffer
end StubAssist

import StubAssist.Document

/-!
# Insertions

Generated stubs go right after the declaration of their struct, with a blank
line between.
-/

namespace StubAssist

structure Insertion where
  line : Nat
  text : Text
deriving DecidableEq, Repr

namespace Insertion

def after (target : Symbol) (generated : Text) : Insertion :=
  ⟨target.range.stop.line + 1, '\n' :: generated⟩

/--
Inserts `generated` after the first symbol with exactly the struct's name; the
document is not touched unless there is one.
-/
def apply {δ : Type} [Document δ] (document : δ) (structName generated : Text) :
    Except AssistError Insertion × δ :=
  match Document.symbolsNamed document structName with
  | .error error => (.error error, document)
  | .ok symbols =>
      match symbols.find? (·.name == structName) with
      | none => (.error (.structNotFound structName (Document.path document)), document)
      | some target =>
          let insertion := after target generated
          match Document.insertAtLine document insertion.line insertion.text with
          | (.error error, document) => (.error error, document)
          | (.ok (), document) => (.ok insertion, document)

end Insertion
end StubAssist

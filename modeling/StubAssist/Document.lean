import StubAssist.AssistError
import StubAssist.Go.Declaration
import StubAssist.SourceBuffer

/-!
# Documents

What the workflow needs of the document under edit, whatever it is.  A source
buffer is such a document: its symbols are the type declarations in it, and an
insertion always succeeds.
-/

namespace StubAssist

class Document (δ : Type) where
  path : δ → Text
  /-- The directory that tools run in; that of the path, unless the document has its own. -/
  directory : δ → Text := fun document => FilePath.directory (path document)
  lineAt : δ → Nat → Option Text
  /-- The symbols with exactly that name. -/
  symbolsNamed : δ → Text → Except AssistError (List Symbol)
  /-- Inserts at the start of a line, or at the end past the last one. -/
  insertAtLine : δ → Nat → Text → Except AssistError Unit × δ

namespace SourceBuffer

def declarations (buffer : SourceBuffer) : List Symbol :=
  Go.typeDeclarations buffer.content

instance : Document SourceBuffer where
  path := SourceBuffer.path
  lineAt := SourceBuffer.lineAt
  symbolsNamed buffer name := .ok (buffer.declarations.filter (·.name == name))
  insertAtLine buffer index inserted := (.ok (), buffer.insertAtLine index inserted)

def saveDocument (buffer : SourceBuffer) (tree : FileTree) :
    Except AssistError Unit × FileTree :=
  match buffer.save tree with
  | (.ok (), tree) => (.ok (), tree)
  | (.error reason, tree) => (.error (.document reason), tree)

end SourceBuffer

/-!
# Scripted documents

A document whose answers are laid down beforehand.  It keeps a record of what is
inserted into it.
-/

structure ScriptedDocument where
  path : Text
  symbols : Except AssistError (List Symbol)
  refusal : Option AssistError
  insertions : List (Nat × Text)

namespace ScriptedDocument

instance : Document ScriptedDocument where
  path := ScriptedDocument.path
  lineAt _ _ := none
  symbolsNamed document _ := document.symbols
  insertAtLine document index inserted :=
    match document.refusal with
    | some error => (.error error, document)
    | none =>
        (.ok (), { document with insertions := document.insertions ++ [(index, inserted)] })

end ScriptedDocument
end StubAssist

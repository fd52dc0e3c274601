import StubAssist.Text.Lines
import StubAssist.Toml.Value

/-!
# Key spans

Where a key is set, found in the text alone: the first line that consists of
blanks, the key, blanks and an equals sign, with anything after it.
-/

namespace StubAssist
namespace KeySpan

open Toml (Span)

/-- The number of bytes before the key, if the piece sets it. -/
def indentIn? (key piece : Text) : Option Nat :=
  let trimmed := Text.trimStart piece
  match Text.afterPrefix? key trimmed with
  | none => none
  | some rest =>
      if (Text.trimStart rest).head? == some '=' then
        some (Text.byteSize piece - Text.byteSize trimmed)
      else none

def findIn (key : Text) (offset : Nat) : List Text → Option Span
  | [] => none
  | piece :: pieces =>
      match indentIn? key piece with
      | some indent => some ⟨offset + indent, Text.byteSize key⟩
      | none => findIn key (offset + Text.byteSize piece) pieces

/-- The span of the first setting of a key in the rest of a text after `before`. -/
def findAfter (key before rest : Text) : Option Span :=
  findIn key (Text.byteSize before) (Text.pieces rest)

def find (key source : Text) : Option Span :=
  findAfter key [] source

def header (table : Text) : Text :=
  '[' :: table ++ [']']

/-- The span of the first setting of a key after the first header of its table. -/
def findInTable (table key source : Text) : Option Span :=
  match Text.splitAround (header table) source with
  | none => none
  | some (before, after) => findAfter key (before ++ header table) after

end KeySpan
end StubAssist

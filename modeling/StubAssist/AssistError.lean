import StubAssist.Text

/-!
# Assist errors

Why a quick fix could not be offered or carried out, with the message, the
diagnostic code and the advice shown for each cause.
-/

namespace StubAssist

inductive AssistError where
  | lineOutOfRange (line : Nat)
  | noStructAtLine (line : Nat)
  | missingStructName (lineText : Text)
  | structNotFound (name : Text) (path : Text)
  | symbolQuery (reason : Text)
  | generator (reason : Text)
  | document (reason : Text)
deriving DecidableEq, Repr

namespace AssistError

def message : AssistError → Text
  | lineOutOfRange line => "line " ++ Text.ofNat line ++ " is outside the document"
  | noStructAtLine line => "no struct declaration on line " ++ Text.ofNat line
  | missingStructName lineText => "no struct name found in \x60" ++ lineText ++ "\x60"
  | structNotFound name path => "struct '" ++ name ++ "' not found in " ++ path
  | symbolQuery reason => "symbol query failed: " ++ reason
  | generator reason => reason
  | document reason => "failed to edit document: " ++ reason

def code : AssistError → Text
  | lineOutOfRange _ => "quickimpl::line_out_of_range"
  | noStructAtLine _ => "quickimpl::no_struct"
  | missingStructName _ => "quickimpl::missing_struct_name"
  | structNotFound _ _ => "quickimpl::struct_not_found"
  | symbolQuery _ => "quickimpl::symbol_query"
  | generator _ => "quickimpl::generator"
  | document _ => "quickimpl::document"

def help : AssistError → Option Text
  | noStructAtLine _ =>
      some "put the cursor on a line such as \x60type Server struct\x60".toList
  | missingStructName _ =>
      some "the struct name must be the second word on the line".toList
  | structNotFound _ _ =>
      some "save the file so its declarations can be located".toList
  | _ => none

end AssistError
end StubAssist

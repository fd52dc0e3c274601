import StubAssist.Shell.Syntax

/-!
# Home directories

A tilde at the start of a word, or of a part of an assigned value, stands for a home
directory: one's own, or that of the user whose name follows.
-/

namespace StubAssist
namespace Shell
namespace Home

/-- The home directory of a user; one's own is that of nobody by name. -/
def directory? (own : Option Text) (user : Text) : Option Text :=
  if user.isEmpty then own
  else if user == "root" then some "/root"
  else none

/--
The parts that a text without quotes stands for at the start of a word or value.
`isLast` says whether the word ends with the text; the user's name goes up to a slash.
-/
def parts (own : Option Text) (isLast : Bool) (t : Text) : Word :=
  match t with
  | '~' :: rest =>
      let user := rest.takeWhile (· != '/')
      let after := rest.drop user.length
      match if after.isEmpty && !isLast then none else directory? own user with
      | some path => .text path true :: if after.isEmpty then [] else [.text after false]
      | none => [.text t false]
  | _ => [.text t false]

def inWord (own : Option Text) : Word → Word
  | .text t false :: rest => parts own rest.isEmpty t ++ rest
  | word => word

/-- The pieces between colons as parts; the first may stand in the middle of a piece. -/
def inPieces (own : Option Text) (isLast startsPiece : Bool) : List Text → Word
  | [] => []
  | [piece] => if startsPiece then parts own isLast piece else [.text piece false]
  | piece :: pieces =>
      (if startsPiece then parts own true piece else [.text piece false]) ++
        .text [':'] false :: inPieces own isLast true pieces

def inValue (own : Option Text) (startsPiece : Bool) : Word → Word
  | [] => []
  | .text t false :: rest =>
      inPieces own rest.isEmpty startsPiece (Text.splitBy (· == ':') t) ++
        inValue own (t.getLast? == some ':') rest
  | part :: rest => part :: inValue own false rest

end Home
end Shell
end StubAssist

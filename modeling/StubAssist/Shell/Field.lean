import StubAssist.Shell.Pattern

/-!
# Fields

A word expands to pieces.  Those that come from the values of parameters or the
output of commands are cut at separators, and the fields that arise are the
arguments of a command.
-/

namespace StubAssist
namespace Shell

inductive Piece where
  /-- Quoted text, which makes a field even if it is empty. -/
  | whole (text : Text)
  | plain (text : Text)
  | divisible (text : Text)
  /-- The end of one argument of the script and the start of the next, or else a joint. -/
  | boundary (joint : Text)
deriving DecidableEq, Repr

def Piece.ofValue (isQuoted : Bool) (t : Text) : Piece :=
  if isQuoted then whole t else divisible t

namespace Field

/-- The fields that are complete, and the one that has been started, all back to front. -/
structure Cut where
  complete : List Pattern
  started : Option Pattern
  /-- Whether blanks have ended a field, so that another separator after them ends none. -/
  isBlankAfterField : Bool
  isLinked : Bool

namespace Cut

def extend (cut : Cut) (glyphs : Pattern) : Cut :=
  { cut with started := some (glyphs.reverseAux (cut.started.getD [])), isLinked := false }

def finish (cut : Cut) : Cut :=
  match cut.started with
  | some glyphs => ⟨glyphs.reverse :: cut.complete, none, false, false⟩
  | none => { cut with isBlankAfterField := false }

def takeBlank (cut : Cut) : Cut :=
  if cut.started.isSome then { cut.finish with isBlankAfterField := true } else cut

/-- Blank separators only end fields; others end one even where none was started. -/
def takeChar (separators : List Char) (cut : Cut) (c : Char) : Cut :=
  if !separators.contains c then cut.extend [⟨c, false⟩]
  else if c == ' ' || c == '\t' || c == '\n' then cut.takeBlank
  else if cut.isBlankAfterField then cut.finish
  else (cut.extend []).finish

def takePiece (separators : List Char) (cut : Cut) : Piece → Cut
  | .whole t => cut.extend (Pattern.ofText true t)
  | .plain t => if t.isEmpty then cut else cut.extend (Pattern.ofText false t)
  | .divisible t =>
      t.foldl (takeChar separators)
        { cut with isBlankAfterField := cut.isLinked && cut.isBlankAfterField }
  | .boundary _ => { cut.takeBlank with isLinked := true }

end Cut

def ofPieces (separators : List Char) (pieces : List Piece) : List Pattern :=
  (pieces.foldl (Cut.takePiece separators) ⟨[], none, false, false⟩).finish.complete.reverse

def pattern (pieces : List Piece) : Pattern :=
  pieces.flatMap fun
    | .whole t => Pattern.ofText true t
    | .plain t => Pattern.ofText false t
    | .divisible t => Pattern.ofText false t
    | .boundary joint => Pattern.ofText true joint

def text (pieces : List Piece) : Text :=
  Pattern.toText (pattern pieces)

end Field
end Shell
end StubAssist

import StubAssist.Text

/-!
# Code characters

A line of Go is read character by character, and the characters outside string
literals, rune literals and line comments are its code characters.  Only a raw
string may continue on the next line, so one flag carries over from line to line.
-/

namespace StubAssist
namespace Go

inductive Mode where
  | code
  | raw
  | quoted (quote : Char)
deriving DecidableEq, Repr

namespace Mode

def atLineStart (inRaw : Bool) : Mode :=
  if inRaw then raw else code

def isRaw : Mode → Bool
  | raw => true
  | _ => false

end Mode

/--
The code characters of a line read from `mode`, and whether a raw string is
still open at its end.  A backslash in a quoted literal hides the character
after it; two slashes in code end the line.
-/
def scanLine : Mode → Text → List Char × Bool
  | mode, [] => ([], mode.isRaw)
  | .raw, c :: rest => scanLine (if c = '\x60' then .code else .raw) rest
  | .quoted _, ['\\'] => ([], false)
  | .quoted q, '\\' :: _ :: rest => scanLine (.quoted q) rest
  | .quoted q, c :: rest => scanLine (if c = q then .code else .quoted q) rest
  | .code, '/' :: '/' :: _ => ([], false)
  | .code, c :: rest =>
      if c = '\x60' then scanLine .raw rest
      else if c = '"' || c = '\'' then scanLine (.quoted c) rest
      else
        let (code, inRaw) := scanLine .code rest
        (c :: code, inRaw)

def codeChars (inRaw : Bool) (line : Text) : List Char :=
  (scanLine (.atLineStart inRaw) line).1

def rawAfter (inRaw : Bool) (line : Text) : Bool :=
  (scanLine (.atLineStart inRaw) line).2

/-!
# Nesting
-/

def nestingOf (c : Char) : Int :=
  if c = '{' || c = '(' then 1
  else if c = '}' || c = ')' then -1
  else 0

/-- Opened minus closed braces and parentheses. -/
def nestingChange : List Char → Int
  | [] => 0
  | c :: code => nestingOf c + nestingChange code

/-- A line up to the first two slashes, whatever they stand in. -/
def stripLineComment : Text → Text
  | [] => []
  | '/' :: '/' :: _ => []
  | c :: rest => c :: stripLineComment rest

end Go
end StubAssist

import StubAssist.Shell.Files
import StubAssist.Shell.CharClass

/-!
# Patterns

Texts in which some characters stand for others: a star for any text, a question
mark for any character, brackets for a choice.  A quoted character stands for
itself only.
-/

namespace StubAssist
namespace Shell

structure Glyph where
  char : Char
  isQuoted : Bool
deriving DecidableEq, Repr

abbrev Pattern := List Glyph

namespace Pattern

def ofText (isQuoted : Bool) (t : Text) : Pattern :=
  t.map (Glyph.mk · isQuoted)

def toText (pattern : Pattern) : Text :=
  pattern.map Glyph.char

def isSign (sign : Char) (glyph : Glyph) : Bool :=
  glyph.char == sign && !glyph.isQuoted

def isOpen (pattern : Pattern) : Bool :=
  pattern.any fun glyph => isSign '*' glyph || isSign '?' glyph || isSign '[' glyph

/-!
# Bracketed choices
-/

inductive Choice where
  | range (first last : Char)
  | named (characters : CharClass)
deriving DecidableEq, Repr

namespace Choice

def contains (choice : Choice) (c : Char) : Bool :=
  match choice with
  | range first last => first.toNat ≤ c.toNat && c.toNat ≤ last.toNat
  | named characters => characters.contains c

end Choice

def namedClass? (pattern : Pattern) : Option (CharClass × Pattern) :=
  match pattern with
  | colon :: rest =>
      let name := rest.takeWhile (·.char.isAlpha)
      match rest.drop name.length with
      | last :: closing :: after =>
          if isSign ':' colon && isSign ':' last && isSign ']' closing then
            (CharClass.ofName? (toText name)).map (·, after)
          else none
      | _ => none
  | [] => none

/-- The choices up to the closing bracket; a bracket in front is an ordinary member. -/
def choices (isFirst : Bool) : (fuel : Nat) → Pattern → Option (List Choice × Pattern)
  | 0, _ => none
  | _ + 1, [] => none
  | fuel + 1, a :: rest =>
      let andThen := fun (choice : Choice) (rest : Pattern) =>
        (choices false fuel rest).map fun (cs, rest) => (choice :: cs, rest)
      if isSign ']' a && !isFirst then some ([], rest)
      else
        match if isSign '[' a then namedClass? rest else none with
        | some (characters, after) => andThen (.named characters) after
        | none =>
            match rest with
            | b :: c :: after =>
                if isSign '-' b && !isSign ']' c then andThen (.range a.char c.char) after
                else andThen (.range a.char a.char) rest
            | _ => andThen (.range a.char a.char) rest

/-- Whether a character is chosen by the brackets after an opening one, and the rest. -/
def bracket? (pattern : Pattern) (c : Char) : Option (Bool × Pattern) :=
  let (isNegated, body) :=
    match pattern with
    | a :: rest => if isSign '!' a then (true, rest) else (false, pattern)
    | [] => (false, pattern)
  (choices true (body.length + 1) body).map fun (cs, rest) =>
    (cs.any (·.contains c) != isNegated, rest)

/-!
# Matching
-/

def accepts : (fuel : Nat) → Pattern → Text → Bool
  | 0, _, _ => false
  | _ + 1, [], t => t.isEmpty
  | fuel + 1, glyph :: rest, t =>
      if isSign '*' glyph then
        accepts fuel rest t ||
          match t with
          | [] => false
          | _ :: t' => accepts fuel (glyph :: rest) t'
      else
        match t with
        | [] => false
        | c :: t' =>
            if isSign '?' glyph then accepts fuel rest t'
            else if isSign '[' glyph then
              match bracket? rest c with
              | some (isChosen, rest) => isChosen && accepts fuel rest t'
              | none => c == '[' && accepts fuel rest t'
            else c == glyph.char && accepts fuel rest t'

def hidden : Pattern → Pattern
  | [] => []
  | [glyph] => [glyph]
  | first :: second :: rest =>
      if isSign '\\' first then { second with isQuoted := true } :: hidden rest
      else first :: hidden (second :: rest)

def isMatch (pattern : Pattern) (t : Text) : Bool :=
  accepts (pattern.length + t.length + 1) pattern.hidden t

/-!
# Trimming

A null character ends what is looked at, but not the text itself.
-/

def visible (t : Text) : Text :=
  t.takeWhile (· != '\x00')

def dropStart (pattern : Pattern) (longest : Bool) (t : Text) : Text :=
  let sizes := if longest then (List.range (t.length + 1)).reverse
    else List.range ((visible t).length + 1)
  match sizes.find? fun n => isMatch pattern (visible (t.take n)) with
  | some n => t.drop n
  | none => t

def dropEnd (pattern : Pattern) (longest : Bool) (t : Text) : Text :=
  let sizes := if longest then List.range ((visible t).length + 1)
    else (List.range (t.length + 1)).reverse
  match sizes.find? fun n => isMatch pattern (visible (t.drop n)) with
  | some n => t.take n
  | none => t

def ofArgument : Text → Pattern
  | '\\' :: c :: rest => ⟨c, true⟩ :: ofArgument rest
  | '[' :: '^' :: rest => ⟨'[', false⟩ :: ⟨'!', false⟩ :: ofArgument rest
  | c :: rest => ⟨c, false⟩ :: ofArgument rest
  | [] => []

/-!
# Paths that match
-/

def matchesName (pattern : Pattern) (name : Text) : Bool :=
  isMatch pattern name && (name.head? != some '.' || (pattern.head?.map Glyph.char) == some '.')

def components : Pattern → List Pattern
  | [] => [[]]
  | glyph :: rest =>
      if glyph.char == '/' then [] :: components rest
      else
        match components rest with
        | [] => [[glyph]]
        | first :: more => (glyph :: first) :: more

/-- The names in a directory, given by a path whose empty form is the current one. -/
def namesIn (tree : FileTree) (path : Text) : List Text :=
  match tree.namesIn (if path.isEmpty then "." else path) with
  | .ok names => ['.'] :: ['.', '.'] :: names
  | .error _ => []

def expandFrom (tree : FileTree) (start : Text) : List Pattern → List Text
  | [] => []
  | [last] =>
      if isOpen last then (namesIn tree start |>.filter (matchesName last)).map (start ++ ·)
      else if last.isEmpty || tree.exists? (start ++ toText last) then [start ++ toText last]
      else []
  | first :: rest =>
      if isOpen first then
        (namesIn tree start |>.filter (matchesName first)).flatMap fun name =>
          if tree.isDirectory (start ++ name) then expandFrom tree (start ++ name ++ ['/']) rest
          else []
      else expandFrom tree (start ++ toText first ++ ['/']) rest

/-- The paths that a word stands for: those that match it, or itself if none does. -/
def paths (tree : FileTree) (pattern : Pattern) : List Text :=
  let ready := pattern.hidden
  if isOpen ready then
    match expandFrom tree [] (components ready) with
    | [] => [toText pattern]
    | found => found
  else [toText pattern]

end Pattern
end Shell
end StubAssist

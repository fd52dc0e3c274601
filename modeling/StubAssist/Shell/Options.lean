import StubAssist.Text

/-!
# Options of commands

Options are letters after a minus sign in the arguments in front; a letter may take
a value, which is the rest of its argument or else the next one.
-/

namespace StubAssist
namespace Shell
namespace Options

/-- Whether a letter is one of those allowed, and whether it takes a value: a colon says so. -/
def takesValue? (c : Char) : (allowed : Text) → Option Bool
  | [] => none
  | letter :: ':' :: rest => if letter == c then some true else takesValue? c rest
  | letter :: rest => if letter == c then some false else takesValue? c rest

/-- Options with their values, which may be empty, and the arguments after them. -/
abbrev Reading := List (Char × Text) × List Text

def readLetters (allowed : Text) : Text → (rest : List Text) → Except Text Reading
  | [], rest => .ok ([], rest)
  | c :: letters, rest =>
      match takesValue? c allowed, letters, rest with
      | none, _, _ => .error ("Illegal option -" ++ [c])
      | some false, _, _ => do
          let (options, rest) ← readLetters allowed letters rest
          return ((c, []) :: options, rest)
      | some true, [], [] => .error ("No arg for -" ++ c :: " option".toList)
      | some true, [], value :: rest => .ok ([(c, value)], rest)
      | some true, value, rest => .ok ([(c, value)], rest)

def readFrom (allowed : Text) : (fuel : Nat) → List Text → Except Text Reading
  | fuel + 1, ('-' :: c :: letters) :: rest =>
      if c == '-' && letters.isEmpty then .ok ([], rest)
      else do
        let (options, rest) ← readLetters allowed (c :: letters) rest
        let (more, rest) ← readFrom allowed fuel rest
        return (options ++ more, rest)
  | _, arguments => .ok ([], arguments)

def read (allowed : Text) (arguments : List Text) : Except Text Reading :=
  readFrom allowed (arguments.length + 1) arguments

/-!
# Options one at a time
-/

structure Place where
  index : Nat
  /-- How much of the argument before it has been looked at, unless it is known to be all. -/
  offset : Option Nat
deriving DecidableEq, Repr

def Place.start : Place := ⟨1, none⟩

structure Step where
  isDone : Bool
  letter : Char
  value : Option (Option Text)
  complaint : Option Text
  place : Place
deriving DecidableEq, Repr

/-- The next option among some words; a colon in front of `allowed` makes for silence. -/
def step (allowed : Text) (words : List Text) (place : Place) : Step :=
  let isQuiet := allowed.head? == some ':'
  let started :=
    match place.offset with
    | some offset => if place.index ≤ 1 then [] else (words.getD (place.index - 2) []).drop offset
    | none => []
  let atEnd := fun (index : Nat) => ⟨true, '?', none, none, ⟨index, none⟩⟩
  let lookAt := fun (c : Char) (letters : Text) (index : Nat) =>
    let next : Place := ⟨index, some ((words.getD (index - 2) []).length - letters.length)⟩
    match takesValue? c allowed with
    | none =>
        if isQuiet then ⟨false, '?', some (some [c]), none, next⟩
        else ⟨false, '?', some none, some ("Illegal option -" ++ [c]), next⟩
    | some false => ⟨false, c, some (some []), none, next⟩
    | some true =>
        if !letters.isEmpty then ⟨false, c, some (some letters), none, ⟨index, none⟩⟩
        else
          match words[index - 1]? with
          | some value => ⟨false, c, some (some value), none, ⟨index + 1, none⟩⟩
          | none =>
              if isQuiet then ⟨false, ':', some (some [c]), none, ⟨index, none⟩⟩
              else ⟨false, '?', some none, some ("No arg for -" ++ c :: " option".toList),
                ⟨index, none⟩⟩
  match started with
  | c :: letters => lookAt c letters place.index
  | [] =>
      match words[place.index - 1]? with
      | some ['-', '-'] => atEnd (place.index + 1)
      | some ('-' :: c :: letters) => lookAt c letters (place.index + 1)
      | _ => atEnd place.index

end Options
end Shell
end StubAssist

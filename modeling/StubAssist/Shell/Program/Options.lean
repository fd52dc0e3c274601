import StubAssist.Shell.Activity

/-!
# Options of programs

Options may stand anywhere among the arguments, as letters after one dash or as words
after two.  A word may be cut short as long as it is clear which one is meant.  A value
is the rest of the letters or of the word, or else the next argument.
-/

namespace StubAssist
namespace Shell

/-- Whether an option has a value; one that may have one has it in the same argument. -/
inductive Valued where
  | no
  | yes
  | maybe
deriving DecidableEq, Repr

structure OptionForms where
  /-- Letters, each of which is its own key; a colon means a value, two that it may be left out. -/
  letters : Text
  words : List (Text × Char × Valued)
  isOrdered : Bool
deriving DecidableEq, Repr

structure GivenOption where
  key : Char
  value : Option Text
deriving DecidableEq, Repr

namespace OptionForms

abbrev Flaw := List Text

def letter? (c : Char) : Text → Option Valued
  | [] => none
  | letter :: ':' :: ':' :: rest => if letter == c then some .maybe else letter? c rest
  | letter :: ':' :: rest => if letter == c then some .yes else letter? c rest
  | letter :: rest => if letter == c then some .no else letter? c rest

structure Reading where
  options : List GivenOption
  operands : List Text
deriving DecidableEq, Repr

namespace Reading

def add (reading : Reading) (key : Char) (value : Option Text) : Reading :=
  { reading with options := ⟨key, value⟩ :: reading.options }

end Reading

/-- Reads letters after a dash; a value may be the first of the arguments that follow. -/
def readLetters (forms : OptionForms) (reading : Reading) : Text → (rest : List Text) →
    Except Text (Reading × List Text)
  | [], rest => .ok (reading, rest)
  | c :: letters, rest =>
      match letter? c forms.letters with
      | none => .error ("invalid option -- '" ++ c :: ['\''])
      | some .no => readLetters forms (reading.add c none) letters rest
      | some .maybe => .ok (reading.add c (if letters.isEmpty then none else some letters), rest)
      | some .yes =>
          if !letters.isEmpty then .ok (reading.add c (some letters), rest)
          else
            match rest with
            | value :: rest => .ok (reading.add c (some value), rest)
            | [] => .error ("option requires an argument -- '" ++ c :: ['\''])

/-- The words that one may be a part of; only itself, if it is one of them. -/
def wordsLike (forms : OptionForms) (word : Text) : List (Text × Char × Valued) :=
  let exact := forms.words.filter (·.1 == word)
  if exact.isEmpty then forms.words.filter (word.isPrefixOf ·.1) else exact

def readWord (forms : OptionForms) (reading : Reading) (argument : Text) (rest : List Text) :
    Except Text (Reading × List Text) :=
  let (word, value) :=
    match Text.splitFirst '=' argument with
    | some (word, value) => (word, some value)
    | none => (argument, none)
  let found := forms.wordsLike word
  let isClear := match found with
    | [] => true
    | (_, key, valued) :: others => others.all fun other => other.2 == (key, valued)
  match found with
  | [] => .error ("unrecognized option '--" ++ argument ++ ['\''])
  | (name, key, valued) :: _ =>
      if !isClear then
        .error ("option '--" ++ argument ++ "' is ambiguous; possibilities:" ++
          found.flatMap fun (name, _) => " '--".toList ++ name ++ ['\''])
      else
        match valued, value, rest with
        | .no, some _, _ => .error ("option '--" ++ name ++ "' doesn't allow an argument")
        | .no, none, _ => .ok (reading.add key none, rest)
        | .maybe, value, _ => .ok (reading.add key value, rest)
        | .yes, some value, _ => .ok (reading.add key (some value), rest)
        | .yes, none, value :: rest => .ok (reading.add key (some value), rest)
        | .yes, none, [] => .error ("option '--" ++ name ++ "' requires an argument")

def readFrom (forms : OptionForms) : (fuel : Nat) → Reading → List Text → Except Text Reading
  | 0, reading, arguments => .ok { reading with operands := arguments.reverse ++ reading.operands }
  | _, reading, [] => .ok reading
  | fuel + 1, reading, argument :: rest =>
      match argument with
      | ['-', '-'] => .ok { reading with operands := rest.reverse ++ reading.operands }
      | '-' :: '-' :: word => do
          let (reading, rest) ← forms.readWord reading word rest
          forms.readFrom fuel reading rest
      | '-' :: c :: letters => do
          let (reading, rest) ← forms.readLetters reading (c :: letters) rest
          forms.readFrom fuel reading rest
      | operand =>
          if forms.isOrdered then
            .ok { reading with operands := (operand :: rest).reverse ++ reading.operands }
          else
            forms.readFrom fuel { reading with operands := operand :: reading.operands } rest

/-- The options and the operands, or what is wrong with the first that is wrong. -/
def read? (forms : OptionForms) (arguments : List Text) :
    Except Text (List GivenOption × List Text) := do
  let reading ← forms.readFrom (arguments.length + 1) ⟨[], []⟩ arguments
  return (reading.options.reverse, reading.operands.reverse)

end OptionForms

structure Given where
  options : List GivenOption
  operands : List Text
deriving DecidableEq, Repr

namespace Given

def has (given : Given) (key : Char) : Bool :=
  given.options.any (·.key == key)

def last? (given : Given) (keys : Text) : Option GivenOption :=
  given.options.reverse.find? fun option => List.contains keys option.key

def value? (given : Given) (key : Char) : Option Text :=
  (given.last? [key]).bind (·.value)

def values (given : Given) (key : Char) : List Text :=
  (given.options.filter (·.key == key)).filterMap (·.value)

end Given

namespace Activity

def given (status : Nat) (forms : OptionForms) (arguments : List Text) : Activity Given := do
  match forms.read? arguments with
  | .ok (options, operands) => return ⟨options, operands⟩
  | .error flaw => misuse status flaw

end Activity
end Shell
end StubAssist

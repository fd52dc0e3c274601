import StubAssist.CommandLine.Usage

/-!
# Arguments

The arguments of one level, read from left to right.  A value is looked at only
when the next known option or operand comes, or at the end: an unknown argument
before that is what is reported.
-/

namespace StubAssist
namespace CommandLine

inductive Slot where
  | option (rule : OptionRule)
  | operand (form : ValueForm)
deriving DecidableEq, Repr

structure Given where
  options : List (Text × Text)
  operand : Option Text
  /-- A slot whose value has not been looked at, if there is one already. -/
  pending : Option (Slot × Option Text)
deriving DecidableEq, Repr

namespace Given

def empty : Given := ⟨[], none, none⟩

def has (given : Given) (name : Text) : Bool :=
  (given.options.lookup name).isSome

def value? (given : Given) (name : Text) : Option Text :=
  given.options.lookup name

def isEmpty (given : Given) : Bool :=
  given.options.isEmpty && given.operand.isNone

def take (given : Given) (option : OptionRule) (value : Text) : Except UsageError Given :=
  if given.has option.name then .error .argumentConflict
  else
    let flaw :=
      match option.role with
      | .value form => form.flaw? value
      | _ => none
    match flaw with
    | some error => .error error
    | none => .ok { given with options := given.options ++ [(option.name, value)] }

def settle (given : Given) : Except UsageError Given :=
  let free := { given with pending := none }
  match given.pending with
  | none => .ok given
  | some (_, none) => .error .missingValue
  | some (.option rule, some value) => free.take rule value
  | some (.operand form, some value) =>
      match form.flaw? value with
      | some error => .error error
      | none => .ok { free with operand := some value }

def meet (given : Given) (option : OptionRule) (attached : Option Text) :
    Except UsageError Given :=
  match option.role, attached with
  | .value _, some value => do (← given.settle).take option value
  | .value _, none => do
      return { ← given.settle with pending := some (.option option, none) }
  | _, some _ => .error .unwantedValue
  | .flag, none => do (← given.settle).take option []
  | .help, none => do
      let _ ← given.settle
      throw .displayHelp
  | .version, none => do
      let _ ← given.settle
      throw .displayVersion

/-- Takes options given by their letters; the first that has a value takes what is left. -/
def meetLetters (level : Level) (given : Given) : Text → Except UsageError Given
  | [] => .ok given
  | letter :: rest =>
      match level.letter? letter with
      | none => .error .unknownArgument
      | some option =>
          match option.role, rest with
          | .value _, [] => given.meet option none
          | .value _, '=' :: value => given.meet option (some value)
          | .value _, value => given.meet option (some value)
          | _, rest => do (← given.meet option none).meetLetters level rest

def meetOperand (level : Level) (given : Given) (value : Text) : Except UsageError Given :=
  match level.operand, given.operand, given.pending with
  | some _, _, some (.operand _, _) => .error .unknownArgument
  | some form, none, _ => do
      return { ← given.settle with pending := some (.operand form, some value) }
  | _, _, _ => .error (if level.commands.isEmpty then .unknownArgument else .unknownCommand)

end Given

structure Reading where
  given : Given
  command : Option (Text × List Text)

inductive Shape where
  | long (name : Text) (attached : Option Text)
  | letters (letters : Text)
  | plain

def shapeOf : Text → Shape
  | '-' :: '-' :: rest =>
      match Text.splitFirst '=' rest with
      | some (name, value) => .long name (some value)
      | none => .long rest none
  | '-' :: c :: rest => .letters (c :: rest)
  | _ => .plain

/-- Arguments after a lone double dash, which are operands whatever they look like. -/
def readOperands (level : Level) (given : Given) : List Text → Except UsageError Given
  | [] => .ok given
  | argument :: rest =>
      if level.commands.contains argument then .error .unknownArgument
      else do readOperands level (← given.meetOperand level argument) rest

def Given.meetArgument (level : Level) (given : Given) (argument : Text) :
    Except UsageError Given :=
  match shapeOf argument with
  | .long name attached =>
      match level.option? name with
      | none => .error .unknownArgument
      | some option => given.meet option attached
  | .letters letters => given.meetLetters level letters
  | .plain => given.meetOperand level argument

def Given.awaits (given : Given) (argument : Text) : Option Slot :=
  match given.pending, shapeOf argument with
  | some (slot, none), .plain => some slot
  | _, _ => none

def readFrom (level : Level) (given : Given) : List Text → Except UsageError Reading
  | [] => .ok ⟨given, none⟩
  | argument :: rest =>
      match given.awaits argument with
      | some slot => readFrom level { given with pending := some (slot, some argument) } rest
      | none =>
          if level.commands.contains argument then .ok ⟨given, some (argument, rest)⟩
          else if argument == "--" then do return ⟨← readOperands level given rest, none⟩
          else do readFrom level (← given.meetArgument level argument) rest

def read (level : Level) (arguments : List Text) : Except UsageError Reading := do
  let reading ← readFrom level .empty arguments
  return { reading with given := ← reading.given.settle }

end CommandLine
end StubAssist

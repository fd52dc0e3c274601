import StubAssist.Text

/-!
# Modes of a shell

What a shell can be switched into by options, when it starts or later.  Options are
letters after a minus sign, or after a plus sign for switching off; names of modes
are arguments of the letter `o`.
-/

namespace StubAssist
namespace Shell

inductive Mode where
  | stopsOnFailure
  | keepsPatterns
  | ignoresEnd
  | isInteractive
  | controlsJobs
  | onlyReads
  | readsInput
  | showsCommands
  | showsLines
  | editsByCommands
  | editsByKeys
  | keepsFiles
  | exportsAll
  | notifies
  | demandsParameters
  | isPrivileged
  | keepsNoHistory
  | debugs
deriving DecidableEq, Repr

namespace Mode

def table : List (Mode × Option Char × Text) :=
  [(stopsOnFailure, some 'e', "errexit"), (keepsPatterns, some 'f', "noglob"),
    (ignoresEnd, some 'I', "ignoreeof"), (isInteractive, some 'i', "interactive"),
    (controlsJobs, some 'm', "monitor"), (onlyReads, some 'n', "noexec"),
    (readsInput, some 's', "stdin"), (showsCommands, some 'x', "xtrace"),
    (showsLines, some 'v', "verbose"), (editsByCommands, some 'V', "vi"),
    (editsByKeys, some 'E', "emacs"), (keepsFiles, some 'C', "noclobber"),
    (exportsAll, some 'a', "allexport"), (notifies, some 'b', "notify"),
    (demandsParameters, some 'u', "nounset"), (isPrivileged, some 'p', "privileged"),
    (keepsNoHistory, none, "nolog"), (debugs, none, "debug")]

def ofLetter? (c : Char) : Option Mode :=
  (table.find? (·.2.1 == some c)).map (·.1)

def ofName? (name : Text) : Option Mode :=
  (table.find? (·.2.2 == name)).map (·.1)

/-- Switches a mode on or off; there is only one way of editing at a time. -/
def switch (isOn : Bool) (mode : Mode) (modes : List Mode) : List Mode :=
  let others := modes.filter (· != mode)
  if !isOn then others
  else
    mode :: others.filter fun other =>
      !((mode == editsByCommands && other == editsByKeys) ||
        (mode == editsByKeys && other == editsByCommands))

def letters (modes : List Mode) : Text :=
  (table.filterMap fun (mode, letter, _) => if modes.contains mode then letter else none).reverse

def listing (inWords : Bool) (modes : List Mode) : Text :=
  let title : Text := if inWords then "Current option settings\n" else []
  title ++ table.flatMap fun (mode, _, name) =>
    let choose := fun (on off : Text) => if modes.contains mode then on else off
    if inWords then
      name ++ List.replicate (16 - name.length) ' ' ++ choose "on\n" "off\n"
    else choose "set -o " "set +o " ++ name ++ ['\n']

structure Request where
  modes : List Mode
  holdsScript : Bool
  shown : Text
  isClosed : Bool
  rest : List Text
deriving DecidableEq, Repr

/-- Reads letters; where a shell starts, some have a meaning of their own. -/
def readLetters (atStart isOn : Bool) : Text → Request → Except Text Request
  | [], request => .ok request
  | 'o' :: letters, request =>
      match request.rest with
      | [] =>
          let shown := request.shown ++ listing isOn request.modes
          readLetters atStart isOn letters { request with shown := shown }
      | name :: rest =>
          match ofName? name with
          | none => .error ("Illegal option -o " ++ name)
          | some mode =>
              let modes := switch isOn mode request.modes
              readLetters atStart isOn letters { request with modes := modes, rest := rest }
  | c :: letters, request =>
      if atStart && c == 'c' then
        readLetters atStart isOn letters { request with holdsScript := true }
      else if atStart && c == 'l' then readLetters atStart isOn letters request
      else
        match ofLetter? c with
        | none => .error ("Illegal option -" ++ [c])
        | some mode =>
            readLetters atStart isOn letters
              { request with modes := switch isOn mode request.modes }

def readOptions (atStart : Bool) : (fuel : Nat) → Request → Except Text Request
  | 0, request => .ok request
  | fuel + 1, request =>
      match request.rest with
      | ['-'] :: rest =>
          let modes := if atStart then request.modes
            else switch false showsCommands (switch false showsLines request.modes)
          .ok { request with modes := modes, isClosed := !rest.isEmpty, rest := rest }
      | ['-', '-'] :: rest => .ok { request with isClosed := true, rest := rest }
      | (sign :: letters) :: rest =>
          if sign == '-' || sign == '+' then do
            let request ← readLetters atStart (sign == '-') letters { request with rest := rest }
            readOptions atStart fuel request
          else .ok request
      | _ => .ok request

def request (atStart : Bool) (modes : List Mode) (arguments : List Text) : Except Text Request :=
  readOptions atStart (arguments.length + 1) ⟨modes, false, [], false, arguments⟩

end Mode
end Shell
end StubAssist

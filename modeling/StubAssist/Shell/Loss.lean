import StubAssist.Shell.Files

/-!
# Lost output

What programs say, and how they end, when what they have written goes nowhere.
-/

namespace StubAssist
namespace Shell

structure Loss where
  complaints : List Text
  status : Option Nat
deriving DecidableEq, Repr

namespace Loss

def statuses : List (Text × Nat) :=
  [("ls", 2), ("dir", 2), ("vdir", 2), ("grep", 2), ("egrep", 2), ("fgrep", 2), ("sort", 2),
    ("diff", 2), ("cmp", 2), ("printenv", 2), ("expr", 3), ("tty", 3), ("sed", 4),
    ("env", 125), ("nice", 125)]

/-- Programs that send out line by line, and know only in the end that something went wrong. -/
def linewise : List Text :=
  ["wc", "md5sum", "sha1sum", "sha224sum", "sha256sum", "sha384sum", "sha512sum", "b2sum",
    "cksum", "sum", "find", "sort"]

def complaintsOf (program : Text) (error : FileError) : List Text :=
  let reason := (error.description).1
  let isClosed := error == .badDescriptor
  let general : Text :=
    if linewise.contains program && !isClosed then "write error" else "write error: " ++ reason
  let ofStream : Text := "'standard output': " ++ reason
  if program == "sed" then
    [(if isClosed then "couldn't close stdout: " else "couldn't flush stdout: ") ++ reason]
  else if program == "sort" then ["fflush failed: " ++ ofStream, general]
  else if program == "find" then [ofStream, general]
  else if program == "tee" then [ofStream]
  else if program == "split" then ["-: " ++ reason]
  else if program == "diff" || program == "cmp" then ["standard output: " ++ reason]
  else [general]

def ofProgram (name : Text) (error : FileError) : Loss :=
  let program := (name.reverse.takeWhile (· != '/')).reverse
  let isUnnoticed := error == .badDescriptor && (program == "cmp" || program == "rev")
  if isUnnoticed then ⟨[], none⟩
  else if program == "which" then ⟨["/usr/bin/which: 13: printf: printf: I/O error"], some 1⟩
  else
    let speaker : Text := if program == "egrep" || program == "fgrep" then "grep" else name
    ⟨(complaintsOf program error).map fun complaint => speaker ++ ": " ++ complaint,
      some ((statuses.lookup program).getD 1)⟩

end Loss
end Shell
end StubAssist

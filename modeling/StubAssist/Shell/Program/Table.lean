import StubAssist.Shell.Program.Batches
import StubAssist.Shell.Program.Blocks
import StubAssist.Shell.Program.Columns
import StubAssist.Shell.Program.Comparison
import StubAssist.Shell.Program.Copying
import StubAssist.Shell.Program.Count
import StubAssist.Shell.Program.Differing
import StubAssist.Shell.Program.Digests
import StubAssist.Shell.Program.Dump
import StubAssist.Shell.Program.Edit
import StubAssist.Shell.Program.Encoding
import StubAssist.Shell.Program.Excerpt
import StubAssist.Shell.Program.Expression
import StubAssist.Shell.Program.Facts
import StubAssist.Shell.Program.Filling
import StubAssist.Shell.Program.Folding
import StubAssist.Shell.Program.Judgement
import StubAssist.Shell.Program.Listing
import StubAssist.Shell.Program.Making
import StubAssist.Shell.Program.Matching
import StubAssist.Shell.Program.Precedence
import StubAssist.Shell.Program.Repeats
import StubAssist.Shell.Program.Running
import StubAssist.Shell.Program.Search
import StubAssist.Shell.Program.Sequence
import StubAssist.Shell.Program.Sorting
import StubAssist.Shell.Program.Splitting
import StubAssist.Shell.Program.Streams
import StubAssist.Shell.Program.Template
import StubAssist.Shell.Program.Translation
import StubAssist.Shell.Program.Walk

/-!
# The programs by name

The table in which all programs are found.
-/

namespace StubAssist
namespace Shell
namespace Program

def textPrograms : List (Text × Program) :=
  [("cat", cat), ("tac", tac), ("rev", rev), ("tee", tee), ("yes", yes), ("echo", echo),
    ("printf", printf), ("head", head), ("tail", tail), ("wc", wc), ("nl", nl), ("cut", cut),
    ("paste", paste), ("sort", sort), ("uniq", uniq), ("tr", tr), ("expr", expr), ("seq", seq)]

def moreTextPrograms : List (Text × Program) :=
  [("grep", grep), ("egrep", grepWith "-E"), ("fgrep", grepWith "-F"), ("od", od), ("sed", sed),
    ("comm", comm), ("join", join), ("cmp", cmp), ("diff", diff), ("fold", fold),
    ("expand", expand), ("unexpand", unexpand), ("fmt", fmt), ("base64", base64),
    ("base32", base32), ("factor", factor), ("tsort", tsort), ("shuf", shuf)]

def filePrograms : List (Text × Program) :=
  [("basename", basename), ("dirname", dirname), ("pwd", pwd), ("readlink", readlink),
    ("realpath", realpath), ("ls", ls), ("mkdir", mkdir), ("rmdir", rmdir), ("find", find),
    ("touch", touch), ("chmod", chmod), ("cp", cp), ("mv", mv), ("ln", ln), ("rm", rm),
    ("unlink", unlink), ("stat", stat), ("mktemp", mktemp), ("link", link),
    ("truncate", truncate), ("sync", sync), ("which", which), ("split", split), ("dd", dd)]

def otherPrograms : List (Text × Program) :=
  [("true", succeed), ("false", lose), ("test", test), ("[", bracket), ("sleep", sleep),
    ("env", env), ("nohup", nohup), ("setsid", setsid), ("stdbuf", stdbuf), ("nice", nice),
    ("timeout", timeout),
    ("xargs", xargs), ("whoami", whoami), ("arch", arch), ("uname", uname), ("nproc", nproc),
    ("id", id), ("groups", groups), ("logname", logname), ("users", users), ("tty", tty),
    ("printenv", printenv), ("date", date)]

def find? (name : Text) : Option Program :=
  [textPrograms, moreTextPrograms, filePrograms, otherPrograms, digestPrograms].findSome?
    fun programs => programs.lookup name

end Program
end Shell
end StubAssist

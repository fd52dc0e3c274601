import StubAssist.FileTree
import StubAssist.Prompt.Session
import StubAssist.SymbolIndex

/-!
# Workbenches

A place in memory to try the workflow in: files that tools work on, and a record
of the keywords that were looked up.
-/

namespace StubAssist

structure Workbench where
  files : FileTree
  asked : List Text

inductive BenchIndex where
  | fixed (index : FixedIndex)
  | failing (reason : Text)
  | workspace (index : WorkspaceIndex)

namespace Workbench

def runner (tools : ToolRunner FileTree) : ToolRunner Workbench where
  run bench invocation :=
    let (outcome, files) := tools.run bench.files invocation
    (outcome, { bench with files := files })

def takeAsked (bench : Workbench) : List Text × Workbench :=
  (bench.asked, { bench with asked := [] })

end Workbench

namespace BenchIndex

def toIndex (tools : ToolRunner FileTree) (index : BenchIndex) : SymbolIndex Workbench where
  ask bench keyword :=
    match index with
    | fixed index => (index.reply keyword, { bench with asked := bench.asked ++ [keyword] })
    | failing reason => (⟨0, .error (.symbolQuery reason)⟩, bench)
    | workspace index => index.ask (Workbench.runner tools) bench keyword

end BenchIndex

namespace Prompt
namespace Session

variable {ω : Type}

def typeAndAwait (session : Session ω) (patience : Nat) :
    List Text → List Awaited × Session ω
  | [] => ([], session)
  | value :: values =>
      let (_, session) := session.send (.valueChanged value)
      let (awaited, session) := session.awaitItems patience
      let (more, session) := session.typeAndAwait patience values
      (awaited :: more, session)

def selectAll (session : Session ω) (indices : List Nat) : Session ω :=
  indices.foldl (fun session index => (session.send (.select index)).2) session

end Session
end Prompt
end StubAssist

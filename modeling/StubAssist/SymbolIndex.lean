import StubAssist.Candidate
import StubAssist.ToolRun
import StubAssist.WorkspaceSymbols

/-!
# Symbol indexes

A symbol index is asked for a keyword and answers after some time, with symbols
or with the reason why it cannot.  Interfaces on offer are made from an answer.
-/

namespace StubAssist

structure Reply where
  millis : Nat
  symbols : Except AssistError (List Symbol)

/-- Asking may change the world that the index is in. -/
structure SymbolIndex (ω : Type) where
  ask : ω → Text → Reply × ω

/-!
# Interfaces from symbols
-/

def distinct {α : Type} [BEq α] : List α → List α
  | [] => []
  | a :: rest => a :: (distinct rest).filter (fun b => !(a == b))

/-- The interfaces among the symbols, each once, in order of first appearance. -/
def interfacesOf (symbols : List Symbol) : List Candidate :=
  distinct ((symbols.filter (·.kind == .interface)).map Candidate.ofSymbol)

def Reply.interfaces (reply : Reply) : Except AssistError (List Candidate) :=
  reply.symbols.map interfacesOf

/-!
# An index that runs a tool
-/

structure WorkspaceIndex where
  tool : Text
  directory : Text
  timeoutMillis : Nat
deriving DecidableEq, Repr

namespace WorkspaceIndex

def invocation (index : WorkspaceIndex) (keyword : Text) : Invocation where
  program := index.tool
  arguments := ["workspace_symbol", keyword]
  directory := index.directory
  timeoutMillis := index.timeoutMillis

/-- Complaints of a tool that did its job are of no interest. -/
def symbolsOf (report : ToolReport) : Except AssistError (List Symbol) :=
  match report.failure, report.trouble with
  | some _, some reason => .error (.symbolQuery reason)
  | _, _ => .ok (WorkspaceSymbols.parse report.stdout)

/-- A blank keyword matches nothing, and the tool is not run for it. -/
def ask {ω : Type} (runner : ToolRunner ω) (index : WorkspaceIndex) (world : ω)
    (keyword : Text) : Reply × ω :=
  let keyword := Text.trim keyword
  if keyword.isEmpty then (⟨0, .ok []⟩, world)
  else
    let (report, world) := runner.report world (index.invocation keyword)
    (⟨0, symbolsOf report⟩, world)

end WorkspaceIndex

/-!
# Indexes in memory
-/

structure FixedIndex where
  symbols : List Symbol
  delayMillis : Nat
  failures : List (Text × Text)

namespace FixedIndex

def nameMatches (keyword : Text) (symbol : Symbol) : Bool :=
  Text.contains (Text.lowerCase keyword) (Text.lowerCase symbol.name)

def reply (index : FixedIndex) (keyword : Text) : Reply where
  millis := index.delayMillis
  symbols :=
    match index.failures.lookup keyword with
    | some reason => .error (.symbolQuery reason)
    | none => .ok (index.symbols.filter (nameMatches keyword))

end FixedIndex
end StubAssist

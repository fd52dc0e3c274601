import StubAssist.Symbol
import StubAssist.Text.Lines

/-!
# Workspace symbols

The listing that `gopls workspace_symbol` prints: one symbol a line, with its
place in a file, its name and its kind.  Lines and columns are counted from one
there and from zero in a symbol.  A place within one line is written
`file:line:column-column`, one across lines `file:line:column-line:column`.
-/

namespace StubAssist
namespace WorkspaceSymbols

def splitQualified (qualified : Text) : Text × Option Text :=
  match Text.splitLast '.' qualified with
  | some (container, name) =>
      if container.isEmpty || name.isEmpty then (qualified, none) else (name, some container)
  | none => (qualified, none)

def positionOf (line column : Nat) : Option Position :=
  if line = 0 then none else some ⟨line - 1, column - 1⟩

/-- `file:line:column-column` without the last colon's right side. -/
def parseSameLine (head last : Text) : Option Range := do
  let (column, lastColumn) ← Text.splitFirst '-' last
  let (_, line) ← Text.splitLast ':' head
  let line ← Text.toWord? line
  let column ← Text.toWord? column
  let lastColumn ← Text.toWord? lastColumn
  return ⟨← positionOf line column, ← positionOf line lastColumn⟩

def parseAcrossLines (head last : Text) : Option Range := do
  let (head, middle) ← Text.splitLast ':' head
  let (column, lastLine) ← Text.splitFirst '-' middle
  let (_, line) ← Text.splitLast ':' head
  let line ← Text.toWord? line
  let column ← Text.toWord? column
  let lastLine ← Text.toWord? lastLine
  let lastColumn ← Text.toWord? last
  return ⟨← positionOf line column, ← positionOf lastLine lastColumn⟩

/-- A dash after the last colon means that the symbol stays on its line. -/
def parsePlace (place : Text) : Option Range := do
  let (head, last) ← Text.splitLast ':' place
  if List.contains last '-' then parseSameLine head last else parseAcrossLines head last

def parseLine (line : Text) : Option Symbol := do
  let (rest, kind) ← Text.splitLast ' ' (Text.trim line)
  let (place, qualified) ← Text.splitLast ' ' rest
  let range ← parsePlace place
  let (name, container) := splitQualified qualified
  return ⟨name, SymbolKind.ofText kind, range, container⟩

/-- The symbols of a listing; lines of any other form are passed over. -/
def parse (listing : Text) : List Symbol :=
  (Text.lines listing).filterMap parseLine

end WorkspaceSymbols
end StubAssist

import StubAssist.Toml.Value

/-!
# Building tables

A document adds entries and headers to its tables one after the other.  What was
written in braces is closed, a table has at most one header, and dotted keys
extend only tables that dotted keys made.
-/

namespace StubAssist
namespace Toml

structure Key where
  text : Text
  span : Span
deriving DecidableEq, Repr

def setEntry (key : Text) (span : Span) (value : Value) (entries : Entries) : Entries :=
  if (entries.lookup key).isSome then
    entries.map fun entry => if entry.1 == key then (key, span, value) else entry
  else entries ++ [(key, span, value)]

abbrev Change := TableKind → Entries → Option (TableKind × Entries)

/--
Changes the table that a path leads to, making the tables that are missing on the
way.  A path through an array of tables goes on in its last table.
-/
def descend (dotted : Bool) (change : Change) : List Key → Change
  | [], kind, entries => change kind entries
  | key :: path, kind, entries =>
      match entries.lookup key.text with
      | none => do
          let newKind := if dotted then .dotted else .implied
          let (childKind, child) ← descend dotted change path newKind []
          return (kind, setEntry key.text key.span (.table childKind child) entries)
      | some (_, .table .inline _) => none
      | some (span, .table childKind child) =>
          if dotted && childKind == .header then none
          else do
            let (childKind, child) ← descend dotted change path childKind child
            return (kind, setEntry key.text span (.table childKind child) entries)
      | some (span, .array true items) =>
          match items.getLast? with
          | some (itemSpan, .table childKind child) => do
              let (childKind, child) ← descend dotted change path childKind child
              let items := items.dropLast ++ [(itemSpan, .table childKind child)]
              return (kind, setEntry key.text span (.array true items) entries)
          | _ => none
      | some _ => none

/-- Adds an entry to a table that is as dotted as the path that led to it. -/
def addHere (isDotted : Bool) (key : Key) (value : Span × Value) : Change :=
  fun kind entries =>
    if (kind == .dotted) != isDotted || (entries.lookup key.text).isSome then none
    else some (kind, setEntry key.text value.1 value.2 entries)

def addEntry (path : List Key) (key : Key) (value : Span × Value) : Change :=
  descend true (addHere (!path.isEmpty) key value) path

/-- Opens the table of a header; a table known only by implication keeps its entries. -/
def openTable (key : Key) (span : Span) : Change :=
  fun kind entries =>
    match entries.lookup key.text with
    | none => some (kind, setEntry key.text span (.table .header []) entries)
    | some (_, .table .implied child) =>
        some (kind, setEntry key.text span (.table .header child) entries)
    | some _ => none

def openItem (key : Key) (span : Span) : Change :=
  fun kind entries =>
    let item : Span × Value := (span, .table .header [])
    match entries.lookup key.text with
    | none => some (kind, setEntry key.text span (.array true [item]) entries)
    | some (first, .array true items) =>
        some (kind, setEntry key.text first (.array true (items ++ [item])) entries)
    | some _ => none

end Toml
end StubAssist

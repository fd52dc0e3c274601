import StubAssist.Text

/-!
# TOML values

A document is a table of values, each with the stretch of the text it was written
in.  Tables and arrays remember how they were written, since that decides what
may still be added to them.
-/

namespace StubAssist
namespace Toml

/-- A stretch of a text, in bytes. -/
structure Span where
  offset : Nat
  length : Nat
deriving DecidableEq, Repr

inductive TableKind where
  /-- Written in braces; nothing can be added. -/
  | inline
  /-- Opened by its own header, or the document itself. -/
  | header
  /-- Known only from the header of a table inside it. -/
  | implied
  /-- Known only from a dotted key through it. -/
  | dotted
deriving DecidableEq, Repr

inductive Value where
  | string (text : Text)
  | integer (number : Int)
  | float (number : Float)
  /-- A number of the right shape that has no value, such as one beyond every float. -/
  | unreadable
  | boolean (value : Bool)
  | datetime
  /-- Either written in brackets or gathered from headers in double brackets. -/
  | array (ofHeaders : Bool) (items : List (Span × Value))
  | table (kind : TableKind) (entries : List (Text × Span × Value))

abbrev Entries := List (Text × Span × Value)

end Toml
end StubAssist

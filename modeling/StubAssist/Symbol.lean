import StubAssist.Text
import StubAssist.Text.LowerCase

/-!
# Symbols

What a document or a workspace index reports: a name of some kind, with the
lines it covers and the package it lives in.
-/

namespace StubAssist

/-- A place in a document; lines and characters are counted from zero. -/
structure Position where
  line : Nat
  character : Nat
deriving DecidableEq, Repr

/-- From one position to another, the end line included. -/
structure Range where
  start : Position
  stop : Position
deriving DecidableEq, Repr

namespace Range

def ofLines (first last : Nat) : Range :=
  ⟨⟨first, 0⟩, ⟨last, 0⟩⟩

end Range

inductive SymbolKind where
  | package
  | struct
  | interface
  | function
  | method
  | field
  | variable
  | constant
  | classType
  | typeParameter
  /-- Any kind this library has no use for. -/
  | other
deriving DecidableEq, Repr

namespace SymbolKind

def name : SymbolKind → Text
  | package => "Package"
  | struct => "Struct"
  | interface => "Interface"
  | function => "Function"
  | method => "Method"
  | field => "Field"
  | «variable» => "Variable"
  | constant => "Constant"
  | classType => "Class"
  | typeParameter => "TypeParameter"
  | other => "Other"

def spellings : List (Text × SymbolKind) :=
  [("package", package), ("module", package), ("namespace", package),
    ("struct", struct), ("interface", interface), ("function", function),
    ("method", method), ("field", field), ("variable", «variable»),
    ("constant", constant), ("class", classType), ("typeparameter", typeParameter)]

/-- Reads a kind in any case; a word that is no spelling means `other`. -/
def ofText (t : Text) : SymbolKind :=
  (spellings.lookup (Text.lowerCase t)).getD other

end SymbolKind

structure Symbol where
  name : Text
  kind : SymbolKind
  range : Range
  container : Option Text
deriving DecidableEq, Repr

end StubAssist

import StubAssist.Symbol

/-!
# Interface candidates

An interface on offer, with the package it comes from.  The qualified name puts
a dot between the two; an empty package counts as none.
-/

namespace StubAssist

/-- `package.Name`, or just the name without a package. -/
def qualify (package : Option Text) (name : Text) : Text :=
  match package with
  | none => name
  | some [] => name
  | some path => path ++ '.' :: name

structure Candidate where
  name : Text
  package : Option Text
deriving DecidableEq, Repr

namespace Candidate

/-- A candidate in `package`, where the empty path is no package. -/
def inPackage (name : Text) (package : Option Text) : Candidate :=
  ⟨name, package.filter (fun path => !path.isEmpty)⟩

def qualifiedName (candidate : Candidate) : Text :=
  qualify candidate.package candidate.name

def ofSymbol (symbol : Symbol) : Candidate :=
  inPackage symbol.name symbol.container

/-- Reads `package.Name`, split at the last dot, or a bare name. -/
def ofQualified (t : Text) : Candidate :=
  match Text.splitLast '.' t with
  | some (package, name) => inPackage name (some package)
  | none => ⟨t, none⟩

end Candidate
end StubAssist

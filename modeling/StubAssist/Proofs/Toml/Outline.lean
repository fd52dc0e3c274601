import StubAssist.Proofs.Toml.Readers

/-!
# The outline of a document

A document is a list of statements, headers and entries, before anything is made of
them.  Reading the statements and building the tables from them is what reading the
document comes to, so every document has an outline.
-/

namespace StubAssist
namespace Toml

/-!
# Statements
-/

/-- A header, or an entry with a dotted key, which is a path and a last name. -/
inductive Content where
  | header (span : Span) (doubled : Bool) (path : List Key) (key : Key)
  | entry (path : List Key) (key : Key) (value : Span × Value)

/-- A header or an entry as it is written, without the blanks and the comment behind it. -/
structure Statement where
  text : Text
  content : Content

def readContent (total : Nat) : Reader Content := do
  if (← get).head? == some '[' then
    let (span, doubled, path, key) ← withSpan total (readHeader total)
    return .header span doubled path key
  else
    let (path, key, value) ← readEntry total skipBlanks (readValue total maxDepth)
    return .entry path key value

def readStatement (total : Nat) : Reader Statement := do
  let before ← get
  let content ← readContent total
  let after ← get
  requireLineEnd
  return ⟨before.take (before.length - after.length), content⟩

def readStatements (total : Nat) : (fuel : Nat) -> Reader (List Statement)
  | 0 => failure
  | fuel + 1 => do
      skipTrivia
      if (← get).isEmpty then return []
      else
        let statement ← readStatement total
        return statement :: (← readStatements total fuel)

def outline? (t : Text) : Option (List Statement) :=
  let body := dropByteOrderMark t
  ((readStatements (Text.byteSize t) (body.length + 1)).run body).map (·.1)

/-!
# From statements to tables
-/

/-- What a statement makes of the document so far, unless it may not stand there. -/
def Draft.add (draft : Draft) : Content -> Option Draft
  | .header span doubled path key =>
      (draft.update path (if doubled then openItem key span else openTable key span)).map
        fun entries => ⟨entries, path ++ [key]⟩
  | .entry path key value =>
      (draft.update draft.header (addEntry path key value)).map
        fun entries => { draft with entries := entries }

def Draft.addAll (draft : Draft) : List Statement -> Option Draft
  | [] => some draft
  | statement :: rest => (draft.add statement.content).bind fun draft => draft.addAll rest

theorem readStatement_eq (total : Nat) (t : Text) :
    readStatement total t =
      (readContent total t).bind fun step =>
        (requireLineEnd step.2).map fun lineEnd =>
          (⟨t.take (t.length - step.2.length), step.1⟩, lineEnd.2) := by
  show (readContent total t).bind _ = _
  cases readContent total t with
  | none =>
      rfl
  | some step =>
      show (requireLineEnd step.2).bind _ = (requireLineEnd step.2).map _
      cases requireLineEnd step.2 <;> rfl

theorem readLine_eq (total : Nat) (draft : Draft) (t : Text) :
    readLine total draft t =
      (readStatement total t).bind fun step =>
        (draft.add step.1.content).map fun draft => (draft, step.2) := by
  -- both readings take the content first and check the line end last
  have hcontent : readLine total draft t =
      (readContent total t).bind fun step =>
        (draft.add step.1).bind fun draft =>
          (requireLineEnd step.2).map fun lineEnd => (draft, lineEnd.2) := by
    unfold readLine readContent
    simp only [read_bind, read_get, Option.bind_some]
    split
    · simp only [read_bind, read_lift, read_pure]
      cases withSpan total (readHeader total) t with
      | none =>
          rfl
      | some step =>
          rcases step with ⟨⟨span, doubled, path, key⟩, rest⟩
          simp only [Option.bind_some, Draft.add]
          cases draft.update path (if doubled then openItem key span else openTable key span) with
          | none =>
              rfl
          | some entries =>
              simp only [Option.map_some, Option.bind_some]
              cases requireLineEnd rest <;> rfl
    · simp only [read_bind, read_lift, read_pure]
      cases readEntry total skipBlanks (readValue total maxDepth) t with
      | none =>
          rfl
      | some step =>
          rcases step with ⟨⟨path, key, value⟩, rest⟩
          simp only [Option.bind_some, Draft.add]
          cases draft.update draft.header (addEntry path key value) with
          | none =>
              rfl
          | some entries =>
              simp only [Option.map_some, Option.bind_some]
              cases requireLineEnd rest <;> rfl
  rw [hcontent, readStatement_eq]
  cases readContent total t with
  | none =>
      rfl
  | some step =>
      dsimp only [Option.bind_some]
      cases hadd : draft.add step.1 <;> cases requireLineEnd step.2 <;> simp [hadd]

theorem readLines_eq (total : Nat) (draft : Draft) (fuel : Nat) (t : Text) :
    readLines total draft fuel t =
      (readStatements total fuel t).bind fun step =>
        (draft.addAll step.1).map fun draft => (draft, step.2) := by
  induction fuel generalizing draft t with
  | zero =>
      rfl
  | succ fuel ih =>
      unfold readLines readStatements
      simp only [read_bind, read_get]
      cases skipTrivia t with
      | none =>
          rfl
      | some step =>
          simp only [Option.bind_some]
          cases hend : step.2.isEmpty with
          | true =>
              rfl
          | false =>
              simp only [Bool.false_eq_true, if_false, read_bind, readLine_eq]
              cases hstatement : readStatement total step.2 with
              | none =>
                  rfl
              | some line =>
                  simp only [Option.bind_some]
                  cases hadd : draft.add line.1.content with
                  | none =>
                      cases readStatements total fuel line.2 <;>
                        simp [read_pure, Draft.addAll, hadd]
                  | some next =>
                      have hrest := ih next line.2
                      cases hlater : readStatements total fuel line.2 <;>
                        rw [hlater] at hrest <;>
                        simp [read_pure, Draft.addAll, hadd, hrest]

/-- A document is its outline, as far as the statements make tables. -/
theorem parse?_eq (t : Text) :
    parse? t = (outline? t).bind fun statements =>
      (Draft.empty.addAll statements).map (·.entries) := by
  unfold parse? outline?
  simp only [StateT.run, readLines_eq]
  cases readStatements (Text.byteSize t) ((dropByteOrderMark t).length + 1)
      (dropByteOrderMark t) with
  | none => rfl
  | some step => simp [Function.comp_def]

end Toml
end StubAssist

import StubAssist.Text

/-!
# Lines

A text is cut after every line feed.  A line is such a piece without its
terminator, where a terminator is a line feed with at most one carriage return
right before it.  A carriage return that no line feed follows stays in the line.
-/

namespace StubAssist
namespace Text

/-- The pieces of a text, each but the last one ending in a line feed. -/
def pieces : Text → List Text
  | [] => []
  | c :: rest =>
      if c = '\n' then [c] :: pieces rest
      else
        match pieces rest with
        | [] => [[c]]
        | piece :: more => (c :: piece) :: more

def dropTerminator : Text → Text
  | [] => []
  | '\n' :: [] => []
  | '\r' :: '\n' :: [] => []
  | c :: rest => c :: dropTerminator rest

def lines (t : Text) : List Text :=
  (pieces t).map dropTerminator

def endsInNewline (t : Text) : Bool :=
  t.getLast? == some '\n'

theorem flatten_pieces (t : Text) :
    (pieces t).flatten = t := by
  induction t with
  | nil =>
      rfl
  | cons c rest ih =>
      unfold pieces
      split
      · simp [ih]
      · cases h : pieces rest with
        | nil =>
            have hrest : rest = [] := by simpa [h] using ih.symm
            simp [hrest]
        | cons piece more =>
            simpa [h] using ih

theorem length_lines (t : Text) :
    (lines t).length = (pieces t).length := by
  simp [lines]

end Text
end StubAssist

import StubAssist.Text
import StubAssist.Text.LowerCase
import StubAssist.Text.PrintTable

/-!
# Quoted text

Two ways to write a text between double quotes: for diagnostics, where all that
cannot be seen is escaped, and for JSON, where only what must be escaped is.
-/

namespace StubAssist
namespace Text

def hexText (n : Nat) : Text :=
  Nat.toDigits 16 n

/-- Letters that stand for the want of a letter, and are not seen. -/
def isFiller (c : Char) : Bool :=
  c == '\u115f' || c == '\u1160' || c == '\u3164' || c == '\uffa0'

/-- Marks that attach to the character before but have a width of their own. -/
def isSpacingMark (c : Char) : Bool :=
  c == '\uff9e' || c == '\uff9f'

def isShowable (c : Char) : Bool :=
  !inRanges unprintableRanges c && !isFiller c &&
    (!inRanges graphemeExtendRanges c || isSpacingMark c)

def diagnosticChar (c : Char) : Text :=
  if c = '\x00' then ['\\', '0']
  else if c = '\t' then ['\\', 't']
  else if c = '\r' then ['\\', 'r']
  else if c = '\n' then ['\\', 'n']
  else if c = '\\' || c = '"' then ['\\', c]
  else if isShowable c then [c]
  else '\\' :: 'u' :: '\x7b' :: hexText c.toNat ++ ['\x7d']

def quoteForDiagnostic (t : Text) : Text :=
  '"' :: t.flatMap diagnosticChar ++ ['"']

def jsonChar (c : Char) : Text :=
  if c = '"' || c = '\\' then ['\\', c]
  else if c = '\x08' then ['\\', 'b']
  else if c = '\x0c' then ['\\', 'f']
  else if c = '\n' then ['\\', 'n']
  else if c = '\r' then ['\\', 'r']
  else if c = '\t' then ['\\', 't']
  else if c.toNat < 0x20 then
    let digits := hexText c.toNat
    '\\' :: 'u' :: List.replicate (4 - digits.length) '0' ++ digits
  else [c]

def quoteForJson (t : Text) : Text :=
  '"' :: t.flatMap jsonChar ++ ['"']

end Text
end StubAssist

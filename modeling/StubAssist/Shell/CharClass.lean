import StubAssist.Text

/-!
# Classes of characters

The named classes of ASCII characters; no other character is in any of them.
-/

namespace StubAssist
namespace Shell

inductive CharClass where
  | alnum
  | alpha
  | blank
  | cntrl
  | digit
  | graph
  | lower
  | print
  | punct
  | space
  | upper
  | xdigit
deriving DecidableEq, Repr

namespace CharClass

def names : List (Text × CharClass) :=
  [("alnum", alnum), ("alpha", alpha), ("blank", blank), ("cntrl", cntrl), ("digit", digit),
    ("graph", graph), ("lower", lower), ("print", print), ("punct", punct), ("space", space),
    ("upper", upper), ("xdigit", xdigit)]

def ofName? (name : Text) : Option CharClass :=
  names.lookup name

def contains (c : Char) : CharClass → Bool
  | alnum => c.isAlphanum
  | alpha => c.isAlpha
  | blank => c == ' ' || c == '\t'
  | cntrl => c < ' ' || c == '\x7f'
  | digit => c.isDigit
  | graph => '!' ≤ c && c ≤ '~'
  | lower => c.isLower
  | print => ' ' ≤ c && c ≤ '~'
  | punct => '!' ≤ c && c ≤ '~' && !c.isAlphanum
  | space => c == ' ' || ('\t' ≤ c && c ≤ '\r')
  | upper => c.isUpper
  | xdigit => c.isDigit || ('a' ≤ c && c ≤ 'f') || ('A' ≤ c && c ≤ 'F')

end CharClass
end Shell
end StubAssist

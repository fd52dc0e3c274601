import StubAssist.Text

/-!
# TOML strings

The bodies of the four kinds of strings, read after their opening quotes.  Each
reader answers with the string's text and what follows the closing quotes.
-/

namespace StubAssist
namespace Toml

def isPlainChar (c : Char) : Bool :=
  c == '\t' || (0x20 ≤ c.toNat && c.toNat != 0x7F)

def hexDigit? (c : Char) : Option Nat :=
  if c.isDigit then some (c.toNat - '0'.toNat)
  else if 'a' ≤ c && c ≤ 'f' then some (c.toNat - 'a'.toNat + 10)
  else if 'A' ≤ c && c ≤ 'F' then some (c.toNat - 'A'.toNat + 10)
  else none

def hexFrom? (n : Nat) : Text → Option Nat
  | [] => some n
  | c :: rest => (hexDigit? c).bind fun d => hexFrom? (16 * n + d) rest

def scalarOfHex? (digits : Text) : Option Char :=
  (hexFrom? 0 digits).bind fun n => if n.isValidChar then some (Char.ofNat n) else none

def simpleEscape? : Char → Option Char
  | 'b' => some '\x08'
  | 't' => some '\t'
  | 'n' => some '\n'
  | 'f' => some '\x0c'
  | 'r' => some '\r'
  | 'e' => some '\x1b'
  | '"' => some '"'
  | '\\' => some '\\'
  | _ => none

def withChar (c : Char) (body : Option (Text × Text)) : Option (Text × Text) :=
  body.map fun (t, rest) => (c :: t, rest)

def withScalar (c? : Option Char) (body : Option (Text × Text)) : Option (Text × Text) :=
  c?.bind fun c => withChar c body

def basicBody : Text → Option (Text × Text)
  | [] => none
  | '"' :: rest => some ([], rest)
  | '\\' :: 'x' :: a :: b :: rest => withScalar (scalarOfHex? [a, b]) (basicBody rest)
  | '\\' :: 'u' :: a :: b :: c :: d :: rest =>
      withScalar (scalarOfHex? [a, b, c, d]) (basicBody rest)
  | '\\' :: 'U' :: a :: b :: c :: d :: e :: f :: g :: h :: rest =>
      withScalar (scalarOfHex? [a, b, c, d, e, f, g, h]) (basicBody rest)
  | '\\' :: c :: rest => withScalar (simpleEscape? c) (basicBody rest)
  | c :: rest => if isPlainChar c then withChar c (basicBody rest) else none

def literalBody : Text → Option (Text × Text)
  | [] => none
  | '\'' :: rest => some ([], rest)
  | c :: rest => if isPlainChar c then withChar c (literalBody rest) else none

/-!
# Strings over several lines
-/

def startsWithNewline : Text → Bool
  | '\n' :: _ => true
  | '\r' :: '\n' :: _ => true
  | _ => false

/-- A line feed right after the opening quotes is not part of the string. -/
def dropFirstNewline : Text → Text
  | '\n' :: rest => rest
  | '\r' :: '\n' :: rest => rest
  | t => t

def isSpaceOrTab (c : Char) : Bool :=
  c == ' ' || c == '\t'

def joinsLines (t : Text) : Bool :=
  startsWithNewline (t.dropWhile isSpaceOrTab)

/--
The body of a multi-line basic string.  While `joining`, blanks and line ends
after a joining backslash are dropped.  Up to two quotes may stand right before
the closing ones.
-/
def multiLineBasicBody : (joining : Bool) → Text → Option (Text × Text)
  | _, [] => none
  | true, ' ' :: rest => multiLineBasicBody true rest
  | true, '\t' :: rest => multiLineBasicBody true rest
  | true, '\n' :: rest => multiLineBasicBody true rest
  | true, '\r' :: '\n' :: rest => multiLineBasicBody true rest
  | _, '"' :: '"' :: '"' :: '"' :: '"' :: rest => some (['"', '"'], rest)
  | _, '"' :: '"' :: '"' :: '"' :: rest => some (['"'], rest)
  | _, '"' :: '"' :: '"' :: rest => some ([], rest)
  | _, '\\' :: 'x' :: a :: b :: rest =>
      withScalar (scalarOfHex? [a, b]) (multiLineBasicBody false rest)
  | _, '\\' :: 'u' :: a :: b :: c :: d :: rest =>
      withScalar (scalarOfHex? [a, b, c, d]) (multiLineBasicBody false rest)
  | _, '\\' :: 'U' :: a :: b :: c :: d :: e :: f :: g :: h :: rest =>
      withScalar (scalarOfHex? [a, b, c, d, e, f, g, h]) (multiLineBasicBody false rest)
  | _, '\\' :: c :: rest =>
      if joinsLines (c :: rest) then multiLineBasicBody true (c :: rest)
      else withScalar (simpleEscape? c) (multiLineBasicBody false rest)
  | _, '\r' :: '\n' :: rest => withChar '\r' (withChar '\n' (multiLineBasicBody false rest))
  | _, c :: rest =>
      if c == '\n' || isPlainChar c then withChar c (multiLineBasicBody false rest) else none

def multiLineLiteralBody : Text → Option (Text × Text)
  | [] => none
  | '\'' :: '\'' :: '\'' :: '\'' :: '\'' :: rest => some (['\'', '\''], rest)
  | '\'' :: '\'' :: '\'' :: '\'' :: rest => some (['\''], rest)
  | '\'' :: '\'' :: '\'' :: rest => some ([], rest)
  | '\r' :: '\n' :: rest => withChar '\r' (withChar '\n' (multiLineLiteralBody rest))
  | c :: rest =>
      if c == '\n' || isPlainChar c then withChar c (multiLineLiteralBody rest) else none

def lineString? : Text → Option (Text × Text)
  | '"' :: rest => basicBody rest
  | '\'' :: rest => literalBody rest
  | _ => none

def string? : Text → Option (Text × Text)
  | '"' :: '"' :: '"' :: rest => multiLineBasicBody false (dropFirstNewline rest)
  | '\'' :: '\'' :: '\'' :: rest => multiLineLiteralBody (dropFirstNewline rest)
  | t => lineString? t

end Toml
end StubAssist

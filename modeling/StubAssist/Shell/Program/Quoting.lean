import StubAssist.Text

/-!
# Names in messages

How programs quote what they speak of.  Names are quoted so that a shell would read
them back; other arguments just stand in single quotes, with escapes inside.  Only
printable ASCII characters stand for themselves.
-/

namespace StubAssist
namespace Shell
namespace Program

def escapeLetter? (c : Char) : Option Char :=
  match c.toNat with
  | 7 => some 'a'
  | 8 => some 'b'
  | 9 => some 't'
  | 10 => some 'n'
  | 11 => some 'v'
  | 12 => some 'f'
  | 13 => some 'r'
  | _ => none

def isPrintable (c : Char) : Bool :=
  ' ' ≤ c && c ≤ '~'

def octalDigits (n : Nat) : Text :=
  let digits := Nat.toDigits 8 n
  List.replicate (3 - digits.length) '0' ++ digits

def escaped (c : Char) : Text :=
  '\\' :: match escapeLetter? c with
    | some letter => [letter]
    | none => octalDigits c.toNat

def quote (t : Text) : Text :=
  let shown := fun (c : Char) =>
    if c == '\'' || c == '\\' then ['\\', c] else if isPrintable c then [c] else escaped c
  '\'' :: t.flatMap shown ++ ['\'']

def isPlainInDouble (c : Char) : Bool :=
  c.isAlphanum || List.contains " '%+,-./:]_@".toList c

/-- A text with its single quotes and unprintable characters put outside of the quotes. -/
def insideQuotes : (isEscaping : Bool) → Text → Text
  | _, [] => []
  | isEscaping, c :: rest =>
      if c == '\'' then "'\\''" ++ insideQuotes false rest
      else if isPrintable c then
        let resume : Text := if isEscaping then "''" else []
        resume ++ c :: insideQuotes false rest
      else
        let start : Text := if isEscaping then [] else "'$'"
        start ++ escaped c ++ insideQuotes true rest

/-- What of a name has to be plain for double quotes: a sign that counts in front may be there. -/
def afterSign : Text → Text
  | [] => []
  | c :: rest => if c == '#' || c == '~' then rest else c :: rest

/-- A name in quotes; with a single quote in it, it starts as if its last character came first. -/
def quoteName (t : Text) : Text :=
  let hasQuote := List.contains t '\''
  if hasQuote && (afterSign t).all isPlainInDouble then '"' :: t ++ ['"']
  else
    let isEscaping := hasQuote && !(t.getLast?.map isPrintable).getD true
    '\'' :: insideQuotes isEscaping t ++ ['\'']

def isMisread (t : Text) : Bool :=
  t.isEmpty || t == "\x7b" || t == "\x7d" || t.head? == some '#' || t.head? == some '~' ||
    t.any fun c => !isPrintable c || List.contains " !\"$&()*;<=>[^`|'\\?".toList c

def quoteIfNeeded (t : Text) : Text :=
  if isMisread t then quoteName t else t

def quoteTopic (t : Text) : Text :=
  if List.contains t ':' then quoteName t else quoteIfNeeded t

end Program
end Shell
end StubAssist

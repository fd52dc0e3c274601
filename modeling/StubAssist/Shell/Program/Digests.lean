import StubAssist.Shell.Digest
import StubAssist.Shell.Program

/-!
# Digests of files

Programs that show a digest of each file beside its name, and that read such lines again
to see whether the files are still the same.
-/

namespace StubAssist
namespace Shell
namespace Program

open Activity

structure DigestKind where
  label : Text
  digest : (size : Nat) → Utf8.Bytes → Utf8.Bytes
  size : Nat
  isSized : Bool

namespace DigestKind

def fixed (label : Text) (size : Nat) (digest : Utf8.Bytes → Utf8.Bytes) : DigestKind :=
  ⟨label, fun _ => digest, size, false⟩

def ofMd5 : DigestKind := fixed "MD5" 16 Digest.md5
def ofSha1 : DigestKind := fixed "SHA1" 20 Digest.sha1
def ofSha224 : DigestKind := fixed "SHA224" 28 Digest.sha224
def ofSha256 : DigestKind := fixed "SHA256" 32 Digest.sha256
def ofSha384 : DigestKind := fixed "SHA384" 48 Digest.sha384
def ofSha512 : DigestKind := fixed "SHA512" 64 Digest.sha512
def ofBlake2 : DigestKind := ⟨"BLAKE2b", Digest.blake2, 64, true⟩

def hex (kind : DigestKind) (size : Nat) (t : Text) : Text :=
  Digest.hexText (kind.digest size (Octets.bytes t))

def tag (kind : DigestKind) (size : Nat) : Text :=
  if size == kind.size then kind.label else kind.label ++ '-' :: Text.ofNat (8 * size)

def isHexDigit (c : Char) : Bool :=
  c.isDigit || ('a' ≤ c && c ≤ 'f') || ('A' ≤ c && c ≤ 'F')

def sizeOf? (kind : DigestKind) (digits : Text) : Option Nat :=
  let size := digits.length / 2
  if digits.length % 2 != 0 || !digits.all isHexDigit then none
  else if size == kind.size || (kind.isSized && 0 < size && size ≤ kind.size) then some size
  else none

end DigestKind

namespace Digests

/-!
# Lines with digests
-/

def breakLetter? (c : Char) : Option Char :=
  match c with
  | '\n' => some 'n'
  | '\r' => some 'r'
  | '\\' => some '\\'
  | _ => none

def escapedName (name : Text) : Text :=
  name.flatMap fun c =>
    match breakLetter? c with
    | some letter => ['\\', letter]
    | none => [c]

def unescapedName? : Text → Option Text
  | [] => some []
  | '\\' :: 'n' :: rest => (unescapedName? rest).map ('\n' :: ·)
  | '\\' :: 'r' :: rest => (unescapedName? rest).map ('\r' :: ·)
  | '\\' :: '\\' :: rest => (unescapedName? rest).map ('\\' :: ·)
  | '\\' :: _ => none
  | c :: rest => (unescapedName? rest).map (c :: ·)

structure Layout where
  isTagged : Bool
  isBinary : Bool
  ending : Char
deriving DecidableEq, Repr

/-- A digest beside a name; names that would break the line are escaped, which a
backslash in front of all tells. -/
def Layout.line (layout : Layout) (tag digest name : Text) : Text :=
  let isEscaped := layout.ending == '\n' && name.any fun c => (breakLetter? c).isSome
  let shown := if isEscaped then escapedName name else name
  let mark : Text := if isEscaped then "\\" else []
  let line : Text :=
    if layout.isTagged then tag ++ " (" ++ shown ++ ") = " ++ digest
    else digest ++ (if layout.isBinary then " *" else "  ") ++ shown
  mark ++ line ++ [layout.ending]

/-!
# Reading lines again
-/

structure Expected where
  name : Text
  digest : Text
  isEscaped : Bool
deriving DecidableEq, Repr

def tagged? (kind : DigestKind) (t : Text) : Option (Text × Text) := do
  let rest ← Text.afterPrefix? kind.label t
  let rest := match rest with
    | '-' :: more => if kind.isSized then more.dropWhile Char.isDigit else rest
    | _ => rest
  let rest := match rest with
    | ' ' :: more => more
    | _ => rest
  match rest with
  | '(' :: rest =>
      let fromEnd := rest.reverse
      let after := (fromEnd.takeWhile (· != ')')).reverse
      let name := (fromEnd.drop (after.length + 1)).reverse
      if after.length == rest.length then none
      else
        match after.dropWhile isBlank with
        | '=' :: digits => some (name, digits.dropWhile isBlank)
        | _ => none
  | _ => none

/-- What a line says that begins with the digest; whether the name has just one blank
in front depends on the first such line. -/
def untagged? (kind : DigestKind) (isShort : Option Bool) (t : Text) :
    Option (Text × Text × Option Bool) :=
  let digits := t.takeWhile DigestKind.isHexDigit
  match kind.sizeOf? digits, t.drop digits.length with
  | some _, blank :: rest =>
      if !isBlank blank || rest.isEmpty then none
      else if rest.length == 1 || !(rest.head? == some ' ' || rest.head? == some '*') then
        if isShort == some false then none else some (rest, digits, some true)
      else if isShort == some true then some (rest, digits, isShort)
      else some (rest.drop 1, digits, some false)
  | _, _ => none

def expected? (kind : DigestKind) (isShort : Option Bool) (line : Text) :
    Option (Expected × Option Bool) := do
  let t := line.dropWhile isBlank
  let (t, isEscaped) := match t with
    | '\\' :: rest => (rest, true)
    | _ => (t, false)
  let (name, digest, isShort) ←
    match tagged? kind t with
    | some (name, digest) =>
        if (kind.sizeOf? digest).isSome then some (name, digest, isShort) else none
    | none => untagged? kind isShort t
  let name ← if isEscaped then unescapedName? name else some name
  return (⟨name, digest.map Char.toLower, isEscaped⟩, isShort)

structure Tally where
  formed : Nat
  malformed : Nat
  unread : Nat
  different : Nat
  equal : Nat
deriving DecidableEq, Repr

/-- What is said, and what counts, where digests are compared. -/
structure Strictness where
  isSilent : Bool
  isQuiet : Bool
  isStrict : Bool
  warns : Bool
  ignoresMissing : Bool
deriving DecidableEq, Repr

def compare (kind : DigestKind) (strictness : Strictness) (expected : Expected) (tally : Tally) :
    Activity Tally := do
  let shown :=
    if expected.isEscaped && List.contains expected.name '\n' then '\\' :: escapedName expected.name
    else expected.name
  match ← contents expected.name with
  | .error error =>
      if strictness.ignoresMissing && error == .notFound then return tally
      complain (about expected.name error)
      if !strictness.isSilent then printLine (shown ++ ": FAILED open or read")
      return { tally with unread := tally.unread + 1 }
  | .ok t =>
      if kind.hex (expected.digest.length / 2) t == expected.digest then
        if !strictness.isSilent && !strictness.isQuiet then printLine (shown ++ ": OK")
        return { tally with equal := tally.equal + 1 }
      if !strictness.isSilent then printLine (shown ++ ": FAILED")
      return { tally with different := tally.different + 1 }

def warning (count : Nat) (one many : Text) : Activity Unit := do
  if 0 < count then
    remark ("WARNING: " ++ Text.ofNat count ++ ' ' :: if count == 1 then one else many)

def compareAll (kind : DigestKind) (strictness : Strictness) (operand : Text) : Activity Unit := do
  let topic : Text := if operand == "-" then "'standard input'" else quoteTopic operand
  match ← contents operand with
  | .error error =>
      complain (topic ++ ": " ++ if isReadFailure error then "read error".toList else reason error)
  | .ok t =>
      let mut tally : Tally := ⟨0, 0, 0, 0, 0⟩
      let mut isShort := none
      let mut number := 0
      for line in lines t do
        number := number + 1
        let line := (unended '\r' line).1
        if line.isEmpty || line.head? == some '#' then continue
        match expected? kind isShort line with
        | none =>
            if strictness.warns then
              remark (topic ++ ": " ++ Text.ofNat number ++ ": improperly formatted " ++
                kind.label ++ " checksum line")
            tally := { tally with malformed := tally.malformed + 1 }
        | some (expected, isShortNow) =>
            isShort := isShortNow
            tally ← compare kind strictness expected { tally with formed := tally.formed + 1 }
      if tally.formed == 0 then
        complain (topic ++ ": no properly formatted checksum lines found")
      else
        if !strictness.isSilent then
          warning tally.malformed "line is improperly formatted" "lines are improperly formatted"
          warning tally.unread "listed file could not be read" "listed files could not be read"
          warning tally.different "computed checksum did NOT match"
            "computed checksums did NOT match"
          if strictness.ignoresMissing && tally.equal == 0 then
            remark (topic ++ ": no file was verified")
        let isFine := 0 < tally.equal && tally.different == 0 && tally.unread == 0 &&
          (!strictness.isStrict || tally.malformed == 0)
        if !isFine then setStatus 1

/-!
# Options
-/

def forms (letters : Text) : OptionForms where
  letters := letters
  words := [("binary", 'b', .no), ("check", 'c', .no), ("text", 't', .no), ("warn", 'w', .no),
    ("zero", 'z', .no), ("tag", 'T', .no), ("quiet", 'q', .no), ("status", 's', .no),
    ("strict", 'S', .no), ("ignore-missing", 'i', .no), ("length", 'l', .yes),
    ("algorithm", 'a', .yes), ("untagged", 'U', .no), ("raw", 'r', .no), ("debug", 'd', .no)]
  isOrdered := false

def checkingOptions : List (Char × Text) :=
  [('i', "ignore-missing"), ('s', "status"), ('w', "warn"), ('q', "quiet"), ('S', "strict")]

def strictness (given : Given) : Strictness where
  isSilent := given.has 's'
  isQuiet := given.has 'q'
  isStrict := given.has 'S'
  warns := given.has 'w'
  ignoresMissing := given.has 'i'

def size (kind : DigestKind) (given : Given) : Activity Nat := do
  match given.value? 'l' with
  | none => return kind.size
  | some t =>
      match Text.digitsFrom? 0 t with
      | none => fail 1 ("invalid length: " ++ quote t)
      | some bits =>
          if t.isEmpty then fail 1 ("invalid length: " ++ quote t)
          if 8 * kind.size < bits then
            remark ("invalid length: " ++ quote t)
            fail 1 ("maximum digest length for " ++ quote kind.label ++ " is " ++
              Text.ofNat (8 * kind.size) ++ " bits")
          if bits % 8 != 0 then
            remark ("invalid length: " ++ quote t)
            fail 1 "length is not a multiple of 8"
          return if bits == 0 then kind.size else bits / 8

def run (kind : DigestKind) (isTagged : Bool) (given : Given) : Activity Unit := do
  let size ← size kind given
  let isChecking := given.has 'c'
  let mode := (given.last? "bt").map (·.key)
  if isTagged && mode == some 't' then misuse 1 "--tag does not support --text mode"
  if given.has 'z' && isChecking then
    misuse 1 "the --zero option is not supported when verifying checksums"
  if given.has 'T' && isChecking then
    misuse 1 "the --tag option is meaningless when verifying checksums"
  if mode.isSome && isChecking then
    misuse 1 "the --binary and --text options are meaningless when verifying checksums"
  if isChecking then
    for operand in orInput given.operands do compareAll kind (strictness given) operand
  else
    match checkingOptions.find? fun option => given.has option.1 with
    | some (_, name) =>
        misuse 1 ("the --" ++ name ++ " option is meaningful only when verifying checksums")
    | none => pure ()
    let layout : Layout := ⟨isTagged, mode == some 'b', if given.has 'z' then '\x00' else '\n'⟩
    eachInput about given.operands fun operand t =>
      print (layout.line (kind.tag size) (kind.hex size t) operand)
  checkInput "standard input" given.operands

/-!
# Short sums
-/

def nameAfter (operands : List Text) (operand : Text) : Text :=
  if operands.isEmpty then [] else ' ' :: operand

def padLeft (width : Nat) (filling : Char) (t : Text) : Text :=
  List.replicate (width - t.length) filling ++ t

def rotatingLine (t : Text) : Text :=
  padLeft 5 '0' (Text.ofNat (Digest.rotatingSum (Octets.bytes t))) ++ ' ' ::
    padLeft 5 ' ' (Text.ofNat ((t.length + 1023) / 1024))

def foldedLine (t : Text) : Text :=
  Text.ofNat (Digest.foldedSum (Octets.bytes t)) ++ ' ' :: Text.ofNat ((t.length + 511) / 512)

def crcLine (t : Text) : Text :=
  Text.ofNat (Digest.crc (Octets.bytes t)) ++ ' ' :: Text.ofNat t.length

def showSums (line : Text → Text) (ending : Char) (operands : List Text) : Activity Unit := do
  eachInput about operands fun operand t =>
    print (line t ++ nameAfter operands operand ++ [ending])
  checkInput "standard input" operands

end Digests

def digestProgram (kind : DigestKind) : Program := fun arguments => do
  let letters : Text := if kind.isSized then "bctwzl:" else "bctwz"
  let all := Digests.forms letters
  let words := all.words.filter fun word =>
    !List.contains "laUrd".toList word.2.1 || (kind.isSized && word.2.1 == 'l')
  let given ← given 1 { all with words := words } arguments
  Digests.run kind (given.has 'T') given

def sum : Program := fun arguments => do
  let given ← given 1
    { letters := "rs"
      words := [("sysv", 's', .no)]
      isOrdered := false } arguments
  let isFolded := (given.last? "rs").map (·.key) == some 's'
  Digests.showSums (if isFolded then Digests.foldedLine else Digests.rotatingLine) '\n'
    given.operands

def digestKinds : List (Text × DigestKind) :=
  [("md5", .ofMd5), ("sha1", .ofSha1), ("sha224", .ofSha224), ("sha256", .ofSha256),
    ("sha384", .ofSha384), ("sha512", .ofSha512), ("blake2b", .ofBlake2)]

def cksum : Program := fun arguments => do
  let given ← given 1 (Digests.forms "a:bctl:wz") arguments
  let ending : Char := if given.has 'z' then '\x00' else '\n'
  let chosen : Text := (given.value? 'a').getD "crc"
  if given.has 'l' && chosen != "blake2b" then
    fail 1 "--length is only supported with --algorithm=blake2b"
  if chosen == "crc" && !given.has 'c' then
    Digests.showSums Digests.crcLine ending given.operands
  else if chosen == "bsd" then Digests.showSums Digests.rotatingLine ending given.operands
  else if chosen == "sysv" then Digests.showSums Digests.foldedLine ending given.operands
  else
    match digestKinds.lookup chosen with
    | some kind => Digests.run kind (!given.has 'U' && !given.has 'c') given
    | none =>
        remark ("invalid argument " ++ quote chosen ++ " for '--algorithm'")
        let names : List Text :=
          partsAt ' ' "bsd sysv crc" ++ digestKinds.map (·.1) ++ [("sm3" : Text)]
        writeTo .complaints ("Valid arguments are:\n".toList ++
          names.flatMap fun name => "  - '".toList ++ name ++ ['\'', '\n'])
        hint
        exit 1

def digestPrograms : List (Text × Program) :=
  [("md5sum", digestProgram .ofMd5), ("sha1sum", digestProgram .ofSha1),
    ("sha224sum", digestProgram .ofSha224), ("sha256sum", digestProgram .ofSha256),
    ("sha384sum", digestProgram .ofSha384), ("sha512sum", digestProgram .ofSha512),
    ("b2sum", digestProgram .ofBlake2), ("cksum", cksum), ("sum", sum)]

end Program
end Shell
end StubAssist

import StubAssist.Text.Utf8

/-!
# Octets

Texts whose characters stand for one byte each.  Where texts are handled byte by
byte, a character that takes several bytes is as many of these, and bytes that are
no text at all can be kept too.
-/

namespace StubAssist
namespace Shell
namespace Octets

open Utf8 (Bytes)

def ofBytes (bytes : Bytes) : Text :=
  bytes.map fun byte => Char.ofNat byte.toNat

def bytes (t : Text) : Bytes :=
  t.map fun c => UInt8.ofNat c.toNat

def ofText (t : Text) : Text :=
  ofBytes (Utf8.encode t)

def toText (t : Text) : Text :=
  Utf8.decodeLossy (bytes t)

end Octets
end Shell
end StubAssist

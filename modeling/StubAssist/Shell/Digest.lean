import StubAssist.Text.Utf8

/-!
# Digests

Checksums and digests of bytes.  They work on blocks of bytes, which are taken as words in
one byte order or the other.
-/

namespace StubAssist
namespace Shell
namespace Digest

open Utf8 (Bytes)

/-!
# Words
-/

def bigEndian (bytes : Bytes) : Nat :=
  bytes.foldl (fun n b => 256 * n + b.toNat) 0

def littleEndian (bytes : Bytes) : Nat :=
  bigEndian bytes.reverse

def littleBytes (count n : Nat) : Bytes :=
  (List.range count).map fun i => UInt8.ofNat (n / Nat.pow 256 i % 256)

def bigBytes (count n : Nat) : Bytes :=
  (littleBytes count n).reverse

def chunks {α : Type} (size : Nat) : (fuel : Nat) → List α → List (List α)
  | 0, _ => []
  | _, [] => []
  | fuel + 1, items => items.take size :: chunks size fuel (items.drop size)

/-- The blocks of bytes with a bit after them, and their length in bits in the last bytes. -/
def padded (block lengthSize : Nat) (encode : Nat → Bytes) (bytes : Bytes) : List Bytes :=
  let used := (bytes.length + 1 + lengthSize) % block
  let filling := List.replicate (if used == 0 then 0 else block - used) 0
  let all := bytes ++ 0x80 :: filling ++ encode (8 * bytes.length)
  chunks block (all.length + 1) all

def words32 (value : Bytes → Nat) (block : Bytes) : Array UInt32 :=
  ((chunks 4 block.length block).map fun bytes => UInt32.ofNat (value bytes)).toArray

def words64 (value : Bytes → Nat) (block : Bytes) : Array UInt64 :=
  ((chunks 8 block.length block).map fun bytes => UInt64.ofNat (value bytes)).toArray

def rotateLeft32 (x : UInt32) (count : UInt32) : UInt32 :=
  (x <<< count) ||| (x >>> (32 - count))

def rotateRight32 (x : UInt32) (count : UInt32) : UInt32 :=
  (x >>> count) ||| (x <<< (32 - count))

def rotateRight64 (x : UInt64) (count : UInt64) : UInt64 :=
  (x >>> count) ||| (x <<< (64 - count))

def hexText (bytes : Bytes) : List Char :=
  bytes.flatMap fun b => [Nat.digitChar (b.toNat / 16), Nat.digitChar (b.toNat % 16)]

/-!
# Checksums

Short sums over bytes that tell whether something was changed by accident.
-/

def crcBit (remainder : UInt32) : UInt32 :=
  if remainder >>> 31 == 0 then remainder <<< 1 else (remainder <<< 1) ^^^ 0x04c11db7

def crcByte (remainder : UInt32) (b : UInt8) : UInt32 :=
  (List.range 8).foldl (fun remainder _ => crcBit remainder) (remainder ^^^ (b.toUInt32 <<< 24))

/-- The bytes of a length, the least significant one first, without zeros at the end. -/
def lengthBytes : (fuel : Nat) → Nat → Bytes
  | 0, _ => []
  | fuel + 1, n => if n == 0 then [] else UInt8.ofNat (n % 256) :: lengthBytes fuel (n / 256)

def crc (bytes : Bytes) : Nat :=
  (~~~((bytes ++ lengthBytes 16 bytes.length).foldl crcByte 0)).toNat

def rotatingSum (bytes : Bytes) : Nat :=
  bytes.foldl (fun sum b => ((sum >>> 1) + ((sum &&& 1) <<< 15) + b.toNat) % 65536) 0

def foldedSum (bytes : Bytes) : Nat :=
  let sum := (bytes.foldl (fun sum b => sum + b.toNat) 0) % Nat.pow 2 32
  let folded := sum % 65536 + sum / 65536
  folded % 65536 + folded / 65536

/-!
# A digest of 128 bits

Each block of 64 bytes changes four words in 64 steps.
-/

namespace Md5

def sines : Array UInt32 :=
  #[0xd76aa478, 0xe8c7b756, 0x242070db, 0xc1bdceee, 0xf57c0faf, 0x4787c62a, 0xa8304613, 0xfd469501,
    0x698098d8, 0x8b44f7af, 0xffff5bb1, 0x895cd7be, 0x6b901122, 0xfd987193, 0xa679438e, 0x49b40821,
    0xf61e2562, 0xc040b340, 0x265e5a51, 0xe9b6c7aa, 0xd62f105d, 0x02441453, 0xd8a1e681, 0xe7d3fbc8,
    0x21e1cde6, 0xc33707d6, 0xf4d50d87, 0x455a14ed, 0xa9e3e905, 0xfcefa3f8, 0x676f02d9, 0x8d2a4c8a,
    0xfffa3942, 0x8771f681, 0x6d9d6122, 0xfde5380c, 0xa4beea44, 0x4bdecfa9, 0xf6bb4b60, 0xbebfbc70,
    0x289b7ec6, 0xeaa127fa, 0xd4ef3085, 0x04881d05, 0xd9d4d039, 0xe6db99e5, 0x1fa27cf8, 0xc4ac5665,
    0xf4292244, 0x432aff97, 0xab9423a7, 0xfc93a039, 0x655b59c3, 0x8f0ccc92, 0xffeff47d, 0x85845dd1,
    0x6fa87e4f, 0xfe2ce6e0, 0xa3014314, 0x4e0811a1, 0xf7537e82, 0xbd3af235, 0x2ad7d2bb, 0xeb86d391]

def shifts : Array UInt32 :=
  #[7, 12, 17, 22, 5, 9, 14, 20, 4, 11, 16, 23, 6, 10, 15, 21]

structure State where
  a : UInt32
  b : UInt32
  c : UInt32
  d : UInt32

def start : State :=
  ⟨0x67452301, 0xefcdab89, 0x98badcfe, 0x10325476⟩

def step (block : Array UInt32) (state : State) (i : Nat) : State :=
  let ⟨a, b, c, d⟩ := state
  let (mix, index) : UInt32 × Nat :=
    match i / 16 with
    | 0 => ((b &&& c) ||| (~~~b &&& d), i)
    | 1 => ((d &&& b) ||| (~~~d &&& c), (5 * i + 1) % 16)
    | 2 => (b ^^^ c ^^^ d, (3 * i + 5) % 16)
    | _ => (c ^^^ (b ||| ~~~d), 7 * i % 16)
  let sum := a + mix + sines.getD i 0 + block.getD index 0
  let shift := shifts.getD (4 * (i / 16) + i % 4) 0
  ⟨d, b + rotateLeft32 sum shift, b, c⟩

def absorb (state : State) (block : Bytes) : State :=
  let after := (List.range 64).foldl (step (words32 littleEndian block)) state
  ⟨state.a + after.a, state.b + after.b, state.c + after.c, state.d + after.d⟩

end Md5

def md5 (bytes : Utf8.Bytes) : Utf8.Bytes :=
  let state := (padded 64 8 (littleBytes 8) bytes).foldl Md5.absorb Md5.start
  [state.a, state.b, state.c, state.d].flatMap fun word => littleBytes 4 word.toNat

/-!
# A digest of 160 bits

Each block of 64 bytes is stretched to 80 words, which change five words in as many steps.
-/

namespace Sha1

structure State where
  a : UInt32
  b : UInt32
  c : UInt32
  d : UInt32
  e : UInt32

def start : State :=
  ⟨0x67452301, 0xefcdab89, 0x98badcfe, 0x10325476, 0xc3d2e1f0⟩

def schedule (block : Bytes) : Array UInt32 :=
  (List.range 64).foldl (fun words i =>
    let word := fun (back : Nat) => words.getD (i + 16 - back) 0
    words.push (rotateLeft32 (word 3 ^^^ word 8 ^^^ word 14 ^^^ word 16) 1))
    (words32 bigEndian block)

def step (words : Array UInt32) (state : State) (i : Nat) : State :=
  let ⟨a, b, c, d, e⟩ := state
  let (mix, constant) : UInt32 × UInt32 :=
    match i / 20 with
    | 0 => ((b &&& c) ||| (~~~b &&& d), 0x5a827999)
    | 1 => (b ^^^ c ^^^ d, 0x6ed9eba1)
    | 2 => ((b &&& c) ||| (b &&& d) ||| (c &&& d), 0x8f1bbcdc)
    | _ => (b ^^^ c ^^^ d, 0xca62c1d6)
  ⟨rotateLeft32 a 5 + mix + e + constant + words.getD i 0, a, rotateLeft32 b 30, c, d⟩

def absorb (state : State) (block : Bytes) : State :=
  let after := (List.range 80).foldl (step (schedule block)) state
  ⟨state.a + after.a, state.b + after.b, state.c + after.c, state.d + after.d, state.e + after.e⟩

end Sha1

def sha1 (bytes : Utf8.Bytes) : Utf8.Bytes :=
  let state := (padded 64 8 (bigBytes 8) bytes).foldl Sha1.absorb Sha1.start
  [state.a, state.b, state.c, state.d, state.e].flatMap fun word => bigBytes 4 word.toNat

/-!
# Digests of 224 to 512 bits

A family of digests on eight words of 32 or 64 bits.  Their constants are the first bits
of the fractional parts of the roots of the first prime numbers.
-/

namespace Sha2

def primesFrom : (fuel : Nat) → (found : List Nat) → (candidate : Nat) → List Nat
  | 0, found, _ => found.reverse
  | fuel + 1, found, candidate =>
      if found.any fun p => candidate % p == 0 then primesFrom fuel found (candidate + 1)
      else primesFrom fuel (candidate :: found) (candidate + 1)

def primes : List Nat :=
  primesFrom 420 [] 2

def root (exponent n : Nat) : (bits : Nat) → Nat → Nat
  | 0, found => found
  | bits + 1, found =>
      let next := found + Nat.pow 2 bits
      root exponent n bits (if Nat.pow next exponent ≤ n then next else found)

def rootBits (exponent bits n : Nat) : Nat :=
  root exponent (n * Nat.pow 2 (exponent * bits)) (bits + 8) 0 % Nat.pow 2 bits

def start32 : Array UInt32 :=
  ((primes.take 8).map fun p => UInt32.ofNat (rootBits 2 32 p)).toArray

def start32Short : Array UInt32 :=
  (((primes.drop 8).take 8).map fun p => UInt32.ofNat (rootBits 2 64 p)).toArray

def start64 : Array UInt64 :=
  ((primes.take 8).map fun p => UInt64.ofNat (rootBits 2 64 p)).toArray

def start64Short : Array UInt64 :=
  (((primes.drop 8).take 8).map fun p => UInt64.ofNat (rootBits 2 64 p)).toArray

def constants32 : Array UInt32 :=
  ((primes.take 64).map fun p => UInt32.ofNat (rootBits 3 32 p)).toArray

def constants64 : Array UInt64 :=
  ((primes.take 80).map fun p => UInt64.ofNat (rootBits 3 64 p)).toArray

/-!
# Words of 32 bits
-/

def schedule32 (block : Bytes) : Array UInt32 :=
  (List.range 48).foldl (fun words i =>
    let word := fun (back : Nat) => words.getD (i + 16 - back) 0
    let x := word 15
    let y := word 2
    let small := rotateRight32 x 7 ^^^ rotateRight32 x 18 ^^^ (x >>> 3)
    let great := rotateRight32 y 17 ^^^ rotateRight32 y 19 ^^^ (y >>> 10)
    words.push (word 16 + small + word 7 + great))
    (words32 bigEndian block)

def step32 (words : Array UInt32) (state : Array UInt32) (i : Nat) : Array UInt32 :=
  let get := fun (i : Nat) => state.getD i 0
  let e := get 4
  let a := get 0
  let great := rotateRight32 e 6 ^^^ rotateRight32 e 11 ^^^ rotateRight32 e 25
  let choice := (e &&& get 5) ^^^ (~~~e &&& get 6)
  let first := get 7 + great + choice + constants32.getD i 0 + words.getD i 0
  let small := rotateRight32 a 2 ^^^ rotateRight32 a 13 ^^^ rotateRight32 a 22
  let majority := (a &&& get 1) ^^^ (a &&& get 2) ^^^ (get 1 &&& get 2)
  #[first + small + majority, a, get 1, get 2, get 3 + first, e, get 5, get 6]

def absorb32 (state : Array UInt32) (block : Bytes) : Array UInt32 :=
  let after := (List.range 64).foldl (step32 (schedule32 block)) state
  (state.zip after).map fun (a, b) => a + b

def digest32 (start : Array UInt32) (size : Nat) (bytes : Bytes) : Bytes :=
  let state := (padded 64 8 (bigBytes 8) bytes).foldl absorb32 start
  (state.toList.flatMap fun word => bigBytes 4 word.toNat).take size

/-!
# Words of 64 bits
-/

def schedule64 (block : Bytes) : Array UInt64 :=
  (List.range 64).foldl (fun words i =>
    let word := fun (back : Nat) => words.getD (i + 16 - back) 0
    let x := word 15
    let y := word 2
    let small := rotateRight64 x 1 ^^^ rotateRight64 x 8 ^^^ (x >>> 7)
    let great := rotateRight64 y 19 ^^^ rotateRight64 y 61 ^^^ (y >>> 6)
    words.push (word 16 + small + word 7 + great))
    (words64 bigEndian block)

def step64 (words : Array UInt64) (state : Array UInt64) (i : Nat) : Array UInt64 :=
  let get := fun (i : Nat) => state.getD i 0
  let e := get 4
  let a := get 0
  let great := rotateRight64 e 14 ^^^ rotateRight64 e 18 ^^^ rotateRight64 e 41
  let choice := (e &&& get 5) ^^^ (~~~e &&& get 6)
  let first := get 7 + great + choice + constants64.getD i 0 + words.getD i 0
  let small := rotateRight64 a 28 ^^^ rotateRight64 a 34 ^^^ rotateRight64 a 39
  let majority := (a &&& get 1) ^^^ (a &&& get 2) ^^^ (get 1 &&& get 2)
  #[first + small + majority, a, get 1, get 2, get 3 + first, e, get 5, get 6]

def absorb64 (state : Array UInt64) (block : Bytes) : Array UInt64 :=
  let after := (List.range 80).foldl (step64 (schedule64 block)) state
  (state.zip after).map fun (a, b) => a + b

def digest64 (start : Array UInt64) (size : Nat) (bytes : Bytes) : Bytes :=
  let state := (padded 128 16 (bigBytes 16) bytes).foldl absorb64 start
  (state.toList.flatMap fun word => bigBytes 8 word.toNat).take size

end Sha2

def sha224 : Utf8.Bytes → Utf8.Bytes := Sha2.digest32 Sha2.start32Short 28

def sha256 : Utf8.Bytes → Utf8.Bytes := Sha2.digest32 Sha2.start32 32

def sha384 : Utf8.Bytes → Utf8.Bytes := Sha2.digest64 Sha2.start64Short 48

def sha512 : Utf8.Bytes → Utf8.Bytes := Sha2.digest64 Sha2.start64 64

/-!
# A digest of up to 512 bits

Each block of 128 bytes is mixed into sixteen words in twelve rounds.
-/

namespace Blake2

def orders : Array (Array Nat) :=
  #[#[0, 1, 2, 3, 4, 5, 6, 7, 8, 9, 10, 11, 12, 13, 14, 15],
    #[14, 10, 4, 8, 9, 15, 13, 6, 1, 12, 0, 2, 11, 7, 5, 3],
    #[11, 8, 12, 0, 5, 2, 15, 13, 10, 14, 3, 6, 7, 1, 9, 4],
    #[7, 9, 3, 1, 13, 12, 11, 14, 2, 6, 5, 10, 4, 0, 15, 8],
    #[9, 0, 5, 7, 2, 4, 10, 15, 14, 1, 11, 12, 6, 8, 3, 13],
    #[2, 12, 6, 10, 0, 11, 8, 3, 4, 13, 7, 5, 15, 14, 1, 9],
    #[12, 5, 1, 15, 14, 13, 4, 10, 0, 7, 6, 3, 9, 2, 8, 11],
    #[13, 11, 7, 14, 12, 1, 3, 9, 5, 0, 15, 4, 8, 6, 2, 10],
    #[6, 15, 14, 9, 11, 3, 0, 8, 12, 2, 13, 7, 1, 4, 10, 5],
    #[10, 2, 8, 4, 7, 6, 1, 5, 15, 11, 9, 14, 3, 12, 13, 0]]

def quarters : List (Nat × Nat × Nat × Nat) :=
  [(0, 4, 8, 12), (1, 5, 9, 13), (2, 6, 10, 14), (3, 7, 11, 15),
    (0, 5, 10, 15), (1, 6, 11, 12), (2, 7, 8, 13), (3, 4, 9, 14)]

def mix (words : Array UInt64) (quarter : Nat × Nat × Nat × Nat) (x y : UInt64) : Array UInt64 :=
  let (i, j, k, l) := quarter
  let get := fun (i : Nat) => words.getD i 0
  let a := get i + get j + x
  let d := rotateRight64 (get l ^^^ a) 32
  let c := get k + d
  let b := rotateRight64 (get j ^^^ c) 24
  let a := a + b + y
  let d := rotateRight64 (d ^^^ a) 16
  let c := c + d
  let b := rotateRight64 (b ^^^ c) 63
  (((words.setIfInBounds i a).setIfInBounds j b).setIfInBounds k c).setIfInBounds l d

def round (block : Array UInt64) (words : Array UInt64) (number : Nat) : Array UInt64 :=
  let order := orders.getD (number % 10) #[]
  (quarters.zip (List.range 8)).foldl (fun words (quarter, i) =>
    let word := fun (i : Nat) => block.getD (order.getD i 0) 0
    mix words quarter (word (2 * i)) (word (2 * i + 1))) words

/-- Mixes a block in after `count` bytes in all, the last one in a way of its own. -/
def absorb (state : Array UInt64) (block : Bytes) (count : Nat) (isLast : Bool) : Array UInt64 :=
  let size := UInt64.ofNat count
  let words := (state ++ Sha2.start64).modify 12 (· ^^^ size)
  let words := if isLast then words.modify 14 (~~~·) else words
  let filled := block ++ List.replicate (128 - block.length) 0
  let after := (List.range 12).foldl (round (words64 littleEndian filled)) words
  ((List.range 8).map fun i =>
    state.getD i 0 ^^^ after.getD i 0 ^^^ after.getD (i + 8) 0).toArray

def absorbAll : (fuel : Nat) → (count : Nat) → Array UInt64 → Bytes → Array UInt64
  | 0, _, state, _ => state
  | fuel + 1, count, state, bytes =>
      if bytes.length ≤ 128 then absorb state bytes (count + bytes.length) true
      else
        absorbAll fuel (count + 128) (absorb state (bytes.take 128) (count + 128) false)
          (bytes.drop 128)

end Blake2

def blake2 (size : Nat) (bytes : Utf8.Bytes) : Utf8.Bytes :=
  let parameters := UInt64.ofNat (0x01010000 + size)
  let state := Sha2.start64.modify 0 (· ^^^ parameters)
  let after := Blake2.absorbAll (bytes.length / 128 + 2) 0 state bytes
  (after.toList.flatMap fun word => littleBytes 8 word.toNat).take size

end Digest
end Shell
end StubAssist

import HardenAudit.Program.Basic

/-!
# Digests of bytes

A message is padded to whole blocks, and each block is stirred into a state of a few words.  What is
left of the state at the end is the digest.  Words are bit vectors, so one definition serves for
both widths of the younger family.
-/

namespace HardenAudit.Program.Digest

open Text (Bytes)

/-! ## Words -/

/-- In which order the bytes of a word are written. -/
inductive Endian where
  | big
  | little
  deriving DecidableEq, Repr, Inhabited

/-- The word that some bytes are. -/
def Endian.word (e : Endian) (w : Nat) (bytes : Bytes) : BitVec w :=
  let bytes := match e with
    | .big => bytes
    | .little => bytes.reverse
  BitVec.ofNat w (bytes.foldl (fun n b => n * 256 + b.toNat) 0)

/-- The bytes of a number. -/
def Endian.bytes (e : Endian) (count n : Nat) : Bytes :=
  let low := (List.range count).map fun i => (n / Nat.pow 256 i % 256).toUInt8
  match e with
  | .big => low.reverse
  | .little => low

/-- A message with a bit behind it, zeros, and its length in bits, so that it fills its blocks. -/
def padded (e : Endian) (block : Nat) (message : Bytes) : Bytes :=
  let field := block / 8
  let zeros := (2 * block - 1 - field - message.length % block) % block
  message ++ 0x80 :: List.replicate zeros 0 ++ e.bytes field (8 * message.length)

/-- The words of the blocks of a message. -/
def blockWords (e : Endian) (w block : Nat) (message : Bytes) : List (List (BitVec w)) :=
  let all := padded e block message
  (rowsOf block all.length all).map fun b => (rowsOf (w / 8) b.length b).map (e.word w)

/-- The digits of a state. -/
def written (e : Endian) {w : Nat} (state : List (BitVec w)) : String :=
  let digits (b : UInt8) : List Char :=
    [Nat.digitChar (b.toNat / 16), Nat.digitChar (b.toNat % 16)]
  String.ofList (state.flatMap fun x => (e.bytes (w / 8) x.toNat).flatMap digits)

/-- Sums of the words of two states. -/
def added {w : Nat} (a b : List (BitVec w)) : List (BitVec w) := List.zipWith (· + ·) a b

/-! ## The oldest one -/

/-- The words that are added in the steps of a block. -/
def sineWords : List Nat :=
  [0xd76aa478, 0xe8c7b756, 0x242070db, 0xc1bdceee, 0xf57c0faf, 0x4787c62a, 0xa8304613, 0xfd469501,
   0x698098d8, 0x8b44f7af, 0xffff5bb1, 0x895cd7be, 0x6b901122, 0xfd987193, 0xa679438e, 0x49b40821,
   0xf61e2562, 0xc040b340, 0x265e5a51, 0xe9b6c7aa, 0xd62f105d, 0x02441453, 0xd8a1e681, 0xe7d3fbc8,
   0x21e1cde6, 0xc33707d6, 0xf4d50d87, 0x455a14ed, 0xa9e3e905, 0xfcefa3f8, 0x676f02d9, 0x8d2a4c8a,
   0xfffa3942, 0x8771f681, 0x6d9d6122, 0xfde5380c, 0xa4beea44, 0x4bdecfa9, 0xf6bb4b60, 0xbebfbc70,
   0x289b7ec6, 0xeaa127fa, 0xd4ef3085, 0x04881d05, 0xd9d4d039, 0xe6db99e5, 0x1fa27cf8, 0xc4ac5665,
   0xf4292244, 0x432aff97, 0xab9423a7, 0xfc93a039, 0x655b59c3, 0x8f0ccc92, 0xffeff47d, 0x85845dd1,
   0x6fa87e4f, 0xfe2ce6e0, 0xa3014314, 0x4e0811a1, 0xf7537e82, 0xbd3af235, 0x2ad7d2bb, 0xeb86d391]

/-- By how much words are turned in the steps of a block. -/
def turns : List Nat :=
  let row (xs : List Nat) : List Nat := xs ++ xs ++ xs ++ xs
  row [7, 12, 17, 22] ++ row [5, 9, 14, 20] ++ row [4, 11, 16, 23] ++ row [6, 10, 15, 21]

/-- A step: which words are mixed, and which word of the block is taken. -/
def mixFour (i : Nat) (b c d : BitVec 32) : BitVec 32 × Nat :=
  if i < 16 then ((b &&& c) ||| (~~~b &&& d), i)
  else if i < 32 then ((d &&& b) ||| (~~~d &&& c), (5 * i + 1) % 16)
  else if i < 48 then (b ^^^ c ^^^ d, (3 * i + 5) % 16)
  else (c ^^^ (b ||| ~~~d), 7 * i % 16)

/-- Stirs a block into a state of four words. -/
def stirFour (state block : List (BitVec 32)) : List (BitVec 32) :=
  let words := block.toArray
  let steps := (List.range 64).zip (turns.zip sineWords)
  let after := steps.foldl (fun (s : List (BitVec 32)) (i, turn, sine) =>
    match s with
    | [a, b, c, d] =>
      let (f, g) := mixFour i b c d
      let sum := a + f + BitVec.ofNat 32 sine + (words[g]?).getD 0
      [d, b + sum.rotateLeft turn, b, c]
    | s => s) state
  added state after

/-- The digest of four words. -/
def md5 (message : Bytes) : String :=
  written .little ((blockWords .little 32 64 message).foldl stirFour
    [0x67452301, 0xefcdab89, 0x98badcfe, 0x10325476])

/-! ## The older one -/

/-- The words of a block, and those that follow from them, the last one first. -/
def spreadFive : (count : Nat) → List (BitVec 32) → List (BitVec 32)
  | 0, ws => ws
  | count + 1, ws =>
    let at_ (i : Nat) : BitVec 32 := (ws[i]?).getD 0
    spreadFive count ((at_ 2 ^^^ at_ 7 ^^^ at_ 13 ^^^ at_ 15).rotateLeft 1 :: ws)

/-- Stirs a block into a state of five words. -/
def stirFive (state block : List (BitVec 32)) : List (BitVec 32) :=
  let words := (spreadFive 64 block.reverse).reverse
  let after := ((List.range 80).zip words).foldl (fun (s : List (BitVec 32)) (i, word) =>
    match s with
    | [a, b, c, d, e] =>
      let (f, k) : BitVec 32 × BitVec 32 :=
        if i < 20 then ((b &&& c) ||| (~~~b &&& d), 0x5a827999)
        else if i < 40 then (b ^^^ c ^^^ d, 0x6ed9eba1)
        else if i < 60 then ((b &&& c) ||| (b &&& d) ||| (c &&& d), 0x8f1bbcdc)
        else (b ^^^ c ^^^ d, 0xca62c1d6)
      [a.rotateLeft 5 + f + e + k + word, a, b.rotateLeft 30, c, d]
    | s => s) state
  added state after

/-- The digest of five words. -/
def sha1 (message : Bytes) : String :=
  written .big ((blockWords .big 32 64 message).foldl stirFive
    [0x67452301, 0xefcdab89, 0x98badcfe, 0x10325476, 0xc3d2e1f0])

/-! ## The younger family -/

/-- The first prime numbers. -/
def primes : List Nat :=
  ((List.range 410).drop 2).filter fun n => (List.range n).all fun d => d < 2 || n % d != 0

/-- The largest number whose power is not above a given one, bit by bit from above. -/
def root (power n : Nat) : (bits : Nat) → (found : Nat) → Nat
  | 0, found => found
  | bits + 1, found =>
    let more := found + Nat.pow 2 bits
    root power n bits (if Nat.pow more power ≤ n then more else found)

/-- The first bits behind the point of the root of a number. -/
def rootBits (w power n : Nat) : BitVec w :=
  BitVec.ofNat w (root power (n * Nat.pow 2 (w * power)) (w + 6) 0)

/-- One of the family: the width of its words, the number of its steps, and by how much words are
turned in sums; the last number of the second two is by how much they are moved. -/
structure Family where
  width : Nat
  steps : Nat
  upper : Nat × Nat × Nat
  lower : Nat × Nat × Nat
  spread : Nat × Nat × Nat
  spreadLate : Nat × Nat × Nat

namespace Family

/-- The one with words of 32 bits. -/
def short : Family :=
  { width := 32, steps := 64, upper := (2, 13, 22), lower := (6, 11, 25), spread := (7, 18, 3),
    spreadLate := (17, 19, 10) }

/-- The one with words of 64 bits. -/
def long : Family :=
  { width := 64, steps := 80, upper := (28, 34, 39), lower := (14, 18, 41), spread := (1, 8, 7),
    spreadLate := (19, 61, 6) }

/-- A word turned in three ways. -/
def turned {w : Nat} (by_ : Nat × Nat × Nat) (x : BitVec w) : BitVec w :=
  x.rotateRight by_.1 ^^^ x.rotateRight by_.2.1 ^^^ x.rotateRight by_.2.2

/-- A word turned in two ways and moved in one. -/
def moved {w : Nat} (by_ : Nat × Nat × Nat) (x : BitVec w) : BitVec w :=
  x.rotateRight by_.1 ^^^ x.rotateRight by_.2.1 ^^^ (x >>> by_.2.2)

/-- The words of a block, and those that follow from them, the last one first. -/
def extend (f : Family) : (count : Nat) → List (BitVec f.width) → List (BitVec f.width)
  | 0, ws => ws
  | count + 1, ws =>
    let at_ (i : Nat) : BitVec f.width := (ws[i]?).getD 0
    let new := moved f.spreadLate (at_ 1) + at_ 6 + moved f.spread (at_ 14) + at_ 15
    f.extend count (new :: ws)

/-- The words that are added in the steps of a block. -/
def roots (f : Family) : List (BitVec f.width) := (primes.take f.steps).map (rootBits f.width 3)

/-- Stirs a block into a state of eight words. -/
def stir (f : Family) (roots : List (BitVec f.width)) (state block : List (BitVec f.width)) :
    List (BitVec f.width) :=
  let words := (f.extend (f.steps - 16) block.reverse).reverse
  let after := (words.zip roots).foldl (fun (s : List (BitVec f.width)) (word, k) =>
    match s with
    | [a, b, c, d, e, g, h, i] =>
      let one := i + turned f.lower e + ((e &&& g) ^^^ (~~~e &&& h)) + k + word
      let two := turned f.upper a + ((a &&& b) ^^^ (a &&& c) ^^^ (b &&& c))
      [one + two, a, b, c, d + one, e, g, h]
    | s => s) state
  added state after

/-- The digest from a state, of which only the first words are kept. -/
def digest (f : Family) (start : List (BitVec f.width)) (kept : Nat) (message : Bytes) : String :=
  let blocks := blockWords .big f.width (2 * f.width) message
  written .big ((blocks.foldl (f.stir f.roots) start).take kept)

end Family

/-- The digest of 256 bits. -/
def sha256 : Bytes → String :=
  Family.short.digest ((primes.take 8).map (rootBits 32 2)) 8

/-- The digest of 224 bits, which starts with the second halves of the roots of later primes. -/
def sha224 : Bytes → String :=
  Family.short.digest ((primes.drop 8 |>.take 8).map fun p => (rootBits 64 2 p).setWidth 32) 7

/-- The digest of 512 bits. -/
def sha512 : Bytes → String :=
  Family.long.digest ((primes.take 8).map (rootBits 64 2)) 8

/-- The digest of 384 bits. -/
def sha384 : Bytes → String :=
  Family.long.digest ((primes.drop 8 |>.take 8).map (rootBits 64 2)) 6

/-! ## Sums -/

/-- The remainder after one more bit, the highest first. -/
def crcBit (r : BitVec 32) : BitVec 32 :=
  if r.msb then (r <<< 1) ^^^ 0x04c11db7 else r <<< 1

/-- The remainder after one more byte. -/
def crcByte (r : BitVec 32) (b : UInt8) : BitVec 32 :=
  (List.range 8).foldl (fun r _ => crcBit r) (r ^^^ (BitVec.ofNat 32 b.toNat <<< 24))

/-- The bytes of a length, the lowest first, as many as needed. -/
def lengthBytes (n : Nat) : Bytes := (Endian.little.bytes 8 n).reverse.dropWhile (· == 0) |>.reverse

/-- The remainder of a message and its length, with all bits turned over. -/
def crc (message : Bytes) : Nat :=
  (~~~(message ++ lengthBytes message.length).foldl crcByte 0).toNat

/-- The sum of a message, turned by a bit before each byte. -/
def turnedSum (message : Bytes) : Nat :=
  message.foldl (fun n b => (n / 2 + n % 2 * 0x8000 + b.toNat) % 0x10000) 0

/-- The sum of a message, with what does not fit added to the rest. -/
def foldedSum (message : Bytes) : Nat :=
  let sum := message.foldl (fun n b => n + b.toNat) 0 % 0x100000000
  let once := sum % 0x10000 + sum / 0x10000
  once % 0x10000 + once / 0x10000

end HardenAudit.Program.Digest

/-!
# The SHA-256 digest

The digest of a row of bytes: the bytes are filled up to whole blocks of sixty-four, each block is
expanded to sixty-four words, and eight words of state are stirred once with each of them.

## Main definitions

* `Sha256.blocks`: the filled up bytes, as blocks of sixteen words.
* `Sha256.compress`: the state after one more block.
* `Sha256.digest`: the thirty-two bytes of the digest.
* `Sha256.hexDigest`: the digest as text.
-/

namespace UsageLedger.Sha256

/-- The constants of the sixty-four rounds: the first thirty-two bits of the fractional parts of the
cube roots of the first sixty-four primes. -/
def roundConstants : List UInt32 :=
  [0x428a2f98, 0x71374491, 0xb5c0fbcf, 0xe9b5dba5, 0x3956c25b, 0x59f111f1, 0x923f82a4, 0xab1c5ed5,
   0xd807aa98, 0x12835b01, 0x243185be, 0x550c7dc3, 0x72be5d74, 0x80deb1fe, 0x9bdc06a7, 0xc19bf174,
   0xe49b69c1, 0xefbe4786, 0x0fc19dc6, 0x240ca1cc, 0x2de92c6f, 0x4a7484aa, 0x5cb0a9dc, 0x76f988da,
   0x983e5152, 0xa831c66d, 0xb00327c8, 0xbf597fc7, 0xc6e00bf3, 0xd5a79147, 0x06ca6351, 0x14292967,
   0x27b70a85, 0x2e1b2138, 0x4d2c6dfc, 0x53380d13, 0x650a7354, 0x766a0abb, 0x81c2c92e, 0x92722c85,
   0xa2bfe8a1, 0xa81a664b, 0xc24b8b70, 0xc76c51a3, 0xd192e819, 0xd6990624, 0xf40e3585, 0x106aa070,
   0x19a4c116, 0x1e376c08, 0x2748774c, 0x34b0bcb5, 0x391c0cb3, 0x4ed8aa4a, 0x5b9cca4f, 0x682e6ff3,
   0x748f82ee, 0x78a5636f, 0x84c87814, 0x8cc70208, 0x90befffa, 0xa4506ceb, 0xbef9a3f7, 0xc67178f2]

/-- The eight words of state. -/
structure State where
  /-- The first word. -/
  a : UInt32
  /-- The second word. -/
  b : UInt32
  /-- The third word. -/
  c : UInt32
  /-- The fourth word. -/
  d : UInt32
  /-- The fifth word. -/
  e : UInt32
  /-- The sixth word. -/
  f : UInt32
  /-- The seventh word. -/
  g : UInt32
  /-- The eighth word. -/
  h : UInt32

namespace State

/-- The state before the first block: the first thirty-two bits of the fractional parts of the
square roots of the first eight primes. -/
def initial : State :=
  ⟨0x6a09e667, 0xbb67ae85, 0x3c6ef372, 0xa54ff53a, 0x510e527f, 0x9b05688c, 0x1f83d9ab, 0x5be0cd19⟩

/-- The words of a state, first word first. -/
def words (s : State) : List UInt32 :=
  [s.a, s.b, s.c, s.d, s.e, s.f, s.g, s.h]

/-- Two states, added word by word. -/
def add (s t : State) : State :=
  ⟨s.a + t.a, s.b + t.b, s.c + t.c, s.d + t.d, s.e + t.e, s.f + t.f, s.g + t.g, s.h + t.h⟩

end State

/-- A word turned to the right by `n` bits. -/
def rotate (x : UInt32) (n : UInt32) : UInt32 :=
  (x >>> n) ||| (x <<< (32 - n))

/-- One round: the state is stirred with a word and the constant of the round. -/
def round (s : State) (word constant : UInt32) : State :=
  let sum1 := rotate s.e 6 ^^^ rotate s.e 11 ^^^ rotate s.e 25
  let choice := (s.e &&& s.f) ^^^ (~~~ s.e &&& s.g)
  let t1 := s.h + sum1 + choice + constant + word
  let sum0 := rotate s.a 2 ^^^ rotate s.a 13 ^^^ rotate s.a 22
  let majority := (s.a &&& s.b) ^^^ (s.a &&& s.c) ^^^ (s.b &&& s.c)
  ⟨t1 + sum0 + majority, s.a, s.b, s.c, s.d + t1, s.e, s.f, s.g⟩

/-- One more word of a block's schedule, made of four of the words before it. -/
def nextWord (words : Array UInt32) : UInt32 :=
  let before := fun back => words.getD (words.size - back) 0
  let x := before 15
  let y := before 2
  let sigma0 := rotate x 7 ^^^ rotate x 18 ^^^ (x >>> 3)
  let sigma1 := rotate y 17 ^^^ rotate y 19 ^^^ (y >>> 10)
  before 16 + sigma0 + before 7 + sigma1

/-- A block of sixteen words, expanded by `n` words. -/
def schedule : Nat → Array UInt32 → Array UInt32
  | 0, words => words
  | n + 1, words => schedule n (words.push (nextWord words))

/-- The state after one more block of sixteen words. -/
def compress (s : State) (block : List UInt32) : State :=
  let words := (schedule 48 block.toArray).toList
  s.add ((words.zip roundConstants).foldl (fun t (word, constant) => round t word constant) s)

/-- The words that a row of bytes forms, four bytes to a word, first byte highest. -/
def wordsOfBytes : List UInt8 → List UInt32
  | b0 :: b1 :: b2 :: b3 :: bs =>
    ((b0.toUInt32 <<< 24) ||| (b1.toUInt32 <<< 16) ||| (b2.toUInt32 <<< 8) ||| b3.toUInt32)
      :: wordsOfBytes bs
  | _ => []

/-- The four bytes of a word, highest first. -/
def bytesOfWord (w : UInt32) : List UInt8 :=
  [(w >>> 24).toUInt8, (w >>> 16).toUInt8, (w >>> 8).toUInt8, w.toUInt8]

/-- The last `n` bytes of a number, highest first. -/
def lastBytes : Nat → Nat → List UInt8
  | 0, _ => []
  | n + 1, value => lastBytes n (value / 256) ++ [value.toUInt8]

/-- A row of bytes filled up to whole blocks: a bit, zeros, and the number of bits in eight
bytes. -/
def padding (bytes : List UInt8) : List UInt8 :=
  let length := bytes.length
  bytes ++ 0x80 :: List.replicate ((119 - length % 64) % 64) 0 ++ lastBytes 8 (8 * length)

/-- A row of words cut into blocks of sixteen. -/
def cut (words : List UInt32) : List (List UInt32) :=
  if words.length < 16 then [] else words.take 16 :: cut (words.drop 16)
termination_by words.length

/-- The blocks of a row of bytes. -/
def blocks (bytes : List UInt8) : List (List UInt32) :=
  cut (wordsOfBytes (padding bytes))

/-- The thirty-two bytes of the digest. -/
def digest (bytes : List UInt8) : List UInt8 :=
  ((blocks bytes).foldl compress State.initial).words.flatMap bytesOfWord

/-- The two hexadecimal digits of a byte. -/
def hexByte (b : UInt8) : List Char :=
  [(b.toNat / 16).digitChar, (b.toNat % 16).digitChar]

/-- The digest as text: sixty-four hexadecimal digits. -/
def hexDigest (bytes : List UInt8) : String :=
  String.ofList ((digest bytes).flatMap hexByte)

end UsageLedger.Sha256

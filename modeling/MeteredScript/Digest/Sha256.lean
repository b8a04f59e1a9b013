/-!
# SHA-256

The secure hash of FIPS 180-4 with 256 bits. A message is padded to whole
blocks of 64 bytes. Each block is expanded to 64 words, and each word drives
one round on a state of eight words; the state after the last block is the
digest.
-/

namespace MeteredScript.Sha256

/-- **The state** between two rounds. -/
structure State where
  a : UInt32
  b : UInt32
  c : UInt32
  d : UInt32
  e : UInt32
  f : UInt32
  g : UInt32
  h : UInt32
  deriving DecidableEq, Repr

/-- The state before the first block: the first bits of the fractional parts
of the square roots of the first eight primes. -/
def State.initial : State :=
  ⟨0x6a09e667, 0xbb67ae85, 0x3c6ef372, 0xa54ff53a,
    0x510e527f, 0x9b05688c, 0x1f83d9ab, 0x5be0cd19⟩

/-- The constants of the rounds: the first bits of the fractional parts of the
cube roots of the first 64 primes. -/
def roundConstants : List UInt32 :=
  [0x428a2f98, 0x71374491, 0xb5c0fbcf, 0xe9b5dba5, 0x3956c25b, 0x59f111f1,
   0x923f82a4, 0xab1c5ed5, 0xd807aa98, 0x12835b01, 0x243185be, 0x550c7dc3,
   0x72be5d74, 0x80deb1fe, 0x9bdc06a7, 0xc19bf174, 0xe49b69c1, 0xefbe4786,
   0x0fc19dc6, 0x240ca1cc, 0x2de92c6f, 0x4a7484aa, 0x5cb0a9dc, 0x76f988da,
   0x983e5152, 0xa831c66d, 0xb00327c8, 0xbf597fc7, 0xc6e00bf3, 0xd5a79147,
   0x06ca6351, 0x14292967, 0x27b70a85, 0x2e1b2138, 0x4d2c6dfc, 0x53380d13,
   0x650a7354, 0x766a0abb, 0x81c2c92e, 0x92722c85, 0xa2bfe8a1, 0xa81a664b,
   0xc24b8b70, 0xc76c51a3, 0xd192e819, 0xd6990624, 0xf40e3585, 0x106aa070,
   0x19a4c116, 0x1e376c08, 0x2748774c, 0x34b0bcb5, 0x391c0cb3, 0x4ed8aa4a,
   0x5b9cca4f, 0x682e6ff3, 0x748f82ee, 0x78a5636f, 0x84c87814, 0x8cc70208,
   0x90befffa, 0xa4506ceb, 0xbef9a3f7, 0xc67178f2]

/-- A word turned to the right. -/
def rotateRight (x : UInt32) (n : UInt32) : UInt32 := (x >>> n) ||| (x <<< (32 - n))

/-- One round, driven by the sum of a round constant and a word. -/
def State.round (s : State) (constant word : UInt32) : State :=
  let sum₁ := rotateRight s.e 6 ^^^ rotateRight s.e 11 ^^^ rotateRight s.e 25
  let choice := (s.e &&& s.f) ^^^ ((~~~ s.e) &&& s.g)
  let first := s.h + sum₁ + choice + constant + word
  let sum₀ := rotateRight s.a 2 ^^^ rotateRight s.a 13 ^^^ rotateRight s.a 22
  let majority := (s.a &&& s.b) ^^^ (s.a &&& s.c) ^^^ (s.b &&& s.c)
  ⟨first + sum₀ + majority, s.a, s.b, s.c, s.d + first, s.e, s.f, s.g⟩

/-- Two states added word by word. -/
def State.add (s t : State) : State :=
  ⟨s.a + t.a, s.b + t.b, s.c + t.c, s.d + t.d, s.e + t.e, s.f + t.f, s.g + t.g, s.h + t.h⟩

/-- The words of a state. -/
def State.words (s : State) : List UInt32 := [s.a, s.b, s.c, s.d, s.e, s.f, s.g, s.h]

/-- The word that follows the words of a schedule. -/
def nextWord (w : Array UInt32) : UInt32 :=
  let t := w.size
  let x := w.getD (t - 15) 0
  let y := w.getD (t - 2) 0
  let s₀ := rotateRight x 7 ^^^ rotateRight x 18 ^^^ (x >>> 3)
  let s₁ := rotateRight y 17 ^^^ rotateRight y 19 ^^^ (y >>> 10)
  w.getD (t - 16) 0 + s₀ + w.getD (t - 7) 0 + s₁

/-- A schedule with `count` more words. -/
def extendSchedule : (count : Nat) → Array UInt32 → Array UInt32
  | 0, w => w
  | count + 1, w => extendSchedule count (w.push (nextWord w))

/-- The byte at a position, as a word. There are zeros after the end. -/
def byteAt (bytes : ByteArray) (i : Nat) : UInt32 :=
  if h : i < bytes.size then bytes[i].toUInt32 else 0

/-- The word that four bytes make, the most significant byte first. -/
def wordAt (bytes : ByteArray) (i : Nat) : UInt32 :=
  (byteAt bytes i <<< 24) ||| (byteAt bytes (i + 1) <<< 16)
    ||| (byteAt bytes (i + 2) <<< 8) ||| byteAt bytes (i + 3)

/-- The 64 words of the block that starts at a byte. -/
def schedule (bytes : ByteArray) (start : Nat) : Array UInt32 :=
  extendSchedule 48 ((Array.range 16).map fun i => wordAt bytes (start + 4 * i))

/-- The state after the block that starts at a byte. -/
def compress (bytes : ByteArray) (s : State) (start : Nat) : State :=
  s.add ((roundConstants.zip (schedule bytes start).toList).foldl
    (fun t (constant, word) => t.round constant word) s)

/-- The bytes of a number, most significant first. -/
def bigEndian (size n : Nat) : List UInt8 :=
  (List.range size).reverse.map fun i => UInt8.ofNat ((n >>> (8 * i)) % 256)

/-- A message with a one bit, zeros up to eight bytes before the end of a
block, and its length in bits. -/
def pad (message : ByteArray) : ByteArray :=
  let zeros := (119 - message.size % 64) % 64
  message ++ ⟨(0x80 :: List.replicate zeros 0 ++ bigEndian 8 (8 * message.size)).toArray⟩

/-- The state after the last block of a message. -/
def finalState (message : ByteArray) : State :=
  let bytes := pad message
  (List.range (bytes.size / 64)).foldl (fun s i => compress bytes s (64 * i)) .initial

/-- A digit of hexadecimal notation. -/
def hexDigit (n : Nat) : Char := "0123456789abcdef".toList.getD n '0'

/-- A word in eight hexadecimal digits. -/
def hexWord (w : UInt32) : List Char :=
  (List.range 8).reverse.map fun i => hexDigit ((w.toNat >>> (4 * i)) % 16)

/-- **The digest of a message**, in 64 hexadecimal digits. -/
def hex (message : ByteArray) : String :=
  String.ofList ((finalState message).words.flatMap hexWord)

end MeteredScript.Sha256

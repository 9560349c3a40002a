/-
The SHA-2 digests with 32-bit and 64-bit words.

Both word sizes run the same rounds: a `Family` holds what differs, the round constants and the
rotation amounts.  A message is padded to whole blocks of sixteen words (`pad`), each block is
stretched by a sliding window of sixteen words and mixed into the eight working words (`compress`),
and the words after the last block are the digest.  `length_sha256`, `length_sha384` and
`length_sha512` give the digests' sizes.
-/

namespace TokenGate.Hash

/-- The eight working words. -/
structure Words (w : Nat) where
  a : BitVec w
  b : BitVec w
  c : BitVec w
  d : BitVec w
  e : BitVec w
  f : BitVec w
  g : BitVec w
  h : BitVec w
  deriving DecidableEq

/-- What one word size fixes: its round constants and the amounts of its four mixing functions,
three rotations for the two large ones, two rotations and a shift for the two small ones. -/
structure Family (w : Nat) where
  constants : List (BitVec w)
  largeA : Nat × Nat × Nat
  largeE : Nat × Nat × Nat
  smallEarly : Nat × Nat × Nat
  smallLate : Nat × Nat × Nat

variable {w : Nat}

/-! ### Rounds -/

/-- The exclusive sum of three rotations. -/
def rotations (r : Nat × Nat × Nat) (x : BitVec w) : BitVec w :=
  x.rotateRight r.1 ^^^ x.rotateRight r.2.1 ^^^ x.rotateRight r.2.2

/-- The exclusive sum of two rotations and a shift. -/
def rotationsShift (r : Nat × Nat × Nat) (x : BitVec w) : BitVec w :=
  x.rotateRight r.1 ^^^ x.rotateRight r.2.1 ^^^ (x >>> r.2.2)

/-- The word that follows a window of sixteen. -/
def Family.nextWord (F : Family w) (window : List (BitVec w)) : BitVec w :=
  rotationsShift F.smallLate (window.getD 14 0) + window.getD 9 0 +
    rotationsShift F.smallEarly (window.getD 1 0) + window.getD 0 0

/-- One round with a constant and a message word. -/
def Family.round (F : Family w) (constant word : BitVec w) (s : Words w) : Words w :=
  let choice := (s.e &&& s.f) ^^^ (~~~s.e &&& s.g)
  let majority := (s.a &&& s.b) ^^^ (s.a &&& s.c) ^^^ (s.b &&& s.c)
  let first := s.h + rotations F.largeE s.e + choice + constant + word
  let second := rotations F.largeA s.a + majority
  ⟨first + second, s.a, s.b, s.c, s.d + first, s.e, s.f, s.g⟩

/-- All rounds: one per constant, the window sliding by one word each time. -/
def Family.rounds (F : Family w) : List (BitVec w) → List (BitVec w) → Words w → Words w
  | [], _, s => s
  | constant :: constants, window, s =>
    F.rounds constants (window.tail ++ [F.nextWord window])
      (F.round constant (window.getD 0 0) s)

/-- The sum of two rows of working words. -/
def Words.add (s t : Words w) : Words w :=
  ⟨s.a + t.a, s.b + t.b, s.c + t.c, s.d + t.d, s.e + t.e, s.f + t.f, s.g + t.g, s.h + t.h⟩

/-- One block of sixteen words mixed into the working words. -/
def Family.compress (F : Family w) (s : Words w) (block : List (BitVec w)) : Words w :=
  s.add (F.rounds F.constants block s)

/-! ### Bytes and words -/

/-- A number as `count` bytes, the highest first. -/
def bigEndian : (count : Nat) → (n : Nat) → List UInt8
  | 0, _ => []
  | count + 1, n => UInt8.ofNat (n >>> (8 * count)) :: bigEndian count n

/-- Bytes read as one number, the highest first. -/
def ofBigEndian (bytes : List UInt8) : Nat := bytes.foldl (fun n b => n * 256 + b.toNat) 0

/-- The bytes of a block: sixteen words. -/
def blockSize (w : Nat) : Nat := 16 * (w / 8)

/-- The sixteen words of a block. -/
def blockWords (w : Nat) (block : List UInt8) : List (BitVec w) :=
  (List.range 16).map fun i =>
    BitVec.ofNat w (ofBigEndian ((block.drop (i * (w / 8))).take (w / 8)))

/-- The message, a one bit, zeros, and its length in bits in the last two words. -/
def pad (w : Nat) (message : List UInt8) : List UInt8 :=
  let used := message.length + 1 + w / 4
  let zeros := (blockSize w - used % blockSize w) % blockSize w
  message ++ 0x80 :: List.replicate zeros 0 ++ bigEndian (w / 4) (message.length * 8)

/-- The working words after `count` blocks. -/
def Family.absorb (F : Family w) : (count : Nat) → List UInt8 → Words w → Words w
  | 0, _, s => s
  | count + 1, bytes, s =>
    F.absorb count (bytes.drop (blockSize w))
      (F.compress s (blockWords w (bytes.take (blockSize w))))

/-- The bytes of the working words. -/
def Words.bytes (s : Words w) : List UInt8 :=
  [s.a, s.b, s.c, s.d, s.e, s.f, s.g, s.h].flatMap fun x => bigEndian (w / 8) x.toNat

/-- The digest from given first working words. -/
def Family.digest (F : Family w) (start : Words w) (message : List UInt8) : List UInt8 :=
  let padded := pad w message
  (F.absorb (padded.length / blockSize w) padded start).bytes

/-! ### The two families -/

/-- The leading 64 bits of the fractional parts of the cube roots of the first eighty primes. -/
def cubeRoots : List (BitVec 64) :=
  [
   0x428a2f98d728ae22, 0x7137449123ef65cd, 0xb5c0fbcfec4d3b2f, 0xe9b5dba58189dbbc,
   0x3956c25bf348b538, 0x59f111f1b605d019, 0x923f82a4af194f9b, 0xab1c5ed5da6d8118,
   0xd807aa98a3030242, 0x12835b0145706fbe, 0x243185be4ee4b28c, 0x550c7dc3d5ffb4e2,
   0x72be5d74f27b896f, 0x80deb1fe3b1696b1, 0x9bdc06a725c71235, 0xc19bf174cf692694,
   0xe49b69c19ef14ad2, 0xefbe4786384f25e3, 0x0fc19dc68b8cd5b5, 0x240ca1cc77ac9c65,
   0x2de92c6f592b0275, 0x4a7484aa6ea6e483, 0x5cb0a9dcbd41fbd4, 0x76f988da831153b5,
   0x983e5152ee66dfab, 0xa831c66d2db43210, 0xb00327c898fb213f, 0xbf597fc7beef0ee4,
   0xc6e00bf33da88fc2, 0xd5a79147930aa725, 0x06ca6351e003826f, 0x142929670a0e6e70,
   0x27b70a8546d22ffc, 0x2e1b21385c26c926, 0x4d2c6dfc5ac42aed, 0x53380d139d95b3df,
   0x650a73548baf63de, 0x766a0abb3c77b2a8, 0x81c2c92e47edaee6, 0x92722c851482353b,
   0xa2bfe8a14cf10364, 0xa81a664bbc423001, 0xc24b8b70d0f89791, 0xc76c51a30654be30,
   0xd192e819d6ef5218, 0xd69906245565a910, 0xf40e35855771202a, 0x106aa07032bbd1b8,
   0x19a4c116b8d2d0c8, 0x1e376c085141ab53, 0x2748774cdf8eeb99, 0x34b0bcb5e19b48a8,
   0x391c0cb3c5c95a63, 0x4ed8aa4ae3418acb, 0x5b9cca4f7763e373, 0x682e6ff3d6b2b8a3,
   0x748f82ee5defb2fc, 0x78a5636f43172f60, 0x84c87814a1f0ab72, 0x8cc702081a6439ec,
   0x90befffa23631e28, 0xa4506cebde82bde9, 0xbef9a3f7b2c67915, 0xc67178f2e372532b,
   0xca273eceea26619c, 0xd186b8c721c0c207, 0xeada7dd6cde0eb1e, 0xf57d4f7fee6ed178,
   0x06f067aa72176fba, 0x0a637dc5a2c898a6, 0x113f9804bef90dae, 0x1b710b35131c471b,
   0x28db77f523047d84, 0x32caab7b40c72493, 0x3c9ebe0a15c9bebc, 0x431d67c49c100d4c,
   0x4cc5d4becb3e42b6, 0x597f299cfc657e2a, 0x5fcb6fab3ad6faec, 0x6c44198c4a475817]

/-- Words of 64 bits. -/
def long : Family 64 :=
  ⟨cubeRoots, (28, 34, 39), (14, 18, 41), (1, 8, 7), (19, 61, 6)⟩

/-- The upper half of a 64-bit word. -/
def upperHalf (x : BitVec 64) : BitVec 32 := BitVec.ofNat 32 (x.toNat >>> 32)

/-- Words of 32 bits: the constants are the upper halves of the first sixty-four. -/
def short : Family 32 :=
  ⟨(cubeRoots.take 64).map upperHalf, (2, 13, 22), (6, 11, 25), (7, 18, 3), (17, 19, 10)⟩

/-- The fractional parts of the square roots of the first eight primes. -/
def squareRoots : Words 64 :=
  ⟨0x6a09e667f3bcc908, 0xbb67ae8584caa73b, 0x3c6ef372fe94f82b,
   0xa54ff53a5f1d36f1, 0x510e527fade682d1, 0x9b05688c2b3e6c1f,
   0x1f83d9abfb41bd6b, 0x5be0cd19137e2179⟩

/-- The fractional parts of the square roots of the next eight primes. -/
def laterSquareRoots : Words 64 :=
  ⟨0xcbbb9d5dc1059ed8, 0x629a292a367cd507, 0x9159015a3070dd17,
   0x152fecd8f70e5939, 0x67332667ffc00b31, 0x8eb44a8768581511,
   0xdb0c2e0d64f98fa7, 0x47b5481dbefa4fa4⟩

/-- The upper halves of eight words. -/
def Words.upperHalves (s : Words 64) : Words 32 :=
  ⟨upperHalf s.a, upperHalf s.b, upperHalf s.c, upperHalf s.d, upperHalf s.e, upperHalf s.f,
   upperHalf s.g, upperHalf s.h⟩

/-- SHA-256. -/
def sha256 (message : List UInt8) : List UInt8 := short.digest squareRoots.upperHalves message

/-- SHA-512. -/
def sha512 (message : List UInt8) : List UInt8 := long.digest squareRoots message

/-- SHA-384: the first 48 bytes of the long digest from other first words. -/
def sha384 (message : List UInt8) : List UInt8 := (long.digest laterSquareRoots message).take 48

/-! ### Sizes -/

@[simp] theorem length_bigEndian (count n : Nat) : (bigEndian count n).length = count := by
  induction count with
  | zero => rfl
  | succ count ih => simp [bigEndian, ih]

@[simp] theorem length_sha256 (message : List UInt8) : (sha256 message).length = 32 := by
  simp [sha256, Family.digest, Words.bytes]

@[simp] theorem length_sha512 (message : List UInt8) : (sha512 message).length = 64 := by
  simp [sha512, Family.digest, Words.bytes]

@[simp] theorem length_sha384 (message : List UInt8) : (sha384 message).length = 48 := by
  simp [sha384, Family.digest, Words.bytes]

end TokenGate.Hash

import Attestation.Bytes

/-!
The SHA-2 family of digests. The members on 32-bit and on 64-bit words differ only in the data of
`Variant`; the constants of the narrow words are the upper halves of those of the wide words.
-/
namespace Attestation.Sha2

/-- The first 64 bits of the fractional parts of the cube roots of the first eighty primes. -/
def cubeRoots : List Nat :=
  [0x428a2f98d728ae22, 0x7137449123ef65cd, 0xb5c0fbcfec4d3b2f, 0xe9b5dba58189dbbc,
   0x3956c25bf348b538, 0x59f111f1b605d019, 0x923f82a4af194f9b, 0xab1c5ed5da6d8118,
   0xd807aa98a3030242, 0x12835b0145706fbe, 0x243185be4ee4b28c, 0x550c7dc3d5ffb4e2,
   0x72be5d74f27b896f, 0x80deb1fe3b1696b1, 0x9bdc06a725c71235, 0xc19bf174cf692694,
   0xe49b69c19ef14ad2, 0xefbe4786384f25e3, 0x0fc19dc68b8cd5b5, 0x240ca1cc77ac9c65,
   0x2de92c6f592b0275, 0x4a7484aa6ea6e483, 0x5cb0a9dcbd41fbd4, 0x76f988da831153b5,
   0x983e5152ee66dfab, 0xa831c66d2db43210, 0xb00327c898fb213f, 0xbf597fc7beef0ee4,
   0xc6e00bf33da88fc2, 0xd5a79147930aa725, 0x06ca6351e003826f, 0x142929670a0e6e70,
   0x27b70a8546d22ffc, 0x2e1b21385c26c926, 0x4d2c6dfc5ac42aed, 0x53380d139d95b3df,
   0x650a73548baf63de, 0x766a0abb3c77b2a8, 0x81c2c92e47edaee6, 0x92722c851482353b,
   0xa2bfe8a14cf10364, 0xa81a664bbc423001, 0xc24b8b70d0f89791, 0xc76c51a30654be30,
   0xd192e819d6ef5218, 0xd69906245565a910, 0xf40e35855771202a, 0x106aa07032bbd1b8,
   0x19a4c116b8d2d0c8, 0x1e376c085141ab53, 0x2748774cdf8eeb99, 0x34b0bcb5e19b48a8,
   0x391c0cb3c5c95a63, 0x4ed8aa4ae3418acb, 0x5b9cca4f7763e373, 0x682e6ff3d6b2b8a3,
   0x748f82ee5defb2fc, 0x78a5636f43172f60, 0x84c87814a1f0ab72, 0x8cc702081a6439ec,
   0x90befffa23631e28, 0xa4506cebde82bde9, 0xbef9a3f7b2c67915, 0xc67178f2e372532b,
   0xca273eceea26619c, 0xd186b8c721c0c207, 0xeada7dd6cde0eb1e, 0xf57d4f7fee6ed178,
   0x06f067aa72176fba, 0x0a637dc5a2c898a6, 0x113f9804bef90dae, 0x1b710b35131c471b,
   0x28db77f523047d84, 0x32caab7b40c72493, 0x3c9ebe0a15c9bebc, 0x431d67c49c100d4c,
   0x4cc5d4becb3e42b6, 0x597f299cfc657e2a, 0x5fcb6fab3ad6faec, 0x6c44198c4a475817]

/-- The first 64 bits of the fractional parts of the square roots of the first eight primes. -/
def lowSquareRoots : List Nat :=
  [0x6a09e667f3bcc908, 0xbb67ae8584caa73b, 0x3c6ef372fe94f82b, 0xa54ff53a5f1d36f1,
   0x510e527fade682d1, 0x9b05688c2b3e6c1f, 0x1f83d9abfb41bd6b, 0x5be0cd19137e2179]

/-- The same for the ninth to the sixteenth prime. -/
def highSquareRoots : List Nat :=
  [0xcbbb9d5dc1059ed8, 0x629a292a367cd507, 0x9159015a3070dd17, 0x152fecd8f70e5939,
   0x67332667ffc00b31, 0x8eb44a8768581511, 0xdb0c2e0d64f98fa7, 0x47b5481dbefa4fa4]

/-- Word size in bits, and the amounts by which the four mixing functions turn and shift. -/
structure Variant where
  wordBits : Nat
  rounds : Nat
  sum0 : Nat × Nat × Nat
  sum1 : Nat × Nat × Nat
  schedule0 : Nat × Nat × Nat
  schedule1 : Nat × Nat × Nat

def narrow : Variant := ⟨32, 64, (2, 13, 22), (6, 11, 25), (7, 18, 3), (17, 19, 10)⟩

def wide : Variant := ⟨64, 80, (28, 34, 39), (14, 18, 41), (1, 8, 7), (19, 61, 6)⟩

namespace Variant

abbrev Word (v : Variant) := BitVec v.wordBits

def wordBytes (v : Variant) : Nat := v.wordBits / 8

def blockBytes (v : Variant) : Nat := 16 * v.wordBytes

def sum {v : Variant} (turns : Nat × Nat × Nat) (x : v.Word) : v.Word :=
  x.rotateRight turns.1 ^^^ x.rotateRight turns.2.1 ^^^ x.rotateRight turns.2.2

def mix {v : Variant} (turns : Nat × Nat × Nat) (x : v.Word) : v.Word :=
  x.rotateRight turns.1 ^^^ x.rotateRight turns.2.1 ^^^ x >>> turns.2.2

/-- The working variables of the compression function. -/
structure State (v : Variant) where
  a : v.Word
  b : v.Word
  c : v.Word
  d : v.Word
  e : v.Word
  f : v.Word
  g : v.Word
  h : v.Word

namespace State

def ofWords? {v : Variant} : List v.Word → Option (State v)
  | [a, b, c, d, e, f, g, h] => some ⟨a, b, c, d, e, f, g, h⟩
  | _ => none

def toWords {v : Variant} (s : State v) : List v.Word :=
  [s.a, s.b, s.c, s.d, s.e, s.f, s.g, s.h]

def add {v : Variant} (s t : State v) : State v :=
  ⟨s.a + t.a, s.b + t.b, s.c + t.c, s.d + t.d, s.e + t.e, s.f + t.f, s.g + t.g, s.h + t.h⟩

def round {v : Variant} (s : State v) (k w : v.Word) : State v :=
  let choice := (s.e &&& s.f) ^^^ (~~~s.e &&& s.g)
  let majority := (s.a &&& s.b) ^^^ (s.a &&& s.c) ^^^ (s.b &&& s.c)
  let t := s.h + sum v.sum1 s.e + choice + k + w
  ⟨t + sum v.sum0 s.a + majority, s.a, s.b, s.c, s.d + t, s.e, s.f, s.g⟩

end State

/-- The word that follows a window of sixteen words of the message schedule. -/
def nextWord {v : Variant} : List v.Word → v.Word
  | [w0, w1, _, _, _, _, _, _, _, w9, _, _, _, _, w14, _] =>
    mix v.schedule1 w14 + w9 + mix v.schedule0 w1 + w0
  | _ => 0

/-- Runs the rounds over the round constants; the window holds the next sixteen schedule words. -/
def runRounds {v : Variant} : List v.Word → List v.Word → State v → State v
  | k :: ks, w :: window, s =>
    runRounds ks (window ++ [nextWord (w :: window)]) (s.round k w)
  | _, _, s => s

def roundConstants (v : Variant) : List v.Word :=
  (cubeRoots.take v.rounds).map fun k => BitVec.ofNat v.wordBits (k >>> (64 - v.wordBits))

def compress {v : Variant} (s : State v) (block : List v.Word) : State v :=
  s.add (runRounds v.roundConstants block s)

/-- The message, a one bit, zero bits up to the last two words of a block, the length in bits. -/
def pad (v : Variant) (message : Bytes) : Bytes :=
  let lengthBytes := 2 * v.wordBytes
  let zeros := (2 * v.blockBytes - 1 - lengthBytes - message.length % v.blockBytes) % v.blockBytes
  message ++ 0x80 :: (List.replicate zeros 0 ++ Bytes.ofNat lengthBytes (8 * message.length))

/-- The first `count` words of a byte string, and the bytes after them. -/
def takeWords (v : Variant) : Nat → Bytes → List v.Word × Bytes
  | 0, bytes => ([], bytes)
  | count + 1, bytes =>
    let word := BitVec.ofNat v.wordBits (Bytes.toNat (bytes.take v.wordBytes))
    let (words, rest) := takeWords v count (bytes.drop v.wordBytes)
    (word :: words, rest)

def absorb {v : Variant} : Nat → Bytes → State v → State v
  | 0, _, s => s
  | blocks + 1, bytes, s =>
    let (block, rest) := v.takeWords 16 bytes
    absorb blocks rest (compress s block)

/-- The digest started from `initial`, cut to `size` bytes. -/
def digest (v : Variant) (initial : List Nat) (size : Nat) (message : Bytes) : Bytes :=
  let padded := v.pad message
  match State.ofWords? (initial.map (BitVec.ofNat v.wordBits)) with
  | none => []
  | some s =>
    let final := absorb (padded.length / v.blockBytes) padded s
    (final.toWords.flatMap fun w => Bytes.ofNat v.wordBytes w.toNat).take size

end Variant

def sha224 (message : Bytes) : Bytes :=
  narrow.digest (highSquareRoots.map (· % (1 <<< 32))) 28 message

def sha256 (message : Bytes) : Bytes :=
  narrow.digest (lowSquareRoots.map (· >>> 32)) 32 message

def sha384 (message : Bytes) : Bytes := wide.digest highSquareRoots 48 message

def sha512 (message : Bytes) : Bytes := wide.digest lowSquareRoots 64 message

end Attestation.Sha2

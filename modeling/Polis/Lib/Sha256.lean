/-
  Lib.Sha256 — the SHA-256 compression, padding and digest (FIPS 180-4) on
  byte strings.

  Words are natural numbers below `2^32`; every sum is reduced.  The
  definition is structural, so the kernel can evaluate a digest.

  Main result: `digest_length` — a digest has 32 bytes.
-/
import Polis.Lib.Bytes

namespace Lib.Sha256

open Lib.Bytes

/-- Reduce to a 32-bit word. -/
def word (n : Nat) : Nat := n % 4294967296

/-- Rotate a word to the right. -/
def rotr (n x : Nat) : Nat := word ((x >>> n) ||| (x <<< (32 - n)))

def bigSigma0 (x : Nat) : Nat := rotr 2 x ^^^ rotr 13 x ^^^ rotr 22 x
def bigSigma1 (x : Nat) : Nat := rotr 6 x ^^^ rotr 11 x ^^^ rotr 25 x
def smallSigma0 (x : Nat) : Nat := rotr 7 x ^^^ rotr 18 x ^^^ (x >>> 3)
def smallSigma1 (x : Nat) : Nat := rotr 17 x ^^^ rotr 19 x ^^^ (x >>> 10)

/-- The bits of `y` where `x` is one, of `z` elsewhere. -/
def choose (x y z : Nat) : Nat := (x &&& y) ^^^ ((4294967295 - x) &&& z)
def majority (x y z : Nat) : Nat := (x &&& y) ^^^ (x &&& z) ^^^ (y &&& z)

/-- The round constants. -/
def roundConstants : List Nat :=
  [0x428a2f98, 0x71374491, 0xb5c0fbcf, 0xe9b5dba5, 0x3956c25b, 0x59f111f1, 0x923f82a4, 0xab1c5ed5,
   0xd807aa98, 0x12835b01, 0x243185be, 0x550c7dc3, 0x72be5d74, 0x80deb1fe, 0x9bdc06a7, 0xc19bf174,
   0xe49b69c1, 0xefbe4786, 0x0fc19dc6, 0x240ca1cc, 0x2de92c6f, 0x4a7484aa, 0x5cb0a9dc, 0x76f988da,
   0x983e5152, 0xa831c66d, 0xb00327c8, 0xbf597fc7, 0xc6e00bf3, 0xd5a79147, 0x06ca6351, 0x14292967,
   0x27b70a85, 0x2e1b2138, 0x4d2c6dfc, 0x53380d13, 0x650a7354, 0x766a0abb, 0x81c2c92e, 0x92722c85,
   0xa2bfe8a1, 0xa81a664b, 0xc24b8b70, 0xc76c51a3, 0xd192e819, 0xd6990624, 0xf40e3585, 0x106aa070,
   0x19a4c116, 0x1e376c08, 0x2748774c, 0x34b0bcb5, 0x391c0cb3, 0x4ed8aa4a, 0x5b9cca4f, 0x682e6ff3,
   0x748f82ee, 0x78a5636f, 0x84c87814, 0x8cc70208, 0x90befffa, 0xa4506ceb, 0xbef9a3f7, 0xc67178f2]

/-- The eight working words. -/
structure Words where
  a : Nat
  b : Nat
  c : Nat
  d : Nat
  e : Nat
  f : Nat
  g : Nat
  h : Nat
  deriving Repr, DecidableEq

/-- The initial hash value. -/
def initial : Words :=
  ⟨0x6a09e667, 0xbb67ae85, 0x3c6ef372, 0xa54ff53a, 0x510e527f, 0x9b05688c, 0x1f83d9ab, 0x5be0cd19⟩

/-- Extend a schedule, kept latest word first, by `n` words. -/
def extend : Nat → List Nat → List Nat
  | 0, r => r
  | n + 1, r =>
    extend n (word (smallSigma1 (r.getD 1 0) + r.getD 6 0 + smallSigma0 (r.getD 14 0)
      + r.getD 15 0) :: r)

/-- One round. -/
def round (s : Words) (k w : Nat) : Words :=
  let t₁ := s.h + bigSigma1 s.e + choose s.e s.f s.g + k + w
  let t₂ := bigSigma0 s.a + majority s.a s.b s.c
  ⟨word (t₁ + t₂), s.a, s.b, s.c, word (s.d + t₁), s.e, s.f, s.g⟩

/-- The rounds of one block. -/
def rounds : List Nat → List Nat → Words → Words
  | k :: ks, w :: ws, s => rounds ks ws (round s k w)
  | _, _, s => s

/-- Mix one block of sixteen words into the hash value. -/
def compress (s : Words) (block : List Nat) : Words :=
  let t := rounds roundConstants (extend 48 block.reverse).reverse s
  ⟨word (s.a + t.a), word (s.b + t.b), word (s.c + t.c), word (s.d + t.d),
   word (s.e + t.e), word (s.f + t.f), word (s.g + t.g), word (s.h + t.h)⟩

/-- The message, a one bit, zeros, and the bit length in eight bytes. -/
def pad (m : ByteString) : ByteString :=
  m ++ [0x80] ++ List.replicate ((119 - m.length % 64) % 64) 0 ++ bigEndian 8 (8 * m.length)

/-- Bytes as big-endian words. -/
def wordsOf : ByteString → List Nat
  | a :: b :: c :: d :: rest =>
    (((a.toNat * 256 + b.toNat) * 256 + c.toNat) * 256 + d.toNat) :: wordsOf rest
  | _ => []

/-- Run the blocks; `n` bounds their number. -/
def blocks : Nat → List Nat → Words → Words
  | 0, _, s => s
  | n + 1, ws, s => if ws.isEmpty then s else blocks n (ws.drop 16) (compress s (ws.take 16))

/-- SHA-256. -/
def digest (m : ByteString) : ByteString :=
  let ws := wordsOf (pad m)
  let s := blocks ws.length ws initial
  [s.a, s.b, s.c, s.d, s.e, s.f, s.g, s.h].flatMap (bigEndian 4)

theorem digest_length (m : ByteString) : (digest m).length = 32 := by
  simp [digest]

/-- The digest of the three bytes `abc`. -/
example : (digest (utf8 "abc")).take 4 = [0xba, 0x78, 0x16, 0xbf] := by decide +kernel

end Lib.Sha256

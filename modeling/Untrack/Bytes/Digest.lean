/-
  Untrack.Bytes.Digest — SHA-256 (FIPS 180-4) of a byte string, written as sixty-four lower-case hexadecimal
  digits. The message is padded to whole blocks of sixty-four bytes; each block's sixteen words are extended
  to sixty-four, and sixty-four rounds mix them into eight running words.
-/

import Untrack.Bytes.Basic

namespace Untrack.Bytes.Digest

/-- The eight running words. -/
structure Words where
  a : UInt32
  b : UInt32
  c : UInt32
  d : UInt32
  e : UInt32
  f : UInt32
  g : UInt32
  h : UInt32

def initial : Words :=
  ⟨0x6a09e667, 0xbb67ae85, 0x3c6ef372, 0xa54ff53a, 0x510e527f, 0x9b05688c, 0x1f83d9ab, 0x5be0cd19⟩

def constants : List UInt32 := [
  0x428a2f98, 0x71374491, 0xb5c0fbcf, 0xe9b5dba5, 0x3956c25b, 0x59f111f1, 0x923f82a4, 0xab1c5ed5,
  0xd807aa98, 0x12835b01, 0x243185be, 0x550c7dc3, 0x72be5d74, 0x80deb1fe, 0x9bdc06a7, 0xc19bf174,
  0xe49b69c1, 0xefbe4786, 0x0fc19dc6, 0x240ca1cc, 0x2de92c6f, 0x4a7484aa, 0x5cb0a9dc, 0x76f988da,
  0x983e5152, 0xa831c66d, 0xb00327c8, 0xbf597fc7, 0xc6e00bf3, 0xd5a79147, 0x06ca6351, 0x14292967,
  0x27b70a85, 0x2e1b2138, 0x4d2c6dfc, 0x53380d13, 0x650a7354, 0x766a0abb, 0x81c2c92e, 0x92722c85,
  0xa2bfe8a1, 0xa81a664b, 0xc24b8b70, 0xc76c51a3, 0xd192e819, 0xd6990624, 0xf40e3585, 0x106aa070,
  0x19a4c116, 0x1e376c08, 0x2748774c, 0x34b0bcb5, 0x391c0cb3, 0x4ed8aa4a, 0x5b9cca4f, 0x682e6ff3,
  0x748f82ee, 0x78a5636f, 0x84c87814, 0x8cc70208, 0x90befffa, 0xa4506ceb, 0xbef9a3f7, 0xc67178f2]

def rotateRight (x n : UInt32) : UInt32 := (x >>> n) ||| (x <<< (32 - n))

/-- A number as `width` bytes, the highest first. -/
def bigEndian (width n : Nat) : Bytes :=
  (List.range width).map fun i => UInt8.ofNat (n / Nat.pow 256 (width - 1 - i) % 256)

/-- The message, a one bit, zeros, and the message's length in bits: a whole number of blocks. -/
def padded (message : Bytes) : Bytes :=
  message ++ 0x80 :: List.replicate ((119 - message.length % 64) % 64) 0 ++
    bigEndian 8 (8 * message.length)

def word (b : Bytes) : UInt32 := UInt32.ofNat (ofDigits 256 (b.map UInt8.toNat))

/-- Consecutive groups of `n` bytes, at most `k` of them. -/
def groups (n : Nat) : (k : Nat) → Bytes → List Bytes
  | 0, _ => []
  | k + 1, b => if b.length < n then [] else b.take n :: groups n k (b.drop n)

/-- The next word of the schedule, from the sixteen words before it, latest first. -/
def nextWord (latest : List UInt32) : UInt32 :=
  let w15 := latest.getD 14 0
  let w2 := latest.getD 1 0
  let s0 := rotateRight w15 7 ^^^ rotateRight w15 18 ^^^ (w15 >>> 3)
  let s1 := rotateRight w2 17 ^^^ rotateRight w2 19 ^^^ (w2 >>> 10)
  latest.getD 15 0 + s0 + latest.getD 6 0 + s1

def extend : Nat → List UInt32 → List UInt32
  | 0, latest => latest
  | k + 1, latest => extend k (nextWord latest :: latest)

/-- The sixty-four words of a block. -/
def schedule (block : Bytes) : List UInt32 := (extend 48 ((groups 4 16 block).map word).reverse).reverse

def round (s : Words) (kw : UInt32 × UInt32) : Words :=
  let s1 := rotateRight s.e 6 ^^^ rotateRight s.e 11 ^^^ rotateRight s.e 25
  let choice := (s.e &&& s.f) ^^^ (~~~s.e &&& s.g)
  let t1 := s.h + s1 + choice + kw.1 + kw.2
  let s0 := rotateRight s.a 2 ^^^ rotateRight s.a 13 ^^^ rotateRight s.a 22
  let majority := (s.a &&& s.b) ^^^ (s.a &&& s.c) ^^^ (s.b &&& s.c)
  ⟨t1 + (s0 + majority), s.a, s.b, s.c, s.d + t1, s.e, s.f, s.g⟩

def compress (s : Words) (block : Bytes) : Words :=
  let r := (constants.zip (schedule block)).foldl round s
  ⟨s.a + r.a, s.b + r.b, s.c + r.c, s.d + r.d, s.e + r.e, s.f + r.f, s.g + r.g, s.h + r.h⟩

def Words.toList (s : Words) : List UInt32 := [s.a, s.b, s.c, s.d, s.e, s.f, s.g, s.h]

def sum (message : Bytes) : Words :=
  let p := padded message
  (groups 64 (p.length / 64) p).foldl compress initial

end Digest

/-- The SHA-256 digest in hexadecimal digits. -/
def sha256 (message : Bytes) : List Char :=
  (Digest.sum message).toList.flatMap fun w => hexDigits 8 w.toNat

end Untrack.Bytes

import PortfolioManager.Library.Hex

/-! # SHA-256 over byte lists

The compression function keeps a sliding window of sixteen schedule words, so every loop is a
fold over a list and the digest evaluates. Only the shape of the hexadecimal digest is proved
here: collision resistance is an assumption of whoever hashes, stated over the inputs of a run.
-/

namespace Sha256

open Hex

/-- The eight working variables of the compression function. -/
structure Registers where
  a : UInt32
  b : UInt32
  c : UInt32
  d : UInt32
  e : UInt32
  f : UInt32
  g : UInt32
  h : UInt32
deriving DecidableEq, Repr

def initial : Registers where
  a := 0x6a09e667
  b := 0xbb67ae85
  c := 0x3c6ef372
  d := 0xa54ff53a
  e := 0x510e527f
  f := 0x9b05688c
  g := 0x1f83d9ab
  h := 0x5be0cd19

def roundConstants : List UInt32 :=
  [0x428a2f98, 0x71374491, 0xb5c0fbcf, 0xe9b5dba5, 0x3956c25b, 0x59f111f1, 0x923f82a4, 0xab1c5ed5,
   0xd807aa98, 0x12835b01, 0x243185be, 0x550c7dc3, 0x72be5d74, 0x80deb1fe, 0x9bdc06a7, 0xc19bf174,
   0xe49b69c1, 0xefbe4786, 0x0fc19dc6, 0x240ca1cc, 0x2de92c6f, 0x4a7484aa, 0x5cb0a9dc, 0x76f988da,
   0x983e5152, 0xa831c66d, 0xb00327c8, 0xbf597fc7, 0xc6e00bf3, 0xd5a79147, 0x06ca6351, 0x14292967,
   0x27b70a85, 0x2e1b2138, 0x4d2c6dfc, 0x53380d13, 0x650a7354, 0x766a0abb, 0x81c2c92e, 0x92722c85,
   0xa2bfe8a1, 0xa81a664b, 0xc24b8b70, 0xc76c51a3, 0xd192e819, 0xd6990624, 0xf40e3585, 0x106aa070,
   0x19a4c116, 0x1e376c08, 0x2748774c, 0x34b0bcb5, 0x391c0cb3, 0x4ed8aa4a, 0x5b9cca4f, 0x682e6ff3,
   0x748f82ee, 0x78a5636f, 0x84c87814, 0x8cc70208, 0x90befffa, 0xa4506ceb, 0xbef9a3f7, 0xc67178f2]

def rotateRight (word amount : UInt32) : UInt32 :=
  (word >>> amount) ||| (word <<< (32 - amount))

def smallSigma0 (x : UInt32) : UInt32 := rotateRight x 7 ^^^ rotateRight x 18 ^^^ (x >>> 3)
def smallSigma1 (x : UInt32) : UInt32 := rotateRight x 17 ^^^ rotateRight x 19 ^^^ (x >>> 10)
def bigSigma0 (x : UInt32) : UInt32 := rotateRight x 2 ^^^ rotateRight x 13 ^^^ rotateRight x 22
def bigSigma1 (x : UInt32) : UInt32 := rotateRight x 6 ^^^ rotateRight x 11 ^^^ rotateRight x 25
def choose (x y z : UInt32) : UInt32 := (x &&& y) ^^^ (~~~x &&& z)
def majority (x y z : UInt32) : UInt32 := (x &&& y) ^^^ (x &&& z) ^^^ (y &&& z)

/-- One round consumes the schedule word at the head of the window. -/
def round (r : Registers) (constant word : UInt32) : Registers :=
  let first := r.h + bigSigma1 r.e + choose r.e r.f r.g + constant + word
  let second := bigSigma0 r.a + majority r.a r.b r.c
  ⟨first + second, r.a, r.b, r.c, r.d + first, r.e, r.f, r.g⟩

/-- Slide the window: drop its head and append the next schedule word. -/
def slide (window : List UInt32) : List UInt32 :=
  window.tail ++ [smallSigma1 (window.getD 14 0) + window.getD 9 0 +
    smallSigma0 (window.getD 1 0) + window.getD 0 0]

def compress (r : Registers) (block : List UInt32) : Registers :=
  let (last, _) := roundConstants.foldl
    (fun (current, window) constant => (round current constant (window.getD 0 0), slide window)) (r, block)
  ⟨r.a + last.a, r.b + last.b, r.c + last.c, r.d + last.d,
    r.e + last.e, r.f + last.f, r.g + last.g, r.h + last.h⟩

/-- Big-endian bytes of a natural number, most significant first. -/
def bigEndian (value : ℕ) : ℕ → List UInt8
  | 0 => []
  | width + 1 => UInt8.ofNat (value / 256 ^ width) :: bigEndian value width

/-- Append the marker byte, the zero padding and the bit length. -/
def pad (message : List UInt8) : List UInt8 :=
  message ++ 0x80 :: List.replicate ((119 - message.length % 64) % 64) 0 ++ bigEndian (8 * message.length) 8

def words : List UInt8 → List UInt32
  | a :: b :: c :: d :: rest =>
      (a.toUInt32 <<< 24 ||| b.toUInt32 <<< 16 ||| c.toUInt32 <<< 8 ||| d.toUInt32) :: words rest
  | _ => []

/-- Fold the compression function over consecutive sixteen-word blocks. -/
def blocks (r : Registers) : ℕ → List UInt32 → Registers
  | 0, _ => r
  | count + 1, schedule => blocks (compress r (schedule.take 16)) count (schedule.drop 16)

def digest (message : List UInt8) : Registers :=
  let schedule := words (pad message)
  blocks initial (schedule.length / 16) schedule

def Registers.toHex (r : Registers) : List Char :=
  [r.a, r.b, r.c, r.d, r.e, r.f, r.g, r.h].flatMap fun word => hexOf word.toNat 8

/-- The lowercase hexadecimal digest. -/
def hexdigest (message : List UInt8) : String := String.ofList (digest message).toHex

/-- Eight words of eight digits each. -/
theorem hexdigest_length (message : List UInt8) : (hexdigest message).toList.length = 64 := by
  simp [hexdigest, Registers.toHex, hexOf_length]

theorem hexdigest_mem {message : List UInt8} {digit : Char}
    (member : digit ∈ (hexdigest message).toList) : digit ∈ hexDigits := by
  simp only [hexdigest, String.toList_ofList, Registers.toHex, List.mem_flatMap] at member
  obtain ⟨word, _, digits⟩ := member
  exact hexOf_mem digits

example : hexdigest [0x61, 0x62, 0x63] =
    "ba7816bf8f01cfea414140de5dae2223b00361a396177a9cb410ff61f20015ad" := by decide +kernel

end Sha256

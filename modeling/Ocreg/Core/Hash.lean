/-
Module: Ocreg.Core.Hash
Purpose: The streaming SHA-256 and CRC-32C of hash.cpp. Digests are the canonical identity of every
  derived artifact, checksums guard stored frames.
-/
import Ocreg.Lib.Codec
import Ocreg.Lib.MachineOrder

namespace Ocreg

/-- Bytes of an ASCII literal of the source. -/
def text (s : String) : Bytes := s.toList.map (fun c => UInt8.ofNat c.toNat)

/-- Digest size in bytes. -/
def kDigestBytes : Nat := 32

/-- SHA-256 digest: exactly `kDigestBytes` bytes. -/
structure Digest256 where
  bytes : Bytes
  size_eq : bytes.length = kDigestBytes
deriving DecidableEq

namespace Digest256

theorem bytes_injective : Function.Injective bytes := by
  intro a b h
  cases a
  cases b
  simpa using h

/-- Bytes are compared from the first one on, as in `operator<=>`. -/
instance : LinearOrder Digest256 := LinearOrder.lift' bytes bytes_injective

/-- The all-zero digest of a default-constructed value. -/
def zero : Digest256 := ⟨List.replicate kDigestBytes 0, by simp⟩

instance : Inhabited Digest256 := ⟨zero⟩

end Digest256

/-! ### SHA-256 -/

/-- Rotate right. -/
def rotr (value : UInt32) (shift : UInt32) : UInt32 :=
  (value >>> shift) ||| (value <<< ((32 - shift) &&& 31))

/-- Round constants. -/
def kSha256K : List UInt32 := [
  0x428a2f98, 0x71374491, 0xb5c0fbcf, 0xe9b5dba5, 0x3956c25b,
  0x59f111f1, 0x923f82a4, 0xab1c5ed5, 0xd807aa98, 0x12835b01,
  0x243185be, 0x550c7dc3, 0x72be5d74, 0x80deb1fe, 0x9bdc06a7,
  0xc19bf174, 0xe49b69c1, 0xefbe4786, 0x0fc19dc6, 0x240ca1cc,
  0x2de92c6f, 0x4a7484aa, 0x5cb0a9dc, 0x76f988da, 0x983e5152,
  0xa831c66d, 0xb00327c8, 0xbf597fc7, 0xc6e00bf3, 0xd5a79147,
  0x06ca6351, 0x14292967, 0x27b70a85, 0x2e1b2138, 0x4d2c6dfc,
  0x53380d13, 0x650a7354, 0x766a0abb, 0x81c2c92e, 0x92722c85,
  0xa2bfe8a1, 0xa81a664b, 0xc24b8b70, 0xc76c51a3, 0xd192e819,
  0xd6990624, 0xf40e3585, 0x106aa070, 0x19a4c116, 0x1e376c08,
  0x2748774c, 0x34b0bcb5, 0x391c0cb3, 0x4ed8aa4a, 0x5b9cca4f,
  0x682e6ff3, 0x748f82ee, 0x78a5636f, 0x84c87814, 0x8cc70208,
  0x90befffa, 0xa4506ceb, 0xbef9a3f7, 0xc67178f2]

/-- The eight working words, which are also the chaining state. -/
structure Sha256Words where
  a : UInt32
  b : UInt32
  c : UInt32
  d : UInt32
  e : UInt32
  f : UInt32
  g : UInt32
  h : UInt32
deriving DecidableEq

/-- Big-endian 32-bit words of a block. -/
def blockWords : Bytes → List UInt32
  | a :: b :: c :: d :: rest =>
    ((a.toUInt32 <<< 24) ||| (b.toUInt32 <<< 16) ||| (c.toUInt32 <<< 8) ||| d.toUInt32) :: blockWords rest
  | _ => []

/-- `count` further words of the message schedule. The schedule is held newest word first, so `w[i - 15]`
    is found at offset 14. -/
def extendSchedule : Nat → List UInt32 → List UInt32
  | 0, w => w
  | count + 1, w =>
    let x := w.getD 14 0
    let y := w.getD 1 0
    let sigma0 := rotr x 7 ^^^ rotr x 18 ^^^ (x >>> 3)
    let sigma1 := rotr y 17 ^^^ rotr y 19 ^^^ (y >>> 10)
    extendSchedule count ((w.getD 15 0 + sigma0 + w.getD 6 0 + sigma1) :: w)

/-- One of the 64 rounds. -/
def sha256Round (v : Sha256Words) (k w : UInt32) : Sha256Words :=
  let bigSigma1 := rotr v.e 6 ^^^ rotr v.e 11 ^^^ rotr v.e 25
  let choose := (v.e &&& v.f) ^^^ ((~~~v.e) &&& v.g)
  let temp1 := v.h + bigSigma1 + choose + k + w
  let bigSigma0 := rotr v.a 2 ^^^ rotr v.a 13 ^^^ rotr v.a 22
  let majority := (v.a &&& v.b) ^^^ (v.a &&& v.c) ^^^ (v.b &&& v.c)
  let temp2 := bigSigma0 + majority
  ⟨temp1 + temp2, v.a, v.b, v.c, v.d + temp1, v.e, v.f, v.g⟩

/-- Fold one 64-byte block into the chaining state. -/
def compress (state : Sha256Words) (block : Bytes) : Sha256Words :=
  let w := (extendSchedule 48 (blockWords block).reverse).reverse
  let v := (kSha256K.zip w).foldl (fun v kw => sha256Round v kw.1 kw.2) state
  ⟨state.a + v.a, state.b + v.b, state.c + v.c, state.d + v.d,
    state.e + v.e, state.f + v.f, state.g + v.g, state.h + v.h⟩

/-- The streaming hasher. `buffer` holds the `buffered_` bytes of the block being filled. -/
structure Sha256 where
  state : Sha256Words
  buffer : Bytes
  totalBytes : UInt64
  finished : Bool
deriving DecidableEq

namespace Sha256

def init : Sha256 where
  state := ⟨0x6a09e667, 0xbb67ae85, 0x3c6ef372, 0xa54ff53a, 0x510e527f, 0x9b05688c, 0x1f83d9ab, 0x5be0cd19⟩
  buffer := []
  totalBytes := 0
  finished := false

/-- Compress the leading `count` whole blocks of `data`. -/
def compressBlocks : Nat → Sha256Words → Bytes → Sha256Words × Bytes
  | 0, state, data => (state, data)
  | count + 1, state, data => compressBlocks count (compress state (data.take 64)) (data.drop 64)

section

variable (s : Sha256)

/-- Absorb a byte string: top up a partial block first, then whole blocks, then buffer the rest. -/
def update (data : Bytes) : Sha256 :=
  if s.finished || data.isEmpty then s
  else
    let totalBytes := s.totalBytes + UInt64.ofNat data.length
    let room := 64 - s.buffer.length
    let topped := s.buffer ++ data.take room
    if s.buffer ≠ [] ∧ topped.length < 64 then { s with buffer := topped, totalBytes }
    else
      let state := if s.buffer ≠ [] then compress s.state topped else s.state
      let data := if s.buffer ≠ [] then data.drop room else data
      let (state, rest) := compressBlocks (data.length / 64) state data
      { s with state, buffer := rest, totalBytes }

def updateByte (byte : UInt8) : Sha256 :=
  if s.finished then s
  else
    let buffer := s.buffer ++ [byte]
    let totalBytes := s.totalBytes + 1
    if buffer.length = 64 then { s with state := compress s.state buffer, buffer := [], totalBytes }
    else { s with buffer, totalBytes }

/-- `update_u16` and `update_u32`: big-endian, one byte at a time. -/
def updateBE (width value : Nat) : Sha256 := (putBE width value).foldl updateByte s

def updateU16 (value : UInt16) : Sha256 := s.updateBE 2 value.toNat

def updateU32 (value : UInt32) : Sha256 := s.updateBE 4 value.toNat

/-- Length-prefixed byte string. -/
def updateBytes (data : Bytes) : Sha256 :=
  (s.updateU32 (UInt32.ofNat data.length)).update data

/-- Padding and length block; the object is final afterwards. -/
def close : Sha256 :=
  if s.finished then s
  else
    let bitLength := s.totalBytes <<< 3
    let buffer := s.buffer ++ [0x80]
    let (state, buffer) :=
      if buffer.length > 56 then (compress s.state (buffer ++ List.replicate (64 - buffer.length) 0), [])
      else (s.state, buffer)
    let block := buffer ++ List.replicate (56 - buffer.length) 0 ++ putBE 8 bitLength.toNat
    { s with state := compress state block, buffer := [], finished := true }

/-- Digest of the final state. -/
def finish : Digest256 :=
  let words := s.close.state
  ⟨putBE 4 words.a.toNat ++ putBE 4 words.b.toNat ++ putBE 4 words.c.toNat ++ putBE 4 words.d.toNat ++
    putBE 4 words.e.toNat ++ putBE 4 words.f.toNat ++ putBE 4 words.g.toNat ++ putBE 4 words.h.toNat,
    by simp [kDigestBytes]⟩

end

end Sha256

/-- Digest of a whole byte string. Proofs never look inside; the kernel still evaluates it. -/
@[irreducible] def Digest256.of (data : Bytes) : Digest256 := (Sha256.init.update data).finish

/-- Leading four digest bytes as a big-endian number, the form of the table fingerprints. -/
def Digest256.leadingU32 (d : Digest256) : UInt32 := UInt32.ofNat (valueBE (d.bytes.take 4))

-- the one-block test vector
example : (Digest256.of (text "abc")).leadingU32 = 0xba7816bf := by decide +kernel

/-! ### CRC-32C -/

/-- Eight steps of the reflected Castagnoli polynomial. -/
def crc32cBits : Nat → UInt32 → UInt32
  | 0, crc => crc
  | count + 1, crc => crc32cBits count (if crc &&& 1 ≠ 0 then (crc >>> 1) ^^^ 0x82F63B78 else crc >>> 1)

/-- The compile-time table. -/
def kCrc32cTable : Array UInt32 := Array.ofFn (fun i : Fin 256 => crc32cBits 8 (UInt32.ofNat i))

def crc32cUpdateByte (crc : UInt32) (byte : UInt8) : UInt32 :=
  kCrc32cTable.getD ((crc ^^^ byte.toUInt32) &&& 0xFF).toNat 0 ^^^ (crc >>> 8)

def crc32c (data : Bytes) : UInt32 := data.foldl crc32cUpdateByte 0xFFFFFFFF ^^^ 0xFFFFFFFF

end Ocreg

/-
Module: Ocreg.Codec.Primitives
Purpose: The Writer and Reader of codec.cpp: fixed-width big-endian integers, length-prefixed strings,
  names, digests, tagged optionals and counted collections, with their round trips.
-/
import Ocreg.Model.Registry

namespace Ocreg

open List Decoder

variable {α : Type}

def kMaxCollectionEntries : Nat := 1048576

/-! ### Writer -/

namespace Writer

def u8 (value : UInt8) : Bytes := [value]

def u16 (value : UInt16) : Bytes := putBE 2 value.toNat

def u32 (value : UInt32) : Bytes := putBE 4 value.toNat

def u64 (value : UInt64) : Bytes := putBE 8 value.toNat

def i64 (value : Int64) : Bytes := u64 value.toUInt64

/-- Length-prefixed byte string. The length is truncated to 32 bits. -/
def str (value : Bytes) : Bytes := u32 (UInt32.ofNat value.length) ++ value

def name (value : Name) : Bytes := UInt8.ofNat value.chars.length :: value.chars

def digest (value : Digest256) : Bytes := value.bytes

def reason (value : ReasonCode) : Bytes := u16 value.numeric

def boolean (value : Bool) : Bytes := u8 (if value then 1 else 0)

/-- Flag byte, then the value when there is one. -/
def optional {α : Type} (enc : α → Bytes) : Option α → Bytes
  | some a => 1 :: enc a
  | none => [0]

/-- Element count, then the elements. The count is truncated to 32 bits. -/
def collection {α : Type} (enc : α → Bytes) (as : List α) : Bytes :=
  u32 (UInt32.ofNat as.length) ++ as.flatMap enc

end Writer

/-! ### Reader -/

/-- A reader fails at its first problem and keeps that reason. -/
abbrev Reader (α : Type) := Decoder ReasonCode α

namespace Reader

def u8 : Reader UInt8 := do
  let raw ← takeBE .rejectedTruncatedInput 1
  pure (UInt8.ofNat raw)

def u16 : Reader UInt16 := do
  let raw ← takeBE .rejectedTruncatedInput 2
  pure (UInt16.ofNat raw)

def u32 : Reader UInt32 := do
  let raw ← takeBE .rejectedTruncatedInput 4
  pure (UInt32.ofNat raw)

def u64 : Reader UInt64 := do
  let raw ← takeBE .rejectedTruncatedInput 8
  pure (UInt64.ofNat raw)

def i64 : Reader Int64 := do
  let raw ← u64
  pure raw.toInt64

def boolean : Reader Bool := do
  let raw ← u8
  Decoder.ensure (raw ≤ 1) .rejectedMalformedDocument
  pure (raw == 1)

/-- `Reader::bytes`: a length-prefixed byte string. -/
def str : Reader Bytes := do
  let length ← u32
  takeBytes .rejectedTruncatedInput length.toNat

def name : Reader Name := do
  let length ← u8
  Decoder.ensure (length ≠ 0 ∧ length.toNat ≤ kMaxNameLength) .rejectedMalformedName
  let view ← takeBytes .rejectedTruncatedInput length.toNat
  Decoder.expect .rejectedMalformedName (Name.parse? view)

def digest : Reader Digest256 := do
  let bytes ← takeBytes .rejectedTruncatedInput kDigestBytes
  if h : bytes.length = kDigestBytes then pure ⟨bytes, h⟩ else Decoder.fail .rejectedTruncatedInput

/-- `read_enum`: a 16-bit code that must name a value. -/
def enum {α : Type} (ofNumeric? : UInt16 → Option α) (failure : ReasonCode) : Reader α := do
  let raw ← u16
  Decoder.expect failure (ofNumeric? raw)

def reason : Reader ReasonCode := enum ReasonCode.ofNumeric? .rejectedMalformedDocument

def optional {α : Type} (dec : Reader α) : Reader (Option α) := do
  let flag ← u8
  if flag = 0 then pure none
  else do
    Decoder.ensure (flag = 1) .rejectedMalformedDocument
    let value ← dec
    pure (some value)

/-- A count of at most `bound`, then that many elements. -/
def collection {α : Type} (dec : Reader α) (bound : Nat) (oversized : ReasonCode) : Reader (List α) := do
  let count ← u32
  Decoder.ensure (count.toNat ≤ bound) oversized
  repeatN dec count.toNat

/-! ### Reading back what was written -/

@[simp] theorem u8_put (value : UInt8) (rest : Bytes) : u8.run (Writer.u8 value ++ rest) = .ok (value, rest) := by
  have hbytes : Writer.u8 value = putBE 1 value.toNat := by simp [Writer.u8, putBE]
  rw [hbytes, u8, bind_of_ok _ (takeBE_putBE _ rest (by have := value.toNat_lt; omega))]
  simp

theorem u8_cons (value : UInt8) (rest : Bytes) : u8.run (value :: rest) = .ok (value, rest) := u8_put value rest

@[simp] theorem u16_put (value : UInt16) (rest : Bytes) : u16.run (Writer.u16 value ++ rest) = .ok (value, rest) := by
  rw [Writer.u16, u16, bind_of_ok _ (takeBE_putBE _ rest (by have := value.toNat_lt; omega))]
  simp

@[simp] theorem u32_put (value : UInt32) (rest : Bytes) : u32.run (Writer.u32 value ++ rest) = .ok (value, rest) := by
  rw [Writer.u32, u32, bind_of_ok _ (takeBE_putBE _ rest (by have := value.toNat_lt; omega))]
  simp

@[simp] theorem u64_put (value : UInt64) (rest : Bytes) : u64.run (Writer.u64 value ++ rest) = .ok (value, rest) := by
  rw [Writer.u64, u64, bind_of_ok _ (takeBE_putBE _ rest (by have := value.toNat_lt; omega))]
  simp

@[simp] theorem i64_put (value : Int64) (rest : Bytes) : i64.run (Writer.i64 value ++ rest) = .ok (value, rest) := by
  rw [Writer.i64, i64, bind_of_ok _ (u64_put _ rest)]
  simp

@[simp] theorem boolean_put (value : Bool) (rest : Bytes) :
    boolean.run (Writer.boolean value ++ rest) = .ok (value, rest) := by
  rw [Writer.boolean, boolean, bind_of_ok _ (u8_put _ rest)]
  cases value <;> rfl

theorem str_put {value : Bytes} (h : value.length < 2 ^ 32) (rest : Bytes) :
    str.run (Writer.str value ++ rest) = .ok (value, rest) := by
  rw [Writer.str, append_assoc, str, bind_of_ok _ (u32_put _ _)]
  exact takeBytes_append _ rest (by rw [UInt32.toNat_ofNat', Nat.mod_eq_of_lt h])

theorem name_put {value : Name} (h : value.chars ≠ []) (rest : Bytes) :
    name.run (Writer.name value ++ rest) = .ok (value, rest) := by
  have hle := value.length_le
  have hlen : (UInt8.ofNat value.chars.length).toNat = value.chars.length := by
    rw [UInt8.toNat_ofNat', kMaxNameLength] at *
    omega
  have hpos : 0 < value.chars.length := length_pos_iff.mpr h
  have hbound : UInt8.ofNat value.chars.length ≠ 0 ∧ (UInt8.ofNat value.chars.length).toNat ≤ kMaxNameLength := by
    refine ⟨?_, hlen.trans_le hle⟩
    intro hzero
    rw [hzero] at hlen
    simp at hlen
    omega
  rw [Writer.name, cons_append, name, bind_of_ok _ (u8_cons _ _), bind_of_ok _ (ensure_of _ _ hbound),
    bind_of_ok _ (takeBytes_append _ rest hlen.symm), Name.parse?_chars value h]
  rfl

@[simp] theorem digest_put (value : Digest256) (rest : Bytes) :
    digest.run (Writer.digest value ++ rest) = .ok (value, rest) := by
  rw [Writer.digest, digest, bind_of_ok _ (takeBytes_append _ rest value.size_eq), dif_pos value.size_eq]
  rfl

theorem enum_put {ofNumeric? : UInt16 → Option α} {numeric : UInt16} {value : α}
    (failure : ReasonCode) (h : ofNumeric? numeric = some value) (rest : Bytes) :
    (enum ofNumeric? failure).run (Writer.u16 numeric ++ rest) = .ok (value, rest) := by
  rw [enum, bind_of_ok _ (u16_put _ rest), h]
  rfl

@[simp] theorem reason_put (value : ReasonCode) (rest : Bytes) :
    reason.run (Writer.reason value ++ rest) = .ok (value, rest) :=
  enum_put _ (ReasonCode.ofNumeric?_numeric value) rest

theorem optional_put {enc : α → Bytes} {dec : Reader α} {value : Option α}
    (h : ∀ a ∈ value, RoundTrip enc dec a) (rest : Bytes) :
    (optional dec).run (Writer.optional enc value ++ rest) = .ok (value, rest) := by
  cases value with
  | none =>
    have hflag : u8.run ([0] ++ rest) = .ok (0, rest) := u8_cons 0 rest
    rw [Writer.optional, optional, bind_of_ok _ hflag]
    rfl
  | some a =>
    rw [Writer.optional, cons_append, optional, bind_of_ok _ (u8_cons 1 _), if_neg (by decide),
      bind_of_ok _ (ensure_of _ _ rfl), bind_of_ok _ (h a rfl rest)]
    rfl

theorem collection_put {enc : α → Bytes} {dec : Reader α} {as : List α} {bound : Nat}
    (oversized : ReasonCode) (h : ∀ a ∈ as, RoundTrip enc dec a) (hlen : as.length ≤ bound) (hbound : bound < 2 ^ 32)
    (rest : Bytes) : (collection dec bound oversized).run (Writer.collection enc as ++ rest) = .ok (as, rest) := by
  have hcount : (UInt32.ofNat as.length).toNat = as.length := by
    rw [UInt32.toNat_ofNat']
    omega
  rw [Writer.collection, append_assoc, collection, bind_of_ok _ (u32_put _ _),
    bind_of_ok _ (ensure_of _ _ (hcount.symm ▸ hlen)), hcount]
  exact repeatN_roundTrip h rest

/-! ### What readers accept -/

theorem name_yields : name.Yields (fun value => value.chars ≠ []) := by
  refine .bind_any (fun length => .bind_any (fun _ =>
    .bind_any (fun view => ?_)))
  intro input value rest h
  simp only [Name.parse?] at h
  split at h
  next hgrammar =>
    cases h
    intro hnil
    have hview : view = [] := hnil
    simp [nameGrammar, hview] at hgrammar
  next => cases h

theorem optional_yields {dec : Reader α} {P : α → Prop} (h : dec.Yields P) :
    (optional dec).Yields (fun value => ∀ a ∈ value, P a) := by
  refine .bind_any fun flag => ?_
  split
  · exact .pure (by simp)
  · refine .bind_any fun _ => .bind h fun a ha => .pure ?_
    intro b hb
    cases hb
    exact ha

theorem collection_yields {dec : Reader α} {P : α → Prop} (h : dec.Yields P) (bound : Nat)
    (oversized : ReasonCode) :
    (collection dec bound oversized).Yields (fun as => as.length ≤ bound ∧ ∀ a ∈ as, P a) := by
  refine .bind_any fun count => ?_
  refine .ensure fun hcount => ?_
  exact (repeatN_yields h count.toNat).mono fun as has => ⟨has.1.trans_le hcount, has.2⟩

end Reader

end Ocreg

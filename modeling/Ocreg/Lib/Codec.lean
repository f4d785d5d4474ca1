/-
Module: Ocreg.Lib.Codec
Purpose: Byte decoders that consume a prefix of their input, big-endian integers, counted lists, and the
  rules by which round trips, prefix-freeness and canonicity of encoders compose.
-/
import Mathlib

abbrev Bytes := List UInt8

/-- A decoder reads a value off the front of its input and returns what is left, or fails. -/
structure Decoder (ε α : Type) where
  run : Bytes → Except ε (α × Bytes)

section Decoding

open List

variable {ε α β κ : Type} {input rest : Bytes} {d dec : Decoder ε α} {as : List α} {cond : Prop} {a : α} {e : ε}
  {enc : α → Bytes} {f : α → Decoder ε β} {P : α → Prop} {key : α → κ}

namespace Decoder

variable {Q : α → Bytes → Prop}

instance : Monad (Decoder ε) where
  pure a := ⟨fun input => .ok (a, input)⟩
  bind d f := ⟨fun input =>
    match d.run input with
    | .ok (a, rest) => (f a).run rest
    | .error e => .error e⟩

/-- Stop with an error. -/
def fail (e : ε) : Decoder ε α := ⟨fun _ => .error e⟩

/-- Continue only under a decidable condition. -/
def ensure (cond : Prop) [Decidable cond] (e : ε) : Decoder ε Unit :=
  ⟨fun input => if cond then .ok ((), input) else .error e⟩

/-- Continue with the value of an option, or stop with an error. -/
def expect (e : ε) : Option α → Decoder ε α
  | some a => pure a
  | none => fail e

@[simp] theorem run_pure (a : α) (input : Bytes) : (pure a : Decoder ε α).run input = .ok (a, input) := rfl

theorem run_bind (d : Decoder ε α) (f : α → Decoder ε β) (input : Bytes) : (d >>= f).run input = match d.run input with
      | .ok (a, rest) => (f a).run rest
      | .error e => .error e := rfl

theorem bind_of_ok (f : α → Decoder ε β) (h : d.run input = .ok (a, rest)) : (d >>= f).run input = (f a).run rest := by
  rw [run_bind, h]

/-- Inversion of sequencing: a successful run splits at the point where the first decoder stopped. -/
theorem bind_eq_ok {b : β} (h : (d >>= f).run input = .ok (b, rest)) :
    ∃ a mid, d.run input = .ok (a, mid) ∧ (f a).run mid = .ok (b, rest) := by
  rw [run_bind] at h
  split at h
  next a mid hd => exact ⟨a, mid, hd, h⟩
  next e hd => cases h

@[simp] theorem ensure_of [Decidable cond] (e : ε) (input : Bytes) (h : cond) :
    (ensure cond e).run input = .ok ((), input) := if_pos h

theorem ensure_of_not [Decidable cond] (e : ε) (input : Bytes) (h : ¬ cond) : (ensure cond e).run input = .error e :=
  if_neg h

theorem ensure_eq_ok [Decidable cond] {u : Unit} (h : (ensure cond e).run input = .ok (u, rest)) :
    cond ∧ rest = input := by
  by_cases hc : cond
  · rw [ensure_of e input hc] at h
    cases h
    exact ⟨hc, rfl⟩
  · rw [ensure_of_not e input hc] at h
    cases h

@[simp] theorem expect_some (e : ε) (a : α) : expect e (some a) = pure a := rfl

/-- Postcondition of a decoder: every value it accepts satisfies `P`. -/
def Yields (d : Decoder ε α) (P : α → Prop) : Prop := ∀ input a rest, d.run input = .ok (a, rest) → P a

theorem Yields.pure (h : P a) : Yields (pure a : Decoder ε α) P := by
  intro input b rest heq
  cases heq
  exact h

theorem Yields.bind {Q : β → Prop} (hd : Yields d P) (hf : ∀ a, P a → Yields (f a) Q) : Yields (d >>= f) Q := by
  intro input b rest heq
  obtain ⟨a, mid, ha, hb⟩ := bind_eq_ok heq
  exact hf a (hd input a mid ha) mid b rest hb

/-- Sequencing when nothing needs to be known about the first value. -/
theorem Yields.bind_any {Q : β → Prop} (hf : ∀ a, Yields (f a) Q) : Yields (d >>= f) Q :=
  Yields.bind (P := fun _ => True) (fun _ _ _ _ => trivial) (fun a _ => hf a)

theorem Yields.ensure [Decidable cond] {f : Unit → Decoder ε β} {Q : β → Prop} (hf : cond → Yields (f ()) Q) :
    Yields (ensure cond e >>= f) Q := by
  intro input b rest heq
  obtain ⟨u, mid, hensure, hb⟩ := bind_eq_ok heq
  exact hf (ensure_eq_ok hensure).1 mid b rest hb

theorem Yields.mono {Q : α → Prop} (h : Yields d P) (hPQ : ∀ a, P a → Q a) : Yields d Q :=
  fun input a rest heq => hPQ a (h input a rest heq)

/-- Postcondition that also speaks of the bytes a run consumed. -/
def Consumes (d : Decoder ε α) (Q : α → Bytes → Prop) : Prop :=
  ∀ input a rest, d.run input = .ok (a, rest) → ∃ used, input = used ++ rest ∧ Q a used

theorem Consumes.pure (h : Q a []) : Consumes (pure a : Decoder ε α) Q := by
  intro input b rest heq
  cases heq
  exact ⟨[], rfl, h⟩

theorem Consumes.bind {P : α → Bytes → Prop} {Q : β → Bytes → Prop} (hd : Consumes d P)
    (hf : ∀ a used, P a used → Consumes (f a) (fun b more => Q b (used ++ more))) : Consumes (d >>= f) Q := by
  intro input b rest heq
  obtain ⟨a, mid, ha, hb⟩ := bind_eq_ok heq
  obtain ⟨used, rfl, hused⟩ := hd input a mid ha
  obtain ⟨more, rfl, hmore⟩ := hf a used hused mid b rest hb
  exact ⟨used ++ more, (append_assoc used more rest).symm, hmore⟩

/-- A condition consumes nothing and holds from there on. -/
theorem Consumes.ensure [Decidable cond] {f : Unit → Decoder ε β} {Q : β → Bytes → Prop}
    (hf : cond → Consumes (f ()) Q) : Consumes (Decoder.ensure cond e >>= f) Q := by
  intro input b rest heq
  obtain ⟨_, mid, hensure, hb⟩ := bind_eq_ok heq
  obtain ⟨hcond, rfl⟩ := ensure_eq_ok hensure
  exact hf hcond mid b rest hb

theorem Consumes.expect {value : Option α} (h : ∀ a ∈ value, Q a []) : Consumes (Decoder.expect e value) Q := by
  cases value with
  | none =>
    intro input a rest heq
    cases heq
  | some a => exact Consumes.pure (h a rfl)

theorem Consumes.mono {P : α → Bytes → Prop} (h : Consumes d P) (hPQ : ∀ a used, P a used → Q a used) :
    Consumes d Q := by
  intro input a rest heq
  obtain ⟨used, hinput, hused⟩ := h input a rest heq
  exact ⟨used, hinput, hPQ a used hused⟩

theorem Consumes.and (h : Consumes d Q) (hP : Yields d P) : Consumes d (fun a used => Q a used ∧ P a) := by
  intro input a rest heq
  obtain ⟨used, hinput, hused⟩ := h input a rest heq
  exact ⟨used, hinput, hused, hP input a rest heq⟩

end Decoder

/-! ### Round trips and prefix-freeness -/

section Rules

/-- Decoding what was encoded gives the value back and leaves everything after it alone. -/
def RoundTrip (enc : α → Bytes) (dec : Decoder ε α) (a : α) : Prop :=
  ∀ rest, dec.run (enc a ++ rest) = .ok (a, rest)

theorem RoundTrip.apply (h : RoundTrip enc dec a) (rest : Bytes) : dec.run (enc a ++ rest) = .ok (a, rest) := h rest

/-- On the values of `P`, an encoding tells its value apart whatever follows it. -/
def PrefixFreeOn (P : α → Prop) (enc : α → Bytes) : Prop :=
  ∀ a b, P a → P b → ∀ x y, enc a ++ x = enc b ++ y → a = b ∧ x = y

/-- An encoding that tells every value apart whatever follows it. -/
def PrefixFree (enc : α → Bytes) : Prop :=
  ∀ a b x y, enc a ++ x = enc b ++ y → a = b ∧ x = y

theorem PrefixFreeOn.of_roundTrip (h : ∀ a, P a → RoundTrip enc dec a) : PrefixFreeOn P enc := by
  intro a b ha hb x y heq
  have hdec := h a ha x
  rw [heq, h b hb y] at hdec
  cases hdec
  exact ⟨rfl, rfl⟩

theorem PrefixFree.of_roundTrip (h : ∀ a, RoundTrip enc dec a) : PrefixFree enc := fun a b x y heq =>
  PrefixFreeOn.of_roundTrip (P := fun _ => True) (fun a _ => h a) a b trivial trivial x y heq

/-- As many elements on both sides are told apart in a row. -/
theorem PrefixFree.flatMap_of_length (h : PrefixFree enc) {bs : List α} (hlength : as.length = bs.length) {x y : Bytes}
    (heq : as.flatMap enc ++ x = bs.flatMap enc ++ y) : as = bs ∧ x = y := by
  induction as generalizing bs with
  | nil =>
    cases bs with
    | nil => exact ⟨rfl, heq⟩
    | cons b bs => cases hlength
  | cons a as ih =>
    cases bs with
    | nil => cases hlength
    | cons b bs =>
      rw [flatMap_cons, flatMap_cons, append_assoc, append_assoc] at heq
      obtain ⟨rfl, hrest⟩ := h a b _ _ heq
      obtain ⟨rfl, hxy⟩ := ih (Nat.succ.inj hlength) hrest
      exact ⟨rfl, hxy⟩

/-- Elements that take up room are told apart in a row, even without their number. -/
theorem PrefixFree.flatMap_inj (h : PrefixFree enc) (hroom : ∀ a, enc a ≠ []) {bs : List α}
    (heq : as.flatMap enc = bs.flatMap enc) : as = bs := by
  induction as generalizing bs with
  | nil =>
    cases bs with
    | nil => rfl
    | cons b bs =>
      rw [flatMap_nil, flatMap_cons] at heq
      exact absurd (append_eq_nil_iff.mp heq.symm).1 (hroom b)
  | cons a as ih =>
    cases bs with
    | nil =>
      rw [flatMap_nil, flatMap_cons] at heq
      exact absurd (append_eq_nil_iff.mp heq).1 (hroom a)
    | cons b bs =>
      rw [flatMap_cons, flatMap_cons] at heq
      obtain ⟨rfl, hrest⟩ := h a b _ _ heq
      rw [ih hrest]

/-- The decoder accepts nothing but the encoding of its value. -/
def Canonical (enc : α → Bytes) (dec : Decoder ε α) : Prop := dec.Consumes (fun a used => used = enc a)

/-- Read a canonical part, then the rest. -/
theorem Canonical.bind {Q : β → Bytes → Prop} (h : Canonical enc dec)
    (hf : ∀ a, (f a).Consumes (fun b more => Q b (enc a ++ more))) : (dec >>= f).Consumes Q :=
  Decoder.Consumes.bind h (fun a _ hused => hused ▸ hf a)

/-- A canonical decoder that stops at the end of its input has read an encoding. -/
theorem Canonical.eq_encode (h : Canonical enc dec) (hrun : dec.run input = .ok (a, [])) : input = enc a := by
  obtain ⟨used, hinput, hused⟩ := h input a [] hrun
  rw [hinput, hused, append_nil]

/-- A reader compared with a canonical one that agrees on encodings: the bytes it accepts are the encoding of
    what it returns exactly where the canonical one accepts them too. -/
theorem Canonical.eq_encode_iff {strict : Decoder ε α} (hcanonical : Canonical enc strict)
    (hstrictYields : strict.Yields P) (hyields : dec.Yields P) (hstrict : ∀ a, P a → RoundTrip enc strict a)
    (hdec : ∀ a, P a → RoundTrip enc dec a) (h : dec.run input = .ok (a, [])) :
    enc a = input ↔ ∃ b, strict.run input = .ok (b, []) := by
  constructor
  · rintro rfl
    refine ⟨a, ?_⟩
    simpa using hstrict a (hyields _ _ _ h) []
  · rintro ⟨b, hb⟩
    have hinput := hcanonical.eq_encode hb
    have hagain := hdec b (hstrictYields _ _ _ hb) []
    rw [append_nil, ← hinput, h] at hagain
    cases hagain
    exact hinput.symm

end Rules

/-! ### Big-endian integers -/

/-- The low `width` bytes of `value`, most significant first. -/
def putBE : Nat → Nat → Bytes
  | 0, _ => []
  | width + 1, value => UInt8.ofNat (value / 256 ^ width) :: putBE width value

/-- The number whose big-endian digits are the given bytes. -/
def valueBE (bytes : Bytes) : Nat := bytes.foldl (fun acc byte => acc * 256 + byte.toNat) 0

@[simp] theorem putBE_length (width value : Nat) : (putBE width value).length = width := by
  induction width with
  | zero => rfl
  | succ width ih => simp [putBE, ih]

theorem foldl_putBE (width value acc : Nat) : (putBE width value).foldl (fun acc byte => acc * 256 + byte.toNat) acc
      = acc * 256 ^ width + value % 256 ^ width := by
  induction width generalizing acc with
  | zero => simp [putBE, Nat.mod_one]
  | succ width ih =>
    simp only [putBE, foldl_cons, ih, UInt8.toNat_ofNat']
    -- the leading digit contributes `value / 256 ^ width % 256` at weight `256 ^ width`
    have hdigit : value % 256 ^ (width + 1) = 256 ^ width * (value / 256 ^ width % 256) + value % 256 ^ width := by
      rw [Nat.pow_succ, Nat.mod_mul, Nat.add_comm]
    have hweight : acc * 256 ^ (width + 1) = acc * 256 * 256 ^ width := by
      rw [Nat.pow_succ, Nat.mul_assoc, Nat.mul_comm 256]
    rw [hdigit, hweight, Nat.add_mul, Nat.add_assoc, Nat.mul_comm (256 ^ width)]

theorem valueBE_putBE (width value : Nat) : valueBE (putBE width value) = value % 256 ^ width := by
  rw [valueBE, foldl_putBE, Nat.zero_mul, Nat.zero_add]

theorem valueBE_lt (bytes : Bytes) : valueBE bytes < 256 ^ bytes.length := by
  have hfold : ∀ (bytes : Bytes) (acc bound : Nat), acc < bound →
      bytes.foldl (fun acc byte => acc * 256 + byte.toNat) acc < bound * 256 ^ bytes.length := by
    intro bytes
    induction bytes with
    | nil =>
      intro acc bound h
      simpa using h
    | cons byte bytes ih =>
      intro acc bound h
      have hbyte := byte.toNat_lt
      have hnext := ih (acc * 256 + byte.toNat) (bound * 256) (by omega)
      rw [length_cons, Nat.pow_succ, Nat.mul_comm (256 ^ bytes.length), ← Nat.mul_assoc]
      exact hnext
  simpa [valueBE] using hfold bytes 0 1 Nat.one_pos

theorem valueBE_cons (byte : UInt8) (bytes : Bytes) :
    valueBE (byte :: bytes) = byte.toNat * 256 ^ bytes.length + valueBE bytes := by
  have hfold : ∀ (bytes : Bytes) (acc : Nat), bytes.foldl (fun acc byte => acc * 256 + byte.toNat) acc
      = acc * 256 ^ bytes.length + valueBE bytes := by
    intro bytes
    induction bytes with
    | nil => simp [valueBE]
    | cons byte bytes ih =>
      intro acc
      rw [valueBE, foldl_cons, foldl_cons, ih, ih (0 * 256 + byte.toNat), length_cons]
      ring
  rw [valueBE, foldl_cons, hfold, Nat.zero_mul, Nat.zero_add]

/-- Only the low digits of the value count. -/
theorem putBE_add (width value extra : Nat) : putBE width (extra * 256 ^ width + value) = putBE width value := by
  induction width generalizing extra with
  | zero => rfl
  | succ width ih =>
    have hdiv : (extra * 256 ^ (width + 1) + value) / 256 ^ width = extra * 256 + value / 256 ^ width := by
      rw [Nat.pow_succ, ← Nat.mul_assoc, Nat.mul_right_comm, Nat.mul_comm (extra * 256),
        Nat.mul_add_div (Nat.pow_pos (by decide))]
    have hdigit : UInt8.ofNat (extra * 256 + value / 256 ^ width) = UInt8.ofNat (value / 256 ^ width) := by
      rw [← UInt8.toNat_inj, UInt8.toNat_ofNat', UInt8.toNat_ofNat']
      omega
    have hlow : putBE width (extra * 256 ^ (width + 1) + value) = putBE width value := by
      rw [Nat.pow_succ, ← Nat.mul_assoc, Nat.mul_right_comm, ih]
    rw [putBE, putBE, hdiv, hdigit, hlow]

/-- Bytes are the digits of the number they spell. -/
theorem putBE_valueBE (bytes : Bytes) : putBE bytes.length (valueBE bytes) = bytes := by
  induction bytes with
  | nil => rfl
  | cons byte bytes ih =>
    have hlow := valueBE_lt bytes
    have hdiv : valueBE (byte :: bytes) / 256 ^ bytes.length = byte.toNat := by
      rw [valueBE_cons, Nat.mul_comm, Nat.mul_add_div (Nat.pow_pos (by decide)), Nat.div_eq_of_lt hlow, Nat.add_zero]
    rw [length_cons, putBE, hdiv, UInt8.ofNat_toNat, valueBE_cons, putBE_add, ih]

/-- The next `count` bytes, or `short` when fewer remain. -/
def takeBytes {ε : Type} (short : ε) (count : Nat) : Decoder ε Bytes :=
  ⟨fun input => if input.length < count then .error short else .ok (input.take count, input.drop count)⟩

theorem takeBytes_append (short : ε) {count : Nat} {bytes : Bytes} (rest : Bytes)
    (h : bytes.length = count) : (takeBytes short count).run (bytes ++ rest) = .ok (bytes, rest) := by
  subst h
  simp [takeBytes]

/-- A big-endian integer of `width` bytes. -/
def takeBE {ε : Type} (short : ε) (width : Nat) : Decoder ε Nat := do
  let bytes ← takeBytes short width
  pure (valueBE bytes)

theorem takeBE_putBE (short : ε) {width value : Nat} (rest : Bytes) (h : value < 256 ^ width) :
    (takeBE short width).run (putBE width value ++ rest) = .ok (value, rest) := by
  have htake := takeBytes_append short rest (putBE_length width value)
  rw [takeBE, Decoder.bind_of_ok _ htake, Decoder.run_pure, valueBE_putBE, Nat.mod_eq_of_lt h]

theorem takeBytes_consumes (short : ε) (count : Nat) :
    (takeBytes short count).Consumes (fun bytes used => bytes = used ∧ bytes.length = count) := by
  intro input bytes rest h
  simp only [takeBytes] at h
  split at h
  next => cases h
  next hlen =>
    cases h
    exact ⟨input.take count, (take_append_drop count input).symm, rfl, by simp; omega⟩

theorem takeBE_consumes (short : ε) (width : Nat) :
    (takeBE short width).Consumes (fun value used => used = putBE width value ∧ value < 256 ^ width) := by
  refine Decoder.Consumes.bind (takeBytes_consumes short width) ?_
  rintro bytes _ ⟨rfl, rfl⟩
  exact Decoder.Consumes.pure ⟨by rw [append_nil, putBE_valueBE], valueBE_lt _⟩

/-! ### Lists with their count read before -/

/-- Run a decoder `count` times. -/
def repeatN {ε α : Type} (dec : Decoder ε α) : Nat → Decoder ε (List α)
  | 0 => pure []
  | count + 1 => do
    let a ← dec
    let rest ← repeatN dec count
    pure (a :: rest)

theorem repeatN_roundTrip (h : ∀ a ∈ as, RoundTrip enc dec a) :
    RoundTrip (List.flatMap enc) (repeatN dec as.length) as := by
  induction as with
  | nil =>
    intro rest
    rfl
  | cons a as ih =>
    intro rest
    have hrest := ih (fun b hb => h b (mem_cons_of_mem _ hb)) rest
    rw [flatMap_cons, append_assoc, length_cons, repeatN]
    rw [Decoder.bind_of_ok _ (h a mem_cons_self _), Decoder.bind_of_ok _ hrest]
    rfl

theorem repeatN_yields (h : dec.Yields P) (count : Nat) :
    (repeatN dec count).Yields (fun as => as.length = count ∧ ∀ a ∈ as, P a) := by
  induction count with
  | zero => exact .pure ⟨rfl, by simp⟩
  | succ count ih =>
    refine .bind h fun a ha => .bind ih fun as has => ?_
    refine .pure ⟨by simp [has.1], ?_⟩
    intro b hb
    rcases mem_cons.mp hb with rfl | hb
    · exact ha
    · exact has.2 b hb

theorem repeatN_canonical (h : Canonical enc dec) (count : Nat) : Canonical (List.flatMap enc) (repeatN dec count) := by
  induction count with
  | zero => exact Decoder.Consumes.pure rfl
  | succ count ih =>
    refine h.bind fun a => ih.bind fun as => Decoder.Consumes.pure ?_
    rw [append_nil, flatMap_cons]

section Ascending

variable [LinearOrder κ]

/-- Run a decoder `count` times, refusing a key that does not exceed the one before it. -/
def repeatAscending (dec : Decoder ε α) (key : α → κ) (disorder : ε) : Nat → Option κ → Decoder ε (List α)
  | 0, _ => pure []
  | count + 1, last => do
    let a ← dec
    Decoder.ensure (∀ k ∈ last, k < key a) disorder
    let rest ← repeatAscending dec key disorder count (some (key a))
    pure (a :: rest)

theorem repeatAscending_roundTrip (disorder : ε) (last : Option κ) (h : ∀ a ∈ as, RoundTrip enc dec a)
    (hsorted : as.Pairwise (fun a b => key a < key b)) (hlast : ∀ k ∈ last, ∀ a ∈ as, k < key a) :
    RoundTrip (List.flatMap enc) (repeatAscending dec key disorder as.length last) as := by
  induction as generalizing last with
  | nil =>
    intro rest
    rfl
  | cons a as ih =>
    intro rest
    obtain ⟨ha, has⟩ := pairwise_cons.mp hsorted
    have hfirst : ∀ k ∈ last, k < key a := fun k hk => hlast k hk a mem_cons_self
    have htail : ∀ k ∈ some (key a), ∀ b ∈ as, k < key b := by
      intro k hk b hb
      cases hk
      exact ha b hb
    have hrest := ih (some (key a)) (fun b hb => h b (mem_cons_of_mem _ hb)) has htail rest
    rw [flatMap_cons, append_assoc, length_cons, repeatAscending]
    rw [Decoder.bind_of_ok _ (h a mem_cons_self _),
      Decoder.bind_of_ok _ (Decoder.ensure_of disorder _ hfirst), Decoder.bind_of_ok _ hrest]
    rfl

theorem repeatAscending_yields {disorder : ε} (h : dec.Yields P) (count : Nat) (last : Option κ) :
    (repeatAscending dec key disorder count last).Yields (fun as =>
      as.length = count ∧ (∀ a ∈ as, P a) ∧ as.Pairwise (fun a b => key a < key b) ∧
        ∀ k ∈ last, ∀ a ∈ as, k < key a) := by
  induction count generalizing last with
  | zero => exact .pure ⟨rfl, by simp, List.Pairwise.nil, by simp⟩
  | succ count ih =>
    refine .bind h fun a ha => ?_
    refine .ensure fun hfirst => ?_
    refine .bind (ih (some (key a))) fun as has => .pure ?_
    obtain ⟨hlen, hall, hsorted, hlater⟩ := has
    refine ⟨by simp [hlen], ?_, pairwise_cons.mpr ⟨fun b hb => hlater _ rfl b hb, hsorted⟩, ?_⟩
    · intro b hb
      rcases mem_cons.mp hb with rfl | hb
      · exact ha
      · exact hall b hb
    · intro k hk b hb
      rcases mem_cons.mp hb with rfl | hb
      · exact hfirst k hk
      · exact lt_trans (hfirst k hk) (hlater _ rfl b hb)

theorem repeatAscending_canonical (key : α → κ) (disorder : ε) (h : Canonical enc dec) (count : Nat)
    (last : Option κ) : Canonical (List.flatMap enc) (repeatAscending dec key disorder count last) := by
  induction count generalizing last with
  | zero => exact Decoder.Consumes.pure rfl
  | succ count ih =>
    refine h.bind fun a => Decoder.Consumes.ensure fun _ => (ih (some (key a))).bind fun as => ?_
    refine Decoder.Consumes.pure ?_
    rw [append_nil, flatMap_cons]

end Ascending

end Decoding

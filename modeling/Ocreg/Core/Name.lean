/-
Module: Ocreg.Core.Name
Purpose: Bounded canonical tokens naming providers, models, serials and sources.
-/
import Ocreg.Core.Reason

namespace Ocreg

def kMaxNameLength : Nat := 48

/-- `[a-z0-9]`. -/
def isLowerAlnum (c : UInt8) : Bool := (97 ≤ c && c ≤ 122) || (48 ≤ c && c ≤ 57)

/-- One of `.`, `_`, `-`. -/
def isSeparator (c : UInt8) : Bool := c == 46 || c == 95 || c == 45

def isContinuation (c : UInt8) : Bool := isLowerAlnum c || isSeparator c

/-- Two separators in a row somewhere. -/
def doubledSeparator : Bytes → Bool
  | prev :: cur :: rest => (isSeparator prev && isSeparator cur) || doubledSeparator (cur :: rest)
  | _ => false

/-- The grammar `Name::parse` accepts. -/
def nameGrammar (chars : Bytes) : Bool :=
  chars ≠ [] && chars.length ≤ kMaxNameLength
    && (chars.head?.map isLowerAlnum).getD false
    && chars.all isContinuation
    && !(chars.getLast?.map isSeparator).getD false
    && !doubledSeparator chars

/-- A name is empty (the default-constructed value) or accepted by the grammar. -/
structure Name where
  chars : Bytes
  valid : chars = [] ∨ nameGrammar chars = true
deriving DecidableEq

namespace Name

theorem chars_injective : Function.Injective chars := by
  intro a b h
  cases a
  cases b
  simpa using h

/-- First difference decides; a proper prefix comes first. -/
instance : LinearOrder Name := LinearOrder.lift' chars chars_injective

instance : Inhabited Name := ⟨⟨[], Or.inl rfl⟩⟩

def empty (name : Name) : Bool := name.chars.isEmpty

def parse? (chars : Bytes) : Option Name :=
  if h : nameGrammar chars = true then some ⟨chars, Or.inr h⟩ else none

theorem parse?_chars (name : Name) (h : name.chars ≠ []) : parse? name.chars = some name := by
  rw [parse?, dif_pos (name.valid.resolve_left h)]

theorem length_le (name : Name) : name.chars.length ≤ kMaxNameLength := by
  rcases name.valid with h | h
  · simp [h]
  · simp only [nameGrammar, Bool.and_eq_true, decide_eq_true_eq] at h
    exact h.1.1.1.1.2

end Name

abbrev ProviderId := Name
abbrev DeviceModelId := Name
abbrev DeviceSerialId := Name
abbrev SourceId := Name

end Ocreg

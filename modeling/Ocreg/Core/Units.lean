/-
Module: Ocreg.Core.Units
Purpose: Physical units and scales, exact conversion and exact comparison of quantities.
-/
import Ocreg.Core.SemVer

namespace Ocreg

inductive UnitCode where
  | none | count | bit | byte | bitPerSecond | bytePerSecond | packetPerSecond | nanoSecond | microSecond
  | milliSecond | second | hertz | partsPerMillion | percent | operationPerSecond
deriving DecidableEq

inductive UnitScale where
  | unity | decimal | binary
deriving DecidableEq

inductive Dimension where
  | dimensionless | count | data | dataRate | rate | time | frequency | ratio
deriving DecidableEq

def kMaxUnitExponent : UInt8 := 6

/-- A unit code with a scale: a kibibyte is `⟨.byte, .binary, 1⟩`. -/
structure PhysicalUnit where
  code : UnitCode
  scale : UnitScale
  exponent : UInt8
deriving DecidableEq

/-- Row of the unit table. -/
structure UnitCodeInfo where
  numeric : UInt16
  dimension : Dimension
  baseFactor : UInt64
  decimalScale : Bool
  binaryScale : Bool

namespace UnitCode

/-- The unit table. -/
def info : UnitCode → UnitCodeInfo
  | .none => ⟨0, .dimensionless, 1, false, false⟩
  | .count => ⟨1, .count, 1, false, false⟩
  | .bit => ⟨2, .data, 1, true, true⟩
  | .byte => ⟨3, .data, 8, true, true⟩
  | .bitPerSecond => ⟨4, .dataRate, 1, true, true⟩
  | .bytePerSecond => ⟨5, .dataRate, 8, true, true⟩
  | .packetPerSecond => ⟨6, .rate, 1, true, true⟩
  | .operationPerSecond => ⟨14, .rate, 1, true, false⟩
  | .nanoSecond => ⟨7, .time, 1, true, false⟩
  | .microSecond => ⟨8, .time, 1000, true, false⟩
  | .milliSecond => ⟨9, .time, 1000000, true, false⟩
  | .second => ⟨10, .time, 1000000000, true, false⟩
  | .hertz => ⟨11, .frequency, 1, true, false⟩
  | .partsPerMillion => ⟨12, .ratio, 1, false, false⟩
  | .percent => ⟨13, .ratio, 10000, false, false⟩

def all : List UnitCode := [
  .none, .count, .bit, .byte, .bitPerSecond, .bytePerSecond, .packetPerSecond, .operationPerSecond,
  .nanoSecond, .microSecond, .milliSecond, .second, .hertz, .partsPerMillion, .percent]

def ofNumeric? (raw : UInt16) : Option UnitCode := all.find? (fun code => code.info.numeric == raw)

@[simp] theorem ofNumeric?_numeric (code : UnitCode) : ofNumeric? code.info.numeric = some code := by
  cases code <;> rfl

end UnitCode

namespace UnitScale

def numeric : UnitScale → UInt8
  | .unity => 0
  | .decimal => 1
  | .binary => 2

def ofNumeric? (raw : UInt8) : Option UnitScale := [unity, decimal, binary].find? (fun s => s.numeric == raw)

@[simp] theorem ofNumeric?_numeric (scale : UnitScale) : ofNumeric? scale.numeric = some scale := by
  cases scale <;> rfl

end UnitScale

def dimensionOf (code : UnitCode) : Dimension := code.info.dimension

def unitIsWellFormed (unit : PhysicalUnit) : Bool :=
  if unit.exponent > kMaxUnitExponent then false
  else match unit.scale with
    | .unity => unit.exponent == 0
    | .decimal => unit.code.info.decimalScale
    | .binary => unit.code.info.binaryScale

/-! ### Exact conversion -/

/-- Multiplication that reports overflow. -/
def checkedMul (a b : UInt64) : Option UInt64 :=
  if a.toNat * b.toNat < 2 ^ 64 then some (a * b) else none

/-- Repeated multiplication by the scale's base. -/
def scaleMultiplierLoop (base : UInt64) : Nat → UInt64 → Option UInt64
  | 0, result => some result
  | count + 1, result => (checkedMul result base).bind (scaleMultiplierLoop base count)

def scaleMultiplier (scale : UnitScale) (exponent : UInt8) : Option UInt64 :=
  scaleMultiplierLoop (if scale = .decimal then 10 else 1024) exponent.toNat 1

/-- Integer factor from the unit to the base unit of its dimension. -/
def factorToBase (unit : PhysicalUnit) : Option UInt64 :=
  if unitIsWellFormed unit then
    (scaleMultiplier unit.scale unit.exponent).bind (checkedMul unit.code.info.baseFactor)
  else none

structure U128 where
  hi : UInt64
  lo : UInt64
deriving DecidableEq

/-- 64 by 64 bit product, from the 128-bit product of the compiler. -/
def mulU64 (a b : UInt64) : U128 :=
  ⟨UInt64.ofNat (a.toNat * b.toNat / 2 ^ 64), UInt64.ofNat (a.toNat * b.toNat)⟩

/-- The product by partial products of 32-bit halves, as it is computed without a 128-bit type. -/
def mulU64Portable (a b : UInt64) : U128 :=
  let aLo := a &&& 0xFFFFFFFF
  let aHi := a >>> 32
  let bLo := b &&& 0xFFFFFFFF
  let bHi := b >>> 32
  let p0 := aLo * bLo
  let p1 := aLo * bHi
  let p2 := aHi * bLo
  let p3 := aHi * bHi
  let carry := ((p0 >>> 32) + (p1 &&& 0xFFFFFFFF) + (p2 &&& 0xFFFFFFFF)) >>> 32
  ⟨p3 + (p1 >>> 32) + (p2 >>> 32) + carry, p0 + (p1 <<< 32) + (p2 <<< 32)⟩

/-- Restoring long division, from bit `count - 1` down: remainder and quotient so far. A quotient bit at or
    above 64 refuses the division. -/
def divU128Loop (value : U128) (divisor : UInt64) : Nat → UInt64 → UInt64 → Option (UInt64 × UInt64)
  | 0, remainder, result => some (remainder, result)
  | bit + 1, remainder, result =>
    let nextBit := if bit ≥ 64 then (value.hi >>> UInt64.ofNat (bit - 64)) &&& 1
      else (value.lo >>> UInt64.ofNat bit) &&& 1
    let carry := remainder >>> 63 ≠ 0
    let remainder := (remainder <<< 1) ||| nextBit
    if carry ∨ remainder ≥ divisor then
      if bit ≥ 64 then none
      else divU128Loop value divisor bit (remainder - divisor) (result ||| (1 <<< UInt64.ofNat bit))
    else divU128Loop value divisor bit remainder result

/-- Exact quotient below `2 ^ 64`, if there is one. -/
def divU128Exact (value : U128) (divisor : UInt64) : Option UInt64 :=
  if divisor = 0 then none
  else if value.hi ≥ divisor then none
  else match divU128Loop value divisor 128 0 0 with
    | some (remainder, result) => if remainder ≠ 0 then none else some result
    | none => none

/-- `convert_exact`: none where the result is no integer or does not fit. -/
def convertExact (value : Int64) (source target : PhysicalUnit) : Option Int64 :=
  if !unitIsWellFormed source || !unitIsWellFormed target then none
  else if dimensionOf source.code ≠ dimensionOf target.code then none
  else do
    let sourceFactor ← factorToBase source
    let targetFactor ← factorToBase target
    let negative := value < 0
    let magnitude := if negative then (-(value + 1)).toUInt64 + 1 else value.toUInt64
    let quotient ← divU128Exact (mulU64 magnitude sourceFactor) targetFactor
    if quotient > Int64.maxValue.toUInt64 then
      if negative ∧ quotient = Int64.maxValue.toUInt64 + 1 then some Int64.minValue else none
    else some (if negative then -quotient.toInt64 else quotient.toInt64)

/-- Order of two quantities, when one converts exactly into the other's unit. -/
def compareExact (lhs : Int64) (lhsUnit : PhysicalUnit) (rhs : Int64) (rhsUnit : PhysicalUnit) : Option Ordering :=
  if lhsUnit = rhsUnit then some (compare lhs rhs)
  else match convertExact lhs lhsUnit rhsUnit with
    | some lhsInRhs => some (compare lhsInRhs rhs)
    | none => (convertExact rhs rhsUnit lhsUnit).map (fun rhsInLhs => compare lhs rhsInLhs)

example : compareExact 1 ⟨.byte, .binary, 1⟩ 8192 ⟨.bit, .unity, 0⟩ = some .eq := by decide +kernel

end Ocreg

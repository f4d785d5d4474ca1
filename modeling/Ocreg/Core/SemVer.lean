/-
Module: Ocreg.Core.SemVer
Purpose: Exact semantic versions: the strict text form, its parser, and specification precedence.
-/
import Ocreg.Core.Name

namespace Ocreg

open List

variable {mark : UInt8} {fuel n : Nat} {qualifier prerelease build : Bytes} {enforce : Bool}
  (major minor patch : UInt32) (v : SemVer)

def kMaxSemVerQualifierLength : Nat := 32

def isDigit (c : UInt8) : Bool := 48 ≤ c && c ≤ 57

def isAlnumDash (c : UInt8) : Bool :=
  isDigit c || (97 ≤ c && c ≤ 122) || (65 ≤ c && c ≤ 90) || c == 45

def isNumericIdentifier (identifier : Bytes) : Bool := !identifier.isEmpty && identifier.all isDigit

/-- One dot-separated identifier. Only pre-release identifiers forbid leading zeros. -/
def identifierOk (enforceNumericRule : Bool) (identifier : Bytes) : Bool :=
  !identifier.isEmpty && identifier.all isAlnumDash
    && !(enforceNumericRule && isNumericIdentifier identifier && decide (identifier.length > 1)
          && identifier.head? == some 48)

def parseIdentifiers (qualifier : Bytes) (enforceNumericRule : Bool) : Bool :=
  !qualifier.isEmpty && decide (qualifier.length ≤ kMaxSemVerQualifierLength)
    && (qualifier.splitOn 46).all (identifierOk enforceNumericRule)

/-- A version whose qualifiers are absent or well formed, the only values the constructors and the parser
    produce. -/
structure SemVer where
  major : UInt32
  minor : UInt32
  patch : UInt32
  prerelease : Bytes
  build : Bytes
  prerelease_ok : prerelease = [] ∨ parseIdentifiers prerelease true = true
  build_ok : build = [] ∨ parseIdentifiers build false = true
deriving DecidableEq

namespace SemVer

/-- A version without qualifiers. -/
def mk3 (major minor patch : UInt32) : SemVer := ⟨major, minor, patch, [], [], Or.inl rfl, Or.inl rfl⟩

instance : Inhabited SemVer := ⟨mk3 0 0 0⟩

/-! ### Text form -/

/-- Decimal digits, most significant first; `fuel` bounds the number of digits. -/
def decimalFuel : Nat → Nat → Bytes
  | 0, _ => []
  | fuel + 1, n => if n < 10 then [UInt8.ofNat (48 + n)]
      else decimalFuel fuel (n / 10) ++ [UInt8.ofNat (48 + n % 10)]

/-- `std::to_string` of an unsigned number. -/
def decimal (n : Nat) : Bytes := decimalFuel (n + 1) n

def coreText (major minor patch : UInt32) : Bytes :=
  decimal major.toNat ++ 46 :: (decimal minor.toNat ++ 46 :: decimal patch.toNat)

/-- Append `mark` and a qualifier when there is one. -/
def withQualifier (mark : UInt8) (qualifier : Bytes) : Bytes :=
  if qualifier.isEmpty then [] else mark :: qualifier

/-- Text of the five parts; the parts need not be valid. -/
def textOf (major minor patch : UInt32) (prerelease build : Bytes) : Bytes :=
  coreText major minor patch ++ (withQualifier 45 prerelease ++ withQualifier 43 build)

def str (v : SemVer) : Bytes := textOf v.major v.minor v.patch v.prerelease v.build

/-- Split at the first occurrence of a byte, which is dropped. -/
def cutAt (mark : UInt8) : Bytes → Option (Bytes × Bytes)
  | [] => none
  | c :: rest => if c = mark then some ([], rest) else (cutAt mark rest).map (fun p => (c :: p.1, p.2))

/-- Separate the core from pre-release and build metadata. -/
def split (chars : Bytes) : Option (Bytes × Bytes × Bytes) := do
  let (chars, build) ← match cutAt 43 chars with
    | some (before, build) => if build.isEmpty || build.contains 43 then none else some (before, build)
    | none => some (chars, [])
  match cutAt 45 chars with
  | some (core, prerelease) => if prerelease.isEmpty then none else some (core, prerelease, build)
  | none => some (chars, [], build)

/-- Accumulate decimal digits, giving up beyond 32 bits. -/
def componentValue : Nat → Bytes → Option Nat
  | value, [] => some value
  | value, c :: rest =>
    let value := value * 10 + (c.toNat - 48)
    if value > 0xFFFFFFFF then none else componentValue value rest

def parseComponent (chars : Bytes) : Option UInt32 :=
  if chars.isEmpty || chars.length > 10 then none
  else if !chars.all isDigit then none
  else if chars.length > 1 ∧ chars.head? = some 48 then none
  else (componentValue 0 chars).map UInt32.ofNat

/-- The three dot-separated core numbers. -/
def parseCore (core : Bytes) : Option (UInt32 × UInt32 × UInt32) := do
  let (component, rest) ← cutAt 46 core
  let major ← parseComponent component
  let (component, rest) ← cutAt 46 rest
  let minor ← parseComponent component
  if rest.contains 46 then none
  else
    let patch ← parseComponent rest
    pure (major, minor, patch)

def parse? (chars : Bytes) : Option SemVer :=
  if chars.isEmpty || chars.length > 128 then none
  else do
    let (core, prerelease, build) ← split chars
    let (major, minor, patch) ← parseCore core
    if hpre : prerelease = [] ∨ parseIdentifiers prerelease true = true then
      if hbuild : build = [] ∨ parseIdentifiers build false = true then
        some ⟨major, minor, patch, prerelease, build, hpre, hbuild⟩
      else none
    else none

/-! ### Parsing what was printed -/

theorem cutAt_append {before : Bytes} (after : Bytes) (h : mark ∉ before) :
    cutAt mark (before ++ mark :: after) = some (before, after) := by
  induction before with
  | nil => simp [cutAt]
  | cons c before ih =>
    have hne : c ≠ mark := fun heq => h (heq ▸ mem_cons_self)
    have hrest := ih (fun hmem => h (mem_cons_of_mem _ hmem))
    simp [cutAt, hne, hrest]

theorem cutAt_of_notMem {chars : Bytes} (h : mark ∉ chars) : cutAt mark chars = none := by
  induction chars with
  | nil => rfl
  | cons c chars ih =>
    have hne : c ≠ mark := fun heq => h (heq ▸ mem_cons_self)
    have hrest := ih (fun hmem => h (mem_cons_of_mem _ hmem))
    simp [cutAt, hne, hrest]

theorem componentValue_append_digit (value : Nat) (chars : Bytes) (c : UInt8) :
    componentValue value (chars ++ [c]) = (componentValue value chars).bind (fun v =>
      if v * 10 + (c.toNat - 48) > 0xFFFFFFFF then none else some (v * 10 + (c.toNat - 48))) := by
  induction chars generalizing value with
  | nil => simp [componentValue]
  | cons d chars ih =>
    simp only [cons_append, componentValue]
    split
    · rfl
    · exact ih _

theorem toNat_digit {d : Nat} (h : d < 10) : (UInt8.ofNat (48 + d)).toNat = 48 + d := by
  rw [UInt8.toNat_ofNat']
  omega

theorem componentValue_decimalFuel (hfuel : n < fuel) (hn : n < 2 ^ 32) :
    componentValue 0 (decimalFuel fuel n) = some n := by
  induction fuel generalizing n with
  | zero => omega
  | succ fuel ih =>
    rw [decimalFuel]
    split
    next hsmall =>
      rw [componentValue, toNat_digit hsmall, Nat.zero_mul, Nat.zero_add, Nat.add_sub_cancel_left]
      exact if_neg (by omega)
    next hbig =>
      have hmod : n % 10 < 10 := Nat.mod_lt _ (by omega)
      have hvalue : n / 10 * 10 + n % 10 = n := by omega
      rw [componentValue_append_digit, ih (by omega) (by omega), Option.bind_some, toNat_digit hmod,
        Nat.add_sub_cancel_left, hvalue, if_neg (by omega)]

theorem decimalFuel_isDigit : ∀ c ∈ decimalFuel fuel n, isDigit c = true := by
  have hdigit : ∀ d, d < 10 → isDigit (UInt8.ofNat (48 + d)) = true := by decide
  induction fuel generalizing n with
  | zero => simp [decimalFuel]
  | succ fuel ih =>
    rw [decimalFuel]
    split
    next hsmall => exact forall_mem_singleton.mpr (hdigit n hsmall)
    next hbig =>
      exact forall_mem_append.mpr ⟨ih, forall_mem_singleton.mpr (hdigit _ (Nat.mod_lt _ (by omega)))⟩

theorem decimalFuel_length_le {digits : Nat} (hn : n < 10 ^ (digits + 1)) :
    (decimalFuel fuel n).length ≤ digits + 1 := by
  induction fuel generalizing n digits with
  | zero => simp [decimalFuel]
  | succ fuel ih =>
    rw [decimalFuel]
    split
    next hsmall => simp
    next hbig =>
      cases digits with
      | zero => omega
      | succ digits =>
        have hdiv : n / 10 < 10 ^ (digits + 1) :=
          Nat.div_lt_of_lt_mul (by rw [Nat.pow_succ] at hn; omega)
        have hlen := ih hdiv
        rw [length_append, length_singleton]
        omega

theorem decimalFuel_ne_nil (hfuel : n < fuel) : decimalFuel fuel n ≠ [] := by
  cases fuel with
  | zero => omega
  | succ fuel =>
    rw [decimalFuel]
    split <;> simp

/-- No leading zero, except for zero itself. -/
theorem decimalFuel_head (hfuel : n < fuel) (hn : 0 < n) : (decimalFuel fuel n).head? ≠ some 48 := by
  have hdigit : ∀ d, d < 10 → 0 < d → UInt8.ofNat (48 + d) ≠ 48 := by decide
  induction fuel generalizing n with
  | zero => omega
  | succ fuel ih =>
    rw [decimalFuel]
    split
    next hsmall => simpa using hdigit n hsmall hn
    next hbig =>
      have hdiv : n / 10 < fuel := by omega
      have hhead := ih hdiv (by omega)
      obtain ⟨c, rest, hcons⟩ := exists_cons_of_ne_nil (decimalFuel_ne_nil hdiv)
      rw [hcons] at hhead ⊢
      simpa using hhead

theorem decimalFuel_length_small (hn : n < 10) : (decimalFuel fuel n).length ≤ 1 := by
  cases fuel with
  | zero => simp [decimalFuel]
  | succ fuel => simp [decimalFuel, hn]

theorem parseComponent_decimal (n : UInt32) : parseComponent (decimal n.toNat) = some n := by
  have hn : n.toNat < 2 ^ 32 := n.toNat_lt
  have hfuel : n.toNat < n.toNat + 1 := Nat.lt_succ_self _
  have hne := decimalFuel_ne_nil hfuel
  have hlen : (decimal n.toNat).length ≤ 10 := decimalFuel_length_le (by omega)
  have hdigits : (decimal n.toNat).all isDigit = true := by
    rw [all_eq_true]
    exact decimalFuel_isDigit
  have hlead : ¬ ((decimal n.toNat).length > 1 ∧ (decimal n.toNat).head? = some 48) := by
    rintro ⟨hlong, hhead⟩
    by_cases hsmall : n.toNat < 10
    · have hshort : (decimal n.toNat).length ≤ 1 := decimalFuel_length_small hsmall
      omega
    · exact decimalFuel_head hfuel (by omega) hhead
  have hempty : (decimal n.toNat).isEmpty = false := by
    rw [isEmpty_eq_false_iff]
    exact hne
  have hvalue : componentValue 0 (decimal n.toNat) = some n.toNat := componentValue_decimalFuel hfuel hn
  rw [parseComponent, hempty, hdigits, if_neg (by simp; omega), if_neg (by simp), if_neg hlead, hvalue]
  simp

/-- Digits contain none of the marks that separate parts. -/
theorem notMem_decimal (hmark : isDigit mark = false) (n : Nat) : mark ∉ decimal n := by
  intro hmem
  have hdigit := decimalFuel_isDigit mark hmem
  rw [hmark] at hdigit
  cases hdigit

theorem notMem_coreText (hmark : isDigit mark = false) (hdot : mark ≠ 46) (major minor patch : UInt32) :
    mark ∉ coreText major minor patch := by
  simp [coreText, notMem_decimal hmark, hdot]

theorem parseCore_coreText : parseCore (coreText major minor patch) = some (major, minor, patch) := by
  have hdot : isDigit 46 = false := by decide
  have hpatch := notMem_decimal hdot patch.toNat
  simp [parseCore, coreText, cutAt_append _ (notMem_decimal hdot _), parseComponent_decimal, hpatch]

section

variable (h : qualifier = [] ∨ parseIdentifiers qualifier enforce = true)
include h

/-- A well-formed qualifier contains no `+`. -/
theorem notMem_qualifier : 43 ∉ qualifier := by
  rcases h with rfl | h
  · simp
  · simp only [parseIdentifiers, Bool.and_eq_true] at h
    intro hmem
    -- the plus sign would sit inside one of the identifiers
    have hjoin : List.intercalate [46] (qualifier.splitOn 46) = qualifier := intercalate_splitOn 46
    have hmem' : (43 : UInt8) ∈ List.intercalate [46] (qualifier.splitOn 46) := hjoin.symm ▸ hmem
    have hall := h.2
    generalize qualifier.splitOn 46 = parts at hmem' hall
    induction parts with
    | nil => simp [List.intercalate] at hmem'
    | cons part parts ih =>
      rw [all_cons, Bool.and_eq_true] at hall
      have hpart : (43 : UInt8) ∉ part := by
        intro hin
        simp only [identifierOk, Bool.and_eq_true, all_eq_true] at hall
        exact absurd (hall.1.1.2 43 hin) (by decide)
      cases parts with
      | nil => exact hpart (by simpa [List.intercalate] using hmem')
      | cons next parts =>
        rw [intercalate_cons_cons] at hmem'
        simp only [mem_append, mem_singleton] at hmem'
        rcases hmem' with (hin | hin) | hin
        · exact hpart hin
        · exact absurd hin (by decide)
        · exact ih hin hall.2

theorem qualifier_length_le : qualifier.length ≤ kMaxSemVerQualifierLength := by
  rcases h with rfl | h
  · simp
  · simp only [parseIdentifiers, Bool.and_eq_true, decide_eq_true_eq] at h
    exact h.1.2

end

section

variable (hprerelease : 43 ∉ prerelease)
include hprerelease

/-- The text before the build metadata has no plus sign of its own. -/
theorem notMem_beforeBuild : 43 ∉ coreText major minor patch ++ withQualifier 45 prerelease := by
  have hcore : 43 ∉ coreText major minor patch := notMem_coreText (by decide) (by decide) _ _ _
  simp only [mem_append, withQualifier, not_or]
  refine ⟨hcore, ?_⟩
  split
  · simp
  · simp [hprerelease]

/-- Parts without a plus sign are told apart again. -/
theorem split_textOf (hbuild : 43 ∉ build) :
    split (textOf major minor patch prerelease build) = some (coreText major minor patch, prerelease, build) := by
  have hcoreDash : 45 ∉ coreText major minor patch := notMem_coreText (by decide) (by decide) _ _ _
  have hplus := notMem_beforeBuild major minor patch hprerelease
  have hdash : (match cutAt 45 (coreText major minor patch ++ withQualifier 45 prerelease) with
      | some (core, prerelease) => if prerelease.isEmpty then none else some (core, prerelease, build)
      | none => some (coreText major minor patch ++ withQualifier 45 prerelease, [], build))
      = some (coreText major minor patch, prerelease, build) := by
    cases prerelease with
    | nil => simp [withQualifier, cutAt_of_notMem hcoreDash]
    | cons c rest => simp [withQualifier, cutAt_append _ hcoreDash]
  rw [textOf, ← append_assoc, split]
  cases build with
  | nil =>
    simp [withQualifier] at hplus hdash ⊢
    rw [cutAt_of_notMem (by simpa using hplus)]
    simpa using hdash
  | cons c rest =>
    have hcut := cutAt_append (c :: rest) hplus
    have hmark : withQualifier 43 (c :: rest) = 43 :: c :: rest := rfl
    have hnot : (c :: rest).contains (43 : UInt8) = false := by
      rw [Bool.eq_false_iff]
      intro hcontains
      exact hbuild (contains_iff_mem.mp hcontains)
    rw [hmark, hcut]
    simp only [isEmpty_cons, hnot, Bool.or_false, Bool.false_eq_true, if_false]
    exact hdash

/-- A second plus sign is refused. -/
theorem split_of_plus_build (hbuild : 43 ∈ build) : split (textOf major minor patch prerelease build) = none := by
  have hplus := notMem_beforeBuild major minor patch hprerelease
  have hmark : withQualifier 43 build = 43 :: build := by
    cases build with
    | nil => cases hbuild
    | cons c rest => rfl
  rw [textOf, ← append_assoc, split, hmark, cutAt_append _ hplus]
  simp [hbuild]

end

theorem str_length_le : v.str.length ≤ 128 ∧ v.str ≠ [] := by
  have hlen : ∀ n : UInt32, (decimal n.toNat).length ≤ 10 := fun n =>
    decimalFuel_length_le (by have := n.toNat_lt; omega)
  have hmajor := hlen v.major
  have hminor := hlen v.minor
  have hpatch := hlen v.patch
  have hqualifier : ∀ mark qualifier, (withQualifier mark qualifier).length ≤ qualifier.length + 1 := by
    intro mark qualifier
    rw [withQualifier]
    split <;> simp
  have hpre := hqualifier 45 v.prerelease
  have hbuild := hqualifier 43 v.build
  have hpreLen := qualifier_length_le v.prerelease_ok
  have hbuildLen := qualifier_length_le v.build_ok
  simp only [kMaxSemVerQualifierLength] at hpreLen hbuildLen
  refine ⟨?_, by simp [str, textOf, coreText]⟩
  simp only [str, textOf, coreText, length_append, length_cons]
  omega

/-- Every version is read back from its text form. -/
theorem parse?_str : parse? v.str = some v := by
  obtain ⟨hlen, hne⟩ := str_length_le v
  have hempty : v.str.isEmpty = false := isEmpty_eq_false_iff.mpr hne
  rw [parse?, if_neg (by simp [hempty, hlen]), str,
    split_textOf _ _ _ (notMem_qualifier v.prerelease_ok) (notMem_qualifier v.build_ok)]
  simp [parseCore_coreText, v.prerelease_ok, v.build_ok]

/-- A version read from the text of some parts has these parts, unless the pre-release brings its own plus
    sign. -/
theorem parts_of_parse? {major minor patch : UInt32} {v : SemVer}
    (h : parse? (textOf major minor patch prerelease build) = some v) (hprerelease : 43 ∉ prerelease) :
    v.major = major ∧ v.minor = minor ∧ v.patch = patch ∧ v.prerelease = prerelease ∧ v.build = build := by
  rw [parse?] at h
  split at h
  next => cases h
  next =>
    by_cases hbuild : 43 ∈ build
    · simp [split_of_plus_build major minor patch hprerelease hbuild] at h
    · simp only [split_textOf major minor patch hprerelease hbuild, parseCore_coreText, Option.bind_eq_bind,
        Option.bind_some] at h
      split at h
      next =>
        split at h
        next =>
          cases h
          exact ⟨rfl, rfl, rfl, rfl, rfl⟩
        next => cases h
      next => cases h

/-! ### Precedence -/

/-- One pair of identifiers: numeric ones by value (length first), numeric below alphanumeric. -/
def compareIdentifier (lhs rhs : Bytes) : Ordering :=
  match isNumericIdentifier lhs, isNumericIdentifier rhs with
  | true, true => (compare lhs.length rhs.length).then (compare lhs rhs)
  | true, false => .lt
  | false, true => .gt
  | false, false => compare lhs rhs

/-- Identifier lists from the left; a proper prefix is lower. -/
def compareIdentifiers : List Bytes → List Bytes → Ordering
  | [], [] => .eq
  | [], _ :: _ => .lt
  | _ :: _, [] => .gt
  | lhs :: lhsRest, rhs :: rhsRest => (compareIdentifier lhs rhs).then (compareIdentifiers lhsRest rhsRest)

/-- Specification precedence: build metadata does not participate. -/
def precedenceCompare (v other : SemVer) : Ordering :=
  (compare v.major other.major).then <| (compare v.minor other.minor).then <|
    (compare v.patch other.patch).then <|
      match v.prerelease.isEmpty, other.prerelease.isEmpty with
      | true, true => .eq
      | true, false => .gt
      | false, true => .lt
      | false, false => compareIdentifiers (v.prerelease.splitOn 46) (other.prerelease.splitOn 46)

end SemVer

/-- Half-open interval of versions; no maximum means unbounded. -/
structure VersionRequirement where
  minimum : SemVer
  maximumExclusive : Option SemVer
deriving DecidableEq

def VersionRequirement.satisfiedBy (r : VersionRequirement) (candidate : SemVer) : Bool :=
  if candidate.precedenceCompare r.minimum = .lt then false
  else match r.maximumExclusive with
    | some maximum => candidate.precedenceCompare maximum = .lt
    | none => true

end Ocreg

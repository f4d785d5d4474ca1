/-
Module: Ocreg.Proofs.Versions
Purpose: The text form of semantic versions against the published grammar, and their precedence against the
  published order.
-/
import Ocreg.Core.Identifiers
import Ocreg.Lib.Decimal

namespace Ocreg.SemVer

open List

variable {c : UInt8} {digits identifier qualifier core prerelease build a b : Bytes} {enforce : Bool}
  {as bs : List Bytes} (v w : SemVer)

/-! ### The grammar of SemVer 2.0.0 -/

/-- `<non-digit>`: a letter or a hyphen. -/
def NonDigit (c : UInt8) : Prop :=
  (65 ≤ c.toNat ∧ c.toNat ≤ 90) ∨ (97 ≤ c.toNat ∧ c.toNat ≤ 122) ∨ c.toNat = 45

/-- `<alphanumeric identifier>`: identifier characters, at least one of them not a digit. -/
def AlphanumericIdentifier (identifier : Bytes) : Prop :=
  (∀ c ∈ identifier, Decimal.Digit c ∨ NonDigit c) ∧ ∃ c ∈ identifier, NonDigit c

/-- `<pre-release identifier>`: alphanumeric, or numeric without leading zeros. -/
def PrereleaseIdentifier (identifier : Bytes) : Prop :=
  AlphanumericIdentifier identifier ∨ Decimal.Numeral identifier

/-- `<build identifier>`: alphanumeric, or any digits. -/
def BuildIdentifier (identifier : Bytes) : Prop :=
  AlphanumericIdentifier identifier ∨ (identifier ≠ [] ∧ ∀ c ∈ identifier, Decimal.Digit c)

/-- One or more identifiers with dots between them. -/
def DotSeparated (isIdentifier : Bytes → Prop) (qualifier : Bytes) : Prop :=
  ∃ identifiers, identifiers ≠ [] ∧ (∀ identifier ∈ identifiers, isIdentifier identifier) ∧
    qualifier = intercalate [46] identifiers

/-- A derivation of `<valid semver>`: three numeric identifiers, and the optional qualifiers. -/
structure Derivation where
  major : Bytes
  minor : Bytes
  patch : Bytes
  prerelease : Option Bytes
  build : Option Bytes
  numerals : ∀ number ∈ [major, minor, patch], Decimal.Numeral number
  prerelease_identifiers : ∀ qualifier ∈ prerelease, DotSeparated PrereleaseIdentifier qualifier
  build_identifiers : ∀ qualifier ∈ build, DotSeparated BuildIdentifier qualifier

/-- A qualifier behind its mark. -/
def marked (mark : UInt8) (qualifier : Option Bytes) : Bytes := qualifier.elim [] (fun chars => mark :: chars)

namespace Derivation

/-- The text a derivation produces. -/
def chars (d : Derivation) : Bytes :=
  d.major ++ 46 :: (d.minor ++ 46 :: d.patch) ++ (marked 45 d.prerelease ++ marked 43 d.build)

/-- The bounds of this implementation. -/
structure Bounded (d : Derivation) : Prop where
  length : d.chars.length ≤ 128
  numbers : ∀ number ∈ [d.major, d.minor, d.patch], Decimal.value number < 2 ^ 32
  prerelease : ∀ qualifier ∈ d.prerelease, qualifier.length ≤ 32
  build : ∀ qualifier ∈ d.build, qualifier.length ≤ 32

end Derivation

/-! ### Core numbers -/

theorem isDigit_iff : isDigit c = true ↔ Decimal.Digit c := by
  simp [isDigit, Decimal.Digit, UInt8.le_iff_toNat_le]

theorem value_decimalFuel {fuel n : Nat} (h : n < fuel) : Decimal.value (decimalFuel fuel n) = n := by
  induction fuel generalizing n with
  | zero => omega
  | succ fuel ih =>
    rw [decimalFuel]
    split
    next hsmall =>
      rw [Decimal.value_cons, toNat_digit hsmall]
      simp
    next hbig =>
      rw [Decimal.value_append_singleton, ih (by omega), toNat_digit (Nat.mod_lt _ (by decide))]
      omega

theorem value_decimal (n : Nat) : Decimal.value (decimal n) = n := value_decimalFuel (Nat.lt_succ_self n)

theorem numeral_decimal (n : Nat) : Decimal.Numeral (decimal n) := by
  refine Decimal.numeral_iff.mpr ⟨decimalFuel_ne_nil (Nat.lt_succ_self n), ?_, ?_⟩
  · exact fun c hc => isDigit_iff.mp (decimalFuel_isDigit c hc)
  · rintro ⟨hlong, hzero⟩
    rcases Nat.eq_zero_or_pos n with rfl | hpos
    · exact absurd hlong (by decide)
    · exact decimalFuel_head (Nat.lt_succ_self n) hpos hzero

/-- A numeral is the printed form of its value. -/
theorem decimal_value {number : Bytes} (h : Decimal.Numeral number) : decimal (Decimal.value number) = number :=
  (numeral_decimal _).eq_of_value_eq h (value_decimal _)

theorem componentValue_eq_some {start n : Nat} (hstart : start < 2 ^ 32) (h : componentValue start digits = some n) :
    n = digits.foldl (fun n c => n * 10 + (c.toNat - 48)) start ∧ n < 2 ^ 32 := by
  induction digits generalizing start with
  | nil =>
    cases h
    exact ⟨rfl, hstart⟩
  | cons c digits ih =>
    simp only [componentValue] at h
    split at h
    · cases h
    · exact ih (Nat.lt_succ_of_le (Nat.le_of_not_lt ‹_›)) h

theorem parseComponent_eq_some_iff {n : UInt32} :
    parseComponent digits = some n ↔ Decimal.Numeral digits ∧ Decimal.value digits = n.toNat := by
  constructor
  · intro h
    rw [parseComponent] at h
    split at h
    · cases h
    · rename_i hlength
      split at h
      · cases h
      · rename_i hdigits
        split at h
        · cases h
        · rename_i hlead
          obtain ⟨value, hvalue, rfl⟩ := Option.map_eq_some_iff.mp h
          obtain ⟨rfl, hlt⟩ := componentValue_eq_some (by decide) hvalue
          refine ⟨Decimal.numeral_iff.mpr ⟨?_, ?_, hlead⟩, ?_⟩
          · rintro rfl
            exact hlength rfl
          · intro c hc
            simp only [Bool.not_eq_true', Bool.not_eq_false, all_eq_true] at hdigits
            exact isDigit_iff.mp (hdigits c hc)
          · rw [UInt32.toNat_ofNat', Nat.mod_eq_of_lt hlt]
            rfl
  · rintro ⟨hnumeral, hvalue⟩
    rw [← decimal_value hnumeral, hvalue]
    exact parseComponent_decimal n

/-! ### Qualifiers -/

theorem isAlnumDash_iff : isAlnumDash c = true ↔ Decimal.Digit c ∨ NonDigit c := by
  simp only [isAlnumDash, Bool.or_eq_true, isDigit_iff, Bool.and_eq_true, decide_eq_true_eq, UInt8.le_iff_toNat_le,
    beq_iff_eq, NonDigit, ← UInt8.toNat_inj]
  simp
  tauto

theorem not_digit_of_nonDigit (h : NonDigit c) : ¬ Decimal.Digit c := by
  simp only [NonDigit, Decimal.Digit] at h ⊢
  omega

theorem isNumericIdentifier_iff :
    isNumericIdentifier identifier = true ↔ identifier ≠ [] ∧ ∀ c ∈ identifier, Decimal.Digit c := by
  simp [isNumericIdentifier, isDigit_iff]

/-- Identifier characters are all digits, or one of them is not. -/
theorem alphanumeric_or_digits (h : ∀ c ∈ identifier, Decimal.Digit c ∨ NonDigit c) :
    AlphanumericIdentifier identifier ∨ ∀ c ∈ identifier, Decimal.Digit c := by
  by_cases hdigits : ∀ c ∈ identifier, Decimal.Digit c
  · exact .inr hdigits
  · push Not at hdigits
    obtain ⟨c, hc, hnot⟩ := hdigits
    exact .inl ⟨h, c, hc, (h c hc).resolve_left hnot⟩

theorem AlphanumericIdentifier.not_numeric (h : AlphanumericIdentifier identifier) :
    isNumericIdentifier identifier = false := by
  obtain ⟨-, c, hc, hnon⟩ := h
  rw [Bool.eq_false_iff, ne_eq, isNumericIdentifier_iff]
  exact fun hnumeric => not_digit_of_nonDigit hnon (hnumeric.2 c hc)

theorem identifierOk_prerelease : identifierOk true identifier = true ↔ PrereleaseIdentifier identifier := by
  simp only [identifierOk, Bool.and_eq_true, Bool.not_eq_true', isEmpty_eq_false_iff, all_eq_true,
    isAlnumDash_iff, Bool.true_and]
  constructor
  · rintro ⟨⟨hne, hchars⟩, hlead⟩
    refine (alphanumeric_or_digits hchars).imp_right fun hdigits => ?_
    refine Decimal.numeral_iff.mpr ⟨hne, hdigits, ?_⟩
    rintro ⟨hlong, hzero⟩
    simp [isNumericIdentifier_iff.mpr ⟨hne, hdigits⟩, hlong, hzero] at hlead
  · rintro (halpha | hnumeral)
    · refine ⟨⟨?_, halpha.1⟩, by simp [halpha.not_numeric]⟩
      rintro rfl
      obtain ⟨-, c, hc, -⟩ := halpha
      cases hc
    · obtain ⟨hne, hdigits, hlead⟩ := Decimal.numeral_iff.mp hnumeral
      refine ⟨⟨hne, fun c hc => .inl (hdigits c hc)⟩, ?_⟩
      by_contra hbad
      simp only [Bool.not_eq_false, Bool.and_eq_true, decide_eq_true_eq, beq_iff_eq] at hbad
      exact hlead ⟨hbad.1.2, hbad.2⟩

theorem identifierOk_build : identifierOk false identifier = true ↔ BuildIdentifier identifier := by
  simp only [identifierOk, Bool.and_eq_true, Bool.not_eq_true', isEmpty_eq_false_iff, all_eq_true,
    isAlnumDash_iff, Bool.false_and, and_true]
  constructor
  · rintro ⟨hne, hchars⟩
    exact (alphanumeric_or_digits hchars).imp_right fun hdigits => ⟨hne, hdigits⟩
  · rintro (halpha | ⟨hne, hdigits⟩)
    · refine ⟨?_, halpha.1⟩
      rintro rfl
      obtain ⟨-, c, hc, -⟩ := halpha
      cases hc
    · exact ⟨hne, fun c hc => .inl (hdigits c hc)⟩

theorem notMem_dot_of_ok (h : identifierOk enforce identifier = true) : 46 ∉ identifier := by
  intro hmem
  simp only [identifierOk, Bool.and_eq_true, all_eq_true] at h
  exact absurd (h.1.2 46 hmem) (by decide)

/-- The accepted qualifiers are the dot-separated lists of identifiers within the length bound. -/
theorem parseIdentifiers_iff : parseIdentifiers qualifier enforce = true ↔
      DotSeparated (fun identifier => identifierOk enforce identifier = true) qualifier ∧
        qualifier.length ≤ 32 := by
  simp only [parseIdentifiers, Bool.and_eq_true, Bool.not_eq_true', isEmpty_eq_false_iff, decide_eq_true_iff,
    all_eq_true]
  constructor
  · rintro ⟨⟨hne, hlength⟩, hall⟩
    exact ⟨⟨qualifier.splitOn 46, splitOn_ne_nil _ _, hall, (intercalate_splitOn 46).symm⟩, hlength⟩
  · rintro ⟨⟨identifiers, hne, hall, rfl⟩, hlength⟩
    have hsplit : (intercalate [46] identifiers).splitOn 46 = identifiers :=
      splitOn_intercalate 46 (fun identifier hmem => notMem_dot_of_ok (hall identifier hmem)) hne
    rw [hsplit]
    refine ⟨⟨?_, hlength⟩, hall⟩
    intro hnil
    rw [hnil] at hsplit
    have hempty := hall [] (by rw [← hsplit]; simp)
    simp [identifierOk] at hempty

theorem parseIdentifiers_prerelease :
    parseIdentifiers qualifier true = true ↔ DotSeparated PrereleaseIdentifier qualifier ∧ qualifier.length ≤ 32 := by
  simp only [parseIdentifiers_iff, identifierOk_prerelease, DotSeparated]

theorem parseIdentifiers_build :
    parseIdentifiers qualifier false = true ↔ DotSeparated BuildIdentifier qualifier ∧ qualifier.length ≤ 32 := by
  simp only [parseIdentifiers_iff, identifierOk_build, DotSeparated]

/-! ### Texts -/

theorem append_of_cutAt {mark : UInt8} {chars before after : Bytes} (h : cutAt mark chars = some (before, after)) :
    chars = before ++ mark :: after := by
  induction chars generalizing before with
  | nil => cases h
  | cons c chars ih =>
    rw [cutAt] at h
    split at h
    · rename_i heq
      cases h
      rw [heq, nil_append]
    · obtain ⟨⟨before', after'⟩, hcut, heq⟩ := Option.map_eq_some_iff.mp h
      cases heq
      rw [cons_append, ← ih hcut]

theorem coreText_of_parseCore {major minor patch : UInt32} (h : parseCore core = some (major, minor, patch)) :
    coreText major minor patch = core := by
  simp only [parseCore, Option.bind_eq_bind, Option.bind_eq_some_iff] at h
  obtain ⟨⟨first, rest⟩, hcut, major', hmajor, ⟨second, last⟩, hcut', minor', hminor, h⟩ := h
  split at h
  · cases h
  · obtain ⟨patch', hpatch, heq⟩ := Option.bind_eq_some_iff.mp h
    cases heq
    have hprinted : ∀ {digits : Bytes} {n : UInt32}, parseComponent digits = some n →
        decimal n.toNat = digits := by
      intro digits n hparsed
      obtain ⟨hnumeral, hvalue⟩ := parseComponent_eq_some_iff.mp hparsed
      rw [← hvalue, decimal_value hnumeral]
    simp only at hcut' hmajor hminor hpatch
    rw [append_of_cutAt hcut, append_of_cutAt hcut', coreText, hprinted hmajor, hprinted hminor, hprinted hpatch]

theorem append_of_dash {front build' : Bytes}
    (h : (match cutAt 45 front with
        | some (core, prerelease) => if prerelease.isEmpty then none else some (core, prerelease, build)
        | none => some (front, [], build)) = some (core, prerelease, build')) :
    front = core ++ withQualifier 45 prerelease ∧ build = build' := by
  split at h
  · rename_i before after hcut
    split at h
    · cases h
    · rename_i hne
      cases h
      rw [append_of_cutAt hcut, withQualifier, if_neg hne]
      exact ⟨rfl, rfl⟩
  · cases h
    simp [withQualifier]

theorem append_of_split {chars : Bytes} (h : split chars = some (core, prerelease, build)) :
    chars = core ++ (withQualifier 45 prerelease ++ withQualifier 43 build) := by
  rw [split] at h
  split at h
  · rename_i before after hcut
    split at h
    · cases h
    · rename_i hne
      obtain ⟨hfront, rfl⟩ := append_of_dash h
      have hbuild : withQualifier 43 after = 43 :: after := if_neg (fun hempty => hne (by simp [hempty]))
      rw [append_of_cutAt hcut, hfront, hbuild, append_assoc]
  · obtain ⟨hfront, rfl⟩ := append_of_dash h
    rw [hfront]
    simp [withQualifier]

/-- A parsed version prints as the text it came from. -/
theorem str_of_parse? {chars : Bytes} {v : SemVer} (h : parse? chars = some v) : v.str = chars := by
  rw [parse?] at h
  split at h
  · cases h
  · simp only [Option.bind_eq_bind, Option.bind_eq_some_iff] at h
    obtain ⟨⟨core, prerelease, build⟩, hsplit, ⟨major, minor, patch⟩, hcore, h⟩ := h
    simp only at h
    split at h
    · split at h
      · cases h
        rw [append_of_split hsplit, str, textOf, coreText_of_parseCore hcore]
      · cases h
    · cases h

/-! ### Acceptance -/

/-- A qualifier of the grammar is absent or accepted. -/
theorem qualifier_ok {isIdentifier : Bytes → Prop}
    (hparse : ∀ {qualifier : Bytes}, parseIdentifiers qualifier enforce = true ↔
        DotSeparated isIdentifier qualifier ∧ qualifier.length ≤ 32)
    {qualifier : Option Bytes} (hidentifiers : ∀ chars ∈ qualifier, DotSeparated isIdentifier chars)
    (hlength : ∀ chars ∈ qualifier, chars.length ≤ 32) :
    (qualifier.getD [] = [] ∨ parseIdentifiers (qualifier.getD []) enforce = true) ∧
      ∀ mark, withQualifier mark (qualifier.getD []) = marked mark qualifier := by
  cases qualifier with
  | none => exact ⟨.inl rfl, fun mark => rfl⟩
  | some chars =>
    have haccepted := hparse.mpr ⟨hidentifiers chars rfl, hlength chars rfl⟩
    refine ⟨.inr haccepted, fun mark => ?_⟩
    have hne : chars.isEmpty = false := by
      simp only [parseIdentifiers, Bool.and_eq_true, Bool.not_eq_true'] at haccepted
      exact haccepted.1.1
    simp [withQualifier, marked, hne]

/-- The qualifier of a version as the grammar has it. -/
def optionalQualifier (qualifier : Bytes) : Option Bytes := if qualifier = [] then none else some qualifier

theorem mem_optionalQualifier {chars : Bytes} :
    chars ∈ optionalQualifier qualifier ↔ qualifier = chars ∧ qualifier ≠ [] := by
  rw [optionalQualifier]
  split <;> simp_all

theorem marked_optionalQualifier (mark : UInt8) (qualifier : Bytes) :
    marked mark (optionalQualifier qualifier) = withQualifier mark qualifier := by
  cases qualifier <;> rfl

/-- The version a bounded derivation stands for. -/
def Derivation.version (d : Derivation) (h : d.Bounded) : SemVer where
  major := UInt32.ofNat (Decimal.value d.major)
  minor := UInt32.ofNat (Decimal.value d.minor)
  patch := UInt32.ofNat (Decimal.value d.patch)
  prerelease := d.prerelease.getD []
  build := d.build.getD []
  prerelease_ok := (qualifier_ok parseIdentifiers_prerelease d.prerelease_identifiers h.prerelease).1
  build_ok := (qualifier_ok parseIdentifiers_build d.build_identifiers h.build).1

theorem Derivation.str_version (d : Derivation) (h : d.Bounded) : (d.version h).str = d.chars := by
  have hnumber : ∀ number ∈ [d.major, d.minor, d.patch],
      decimal (UInt32.ofNat (Decimal.value number)).toNat = number := by
    intro number hmem
    rw [UInt32.toNat_ofNat', Nat.mod_eq_of_lt (h.numbers number hmem), decimal_value (d.numerals number hmem)]
  simp only [str, textOf, coreText, version, hnumber d.major (by simp), hnumber d.minor (by simp),
    hnumber d.patch (by simp), chars,
    (qualifier_ok parseIdentifiers_prerelease d.prerelease_identifiers h.prerelease).2,
    (qualifier_ok parseIdentifiers_build d.build_identifiers h.build).2]

/-- The derivation of a version's text. -/
def derivation (v : SemVer) : Derivation where
  major := decimal v.major.toNat
  minor := decimal v.minor.toNat
  patch := decimal v.patch.toNat
  prerelease := optionalQualifier v.prerelease
  build := optionalQualifier v.build
  numerals := by simp [numeral_decimal]
  prerelease_identifiers := by
    intro qualifier hmem
    obtain ⟨rfl, hne⟩ := mem_optionalQualifier.mp hmem
    exact (parseIdentifiers_prerelease.mp (v.prerelease_ok.resolve_left hne)).1
  build_identifiers := by
    intro qualifier hmem
    obtain ⟨rfl, hne⟩ := mem_optionalQualifier.mp hmem
    exact (parseIdentifiers_build.mp (v.build_ok.resolve_left hne)).1

theorem chars_derivation : v.derivation.chars = v.str := by
  simp only [Derivation.chars, derivation, marked_optionalQualifier, str, textOf, coreText]

theorem derivation_bounded (v : SemVer) : v.derivation.Bounded where
  length := by
    rw [chars_derivation]
    exact (str_length_le v).1
  numbers := by
    intro number hmem
    simp only [derivation, mem_cons, not_mem_nil, or_false] at hmem
    rcases hmem with rfl | rfl | rfl <;> rw [value_decimal] <;> exact UInt32.toNat_lt _
  prerelease := by
    intro qualifier hmem
    obtain ⟨rfl, -⟩ := mem_optionalQualifier.mp hmem
    exact qualifier_length_le v.prerelease_ok
  build := by
    intro qualifier hmem
    obtain ⟨rfl, -⟩ := mem_optionalQualifier.mp hmem
    exact qualifier_length_le v.build_ok

/-- The parser accepts exactly the versions of the grammar within the bounds; printing a parsed version gives
    its text back, and parsing that gives the version. -/
theorem accepts_iff_derivation (chars : Bytes) :
    ((∃ v, parse? chars = some v) ↔ ∃ d : Derivation, d.chars = chars ∧ d.Bounded) ∧
    ∀ v, parse? chars = some v → v.str = chars ∧ parse? v.str = some v := by
  refine ⟨⟨?_, ?_⟩, fun v h => ⟨str_of_parse? h, parse?_str v⟩⟩
  · rintro ⟨v, hparsed⟩
    exact ⟨v.derivation, (chars_derivation v).trans (str_of_parse? hparsed), derivation_bounded v⟩
  · rintro ⟨d, rfl, hbounded⟩
    exact ⟨d.version hbounded, d.str_version hbounded ▸ parse?_str _⟩

/-! ### Precedence -/

/-- An identifier in the published order: numbers by value, below all other identifiers, which stand in ASCII
    order. -/
def identifierKey (identifier : Bytes) : Nat ⊕ₗ Bytes :=
  if ∀ c ∈ identifier, Decimal.Digit c then Sum.inlₗ (Decimal.value identifier) else Sum.inrₗ identifier

/-- The published precedence: the core numbers, then the pre-release identifiers from the left with a shorter
    list below its extensions, and a version without pre-release above all of them. -/
def precedence (v : SemVer) : UInt32 ×ₗ UInt32 ×ₗ UInt32 ×ₗ WithTop (List (Nat ⊕ₗ Bytes)) :=
  toLex (v.major, toLex (v.minor, toLex (v.patch,
    if v.prerelease = [] then ⊤ else WithTop.some ((v.prerelease.splitOn 46).map identifierKey))))

theorem identifierKey_alphanumeric (h : AlphanumericIdentifier identifier) :
    identifierKey identifier = Sum.inrₗ identifier := by
  obtain ⟨-, c, hc, hnon⟩ := h
  exact if_neg fun hdigits => not_digit_of_nonDigit hnon (hdigits c hc)

theorem identifierKey_numeral (h : Decimal.Numeral identifier) :
    identifierKey identifier = Sum.inlₗ (Decimal.value identifier) := if_pos h.digits

theorem numeral_isNumeric (h : Decimal.Numeral identifier) : isNumericIdentifier identifier = true :=
  isNumericIdentifier_iff.mpr ⟨h.ne_nil, h.digits⟩

theorem compares_identifier (ha : PrereleaseIdentifier a) (hb : PrereleaseIdentifier b) :
    (compareIdentifier a b).Compares (identifierKey a) (identifierKey b) := by
  rw [compareIdentifier]
  rcases ha with ha | ha
  · rcases hb with hb | hb
    · rw [ha.not_numeric, hb.not_numeric, identifierKey_alphanumeric ha, identifierKey_alphanumeric hb]
      exact (Sum.Lex.inr_strictMono.compares).mpr (ThreeWay.compares_bytes a b)
    · rw [ha.not_numeric, numeral_isNumeric hb, identifierKey_alphanumeric ha, identifierKey_numeral hb]
      exact Sum.Lex.inl_lt_inr _ _
  · rcases hb with hb | hb
    · rw [numeral_isNumeric ha, hb.not_numeric, identifierKey_numeral ha, identifierKey_alphanumeric hb]
      exact Sum.Lex.inl_lt_inr _ _
    · rw [numeral_isNumeric ha, numeral_isNumeric hb, identifierKey_numeral ha, identifierKey_numeral hb]
      exact (Sum.Lex.inl_strictMono.compares).mpr (Decimal.compares_value ha hb)

theorem compares_identifiers (has : ∀ a ∈ as, PrereleaseIdentifier a) (hbs : ∀ b ∈ bs, PrereleaseIdentifier b) :
    (compareIdentifiers as bs).Compares (as.map identifierKey) (bs.map identifierKey) := by
  induction as generalizing bs with
  | nil =>
    cases bs with
    | nil => rfl
    | cons b bs => exact nil_lt_cons _ _
  | cons a as ih =>
    cases bs with
    | nil => exact nil_lt_cons _ _
    | cons b bs =>
      obtain ⟨ha, has'⟩ := forall_mem_cons.mp has
      obtain ⟨hb, hbs'⟩ := forall_mem_cons.mp hbs
      exact ThreeWay.compares_cons (compares_identifier ha hb) (ih has' hbs')

/-- The identifiers of a version's pre-release. -/
theorem prerelease_identifiers (h : v.prerelease ≠ []) :
    ∀ identifier ∈ v.prerelease.splitOn 46, PrereleaseIdentifier identifier := by
  have hparsed := v.prerelease_ok.resolve_left h
  simp only [parseIdentifiers, Bool.and_eq_true, all_eq_true] at hparsed
  exact fun identifier hmem => identifierOk_prerelease.mp (hparsed.2 identifier hmem)

theorem compares_precedence : (precedenceCompare v w).Compares (precedence v) (precedence w) := by
  refine ThreeWay.compares_pair (ThreeWay.compares_word32 _ _) fun _ => ?_
  refine ThreeWay.compares_pair (ThreeWay.compares_word32 _ _) fun _ => ?_
  refine ThreeWay.compares_pair (ThreeWay.compares_word32 _ _) fun _ => ?_
  by_cases hv : v.prerelease = []
  · by_cases hw : w.prerelease = []
    · rw [hv, hw]
      rfl
    · rw [if_pos hv, if_neg hw, isEmpty_iff.mpr hv, isEmpty_eq_false_iff.mpr hw]
      exact WithTop.coe_lt_top _
  · by_cases hw : w.prerelease = []
    · rw [if_neg hv, if_pos hw, isEmpty_iff.mpr hw, isEmpty_eq_false_iff.mpr hv]
      exact WithTop.coe_lt_top _
    · rw [if_neg hv, if_neg hw, isEmpty_eq_false_iff.mpr hv, isEmpty_eq_false_iff.mpr hw]
      exact (WithTop.coe_strictMono.compares).mpr
        (compares_identifiers (prerelease_identifiers v hv) (prerelease_identifiers w hw))

theorem identifierKey_injective (ha : PrereleaseIdentifier a) (hb : PrereleaseIdentifier b)
    (h : identifierKey a = identifierKey b) : a = b := by
  rcases ha with ha | ha
  · rcases hb with hb | hb
    · rw [identifierKey_alphanumeric ha, identifierKey_alphanumeric hb] at h
      exact Sum.inr.inj (toLex.injective h)
    · rw [identifierKey_alphanumeric ha, identifierKey_numeral hb] at h
      cases toLex.injective h
  · rcases hb with hb | hb
    · rw [identifierKey_numeral ha, identifierKey_alphanumeric hb] at h
      cases toLex.injective h
    · rw [identifierKey_numeral ha, identifierKey_numeral hb] at h
      exact ha.eq_of_value_eq hb (Sum.inl.inj (toLex.injective h))

theorem identifiers_injective (has : ∀ a ∈ as, PrereleaseIdentifier a) (hbs : ∀ b ∈ bs, PrereleaseIdentifier b)
    (h : as.map identifierKey = bs.map identifierKey) : as = bs := by
  rw [← map_id as, ← map_id bs]
  exact Scan.map_eq_of_map_eq h (fun a ha b hb => identifierKey_injective (has a ha) (hbs b hb))

/-- Two versions have one precedence exactly when core and pre-release agree. -/
theorem precedence_eq_iff : precedence v = precedence w ↔
    v.major = w.major ∧ v.minor = w.minor ∧ v.patch = w.patch ∧ v.prerelease = w.prerelease := by
  constructor
  · intro h
    simp only [precedence, toLex_inj, Prod.mk.injEq] at h
    obtain ⟨hmajor, hminor, hpatch, hkey⟩ := h
    refine ⟨hmajor, hminor, hpatch, ?_⟩
    by_cases hv : v.prerelease = []
    · by_cases hw : w.prerelease = []
      · rw [hv, hw]
      · rw [if_pos hv, if_neg hw] at hkey
        exact absurd hkey (WithTop.top_ne_coe)
    · by_cases hw : w.prerelease = []
      · rw [if_neg hv, if_pos hw] at hkey
        exact absurd hkey (WithTop.coe_ne_top)
      · rw [if_neg hv, if_neg hw] at hkey
        have hsplit := identifiers_injective (prerelease_identifiers v hv) (prerelease_identifiers w hw)
          (WithTop.coe_injective hkey)
        calc v.prerelease = intercalate [46] (v.prerelease.splitOn 46) := (intercalate_splitOn 46).symm
          _ = intercalate [46] (w.prerelease.splitOn 46) := by rw [hsplit]
          _ = w.prerelease := intercalate_splitOn 46
  · rintro ⟨hmajor, hminor, hpatch, hprerelease⟩
    simp only [precedence, hmajor, hminor, hpatch, hprerelease]

/-- A requirement accepts the versions from its minimum on and below its maximum. -/
theorem satisfiedBy_iff (requirement : VersionRequirement) (v : SemVer) :
    requirement.satisfiedBy v = true ↔ precedence requirement.minimum ≤ precedence v ∧
      ∀ bound ∈ requirement.maximumExclusive, precedence v < precedence bound := by
  have hlt : ∀ a b : SemVer, precedenceCompare a b = .lt ↔ precedence a < precedence b :=
    fun a b => (compares_precedence a b).eq_lt
  rw [VersionRequirement.satisfiedBy]
  simp only [hlt]
  by_cases hlow : precedence v < precedence requirement.minimum
  · rw [if_pos hlow]
    simp [not_le.mpr hlow]
  · rw [if_neg hlow]
    cases requirement.maximumExclusive <;> simp [not_lt.mp hlow]

/-- The comparison, in place or on split identifiers, is the published precedence: a total preorder that ignores
    the build, with equal versions exactly those of one core and pre-release. Requirements accept order-convex
    sets of versions. -/
theorem precedenceCompare_is_precedence :
    (∀ v w : SemVer, (precedenceCompareInPlace v w).Compares (precedence v) (precedence w) ∧
      precedenceCompareInPlace v w = precedenceCompare v w) ∧
    (∀ v w : SemVer, precedenceCompare v w ≠ .gt ∨ precedenceCompare w v ≠ .gt) ∧
    (∀ u v w : SemVer, precedenceCompare u v ≠ .gt → precedenceCompare v w ≠ .gt → precedenceCompare u w ≠ .gt) ∧
    (∀ v w : SemVer, precedenceCompare v w = .eq ↔
      v.major = w.major ∧ v.minor = w.minor ∧ v.patch = w.patch ∧ v.prerelease = w.prerelease) ∧
    (∀ (requirement : VersionRequirement) (low v high : SemVer), requirement.satisfiedBy low = true →
      requirement.satisfiedBy high = true → precedenceCompare low v ≠ .gt → precedenceCompare v high ≠ .gt →
      requirement.satisfiedBy v = true) := by
  have hle : ∀ v w : SemVer, precedenceCompare v w ≠ .gt ↔ precedence v ≤ precedence w := fun v w => by
    rw [ne_eq, (compares_precedence v w).eq_gt, not_lt]
  refine ⟨?_, ?_, ?_, ?_, ?_⟩
  · intro v w
    rw [precedenceCompareInPlace_eq]
    exact ⟨compares_precedence v w, rfl⟩
  · intro v w
    rw [hle, hle]
    exact le_total _ _
  · intro u v w huv hvw
    rw [hle] at *
    exact le_trans huv hvw
  · intro v w
    rw [(compares_precedence v w).eq_eq, precedence_eq_iff]
  · intro requirement low v high hlow hhigh hlowLe hleHigh
    rw [hle] at hlowLe hleHigh
    rw [satisfiedBy_iff] at hlow hhigh ⊢
    exact ⟨le_trans hlow.1 hlowLe, fun bound hbound => lt_of_le_of_lt hleHigh (hhigh.2 bound hbound)⟩

end Ocreg.SemVer

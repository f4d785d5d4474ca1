/-
Module: Ocreg.Core.Identifiers
Purpose: The identifier loops of semantic versions as they run in place, by start and end positions.
-/
import Ocreg.Core.SemVer

namespace Ocreg.SemVer

open List

variable {chars : Bytes} {start : Nat} {enforce : Bool}

/-- `std::string_view::find` of one character from a position. -/
def findFrom (chars : Bytes) (mark : UInt8) (start : Nat) : Option Nat :=
  if (chars.drop start).contains mark then some (start + (chars.drop start).idxOf mark) else none

/-- End of the identifier that starts at a position: the next dot, or the end of the text. -/
def identifierEnd (chars : Bytes) (start : Nat) : Nat := (findFrom chars 46 start).getD chars.length

/-- `std::string_view::substr` from a start position to an end position. -/
def slice (chars : Bytes) (start finish : Nat) : Bytes := (chars.drop start).take (finish - start)

theorem lt_identifierEnd_succ (h : start ≤ chars.length) : start < identifierEnd chars start + 1 := by
  rw [identifierEnd, findFrom]
  split
  · simp only [Option.getD_some]
    omega
  · exact Nat.lt_succ_of_le h

/-- The loop of `parse_identifiers` from a start position. -/
def parseIdentifiersAt (chars : Bytes) (enforceNumericRule : Bool) (start : Nat) : Bool :=
  if h : start ≤ chars.length then
    if identifierOk enforceNumericRule (slice chars start (identifierEnd chars start)) then
      if identifierEnd chars start = chars.length then true
      else parseIdentifiersAt chars enforceNumericRule (identifierEnd chars start + 1)
    else false
  else true
termination_by chars.length + 1 - start
decreasing_by
  have hstep := lt_identifierEnd_succ h
  omega

/-- The loop of `compare_identifiers` from two start positions. -/
def compareIdentifiersAt (lhs rhs : Bytes) (lhsStart rhsStart : Nat) : Ordering :=
  if lhsStart ≥ lhs.length ∧ rhsStart ≥ rhs.length then .eq
  else if lhsStart ≥ lhs.length then .lt
  else if rhsStart ≥ rhs.length then .gt
  else
    match compareIdentifier (slice lhs lhsStart (identifierEnd lhs lhsStart))
        (slice rhs rhsStart (identifierEnd rhs rhsStart)) with
    | .eq =>
      if identifierEnd lhs lhsStart = lhs.length ∧ identifierEnd rhs rhsStart = rhs.length then .eq
      else compareIdentifiersAt lhs rhs (identifierEnd lhs lhsStart + 1) (identifierEnd rhs rhsStart + 1)
    | decided => decided
termination_by lhs.length - lhsStart
decreasing_by
  have hstep := lt_identifierEnd_succ (show lhsStart ≤ lhs.length by omega)
  omega

/-- `precedence_compare` with the identifiers compared in place. -/
def precedenceCompareInPlace (v other : SemVer) : Ordering :=
  if v.major ≠ other.major then compare v.major other.major
  else if v.minor ≠ other.minor then compare v.minor other.minor
  else if v.patch ≠ other.patch then compare v.patch other.patch
  else if v.prerelease.isEmpty ∧ other.prerelease.isEmpty then .eq
  else if v.prerelease.isEmpty then .gt
  else if other.prerelease.isEmpty then .lt
  else compareIdentifiersAt v.prerelease other.prerelease 0 0

/-! ### The piece at a position -/

/-- What the loops see at a start position: the last identifier, or one with a dot behind it. -/
inductive PieceAt (chars : Bytes) (start : Nat) : Prop
  | last (hend : identifierEnd chars start = chars.length)
      (hslice : slice chars start (identifierEnd chars start) = chars.drop start)
      (hsplit : (chars.drop start).splitOn 46 = [chars.drop start])
  | more (hend : identifierEnd chars start < chars.length)
      (hsplit : (chars.drop start).splitOn 46 =
        slice chars start (identifierEnd chars start) ::
          (chars.drop (identifierEnd chars start + 1)).splitOn 46)

theorem pieceAt (h : start ≤ chars.length) : PieceAt chars start := by
  by_cases hdot : (46 : UInt8) ∈ chars.drop start
  · obtain ⟨before, after, hparts, hbefore⟩ := eq_append_cons_of_mem hdot
    have hend : identifierEnd chars start = start + before.length := by
      rw [identifierEnd, findFrom, if_pos (contains_iff_mem.mpr hdot), Option.getD_some, hparts,
        idxOf_append_of_notMem hbefore, idxOf_cons_self, Nat.add_zero]
    have hslice : slice chars start (identifierEnd chars start) = before := by
      rw [slice, hend, Nat.add_sub_cancel_left, hparts, take_left]
    have hafter : chars.drop (identifierEnd chars start + 1) = after := by
      rw [hend, Nat.add_assoc, ← drop_drop, hparts]
      simp
    have hlength := congrArg length hparts
    rw [length_drop, length_append, length_cons] at hlength
    refine .more (by omega) ?_
    have hclean : ∀ c ∈ before, (c == 46) = false := fun c hc => beq_false_of_ne (fun heq => hbefore (heq ▸ hc))
    rw [hslice, hafter, hparts]
    exact splitOnP_append_cons_of_forall_mem hclean 46 rfl after
  · have hend : identifierEnd chars start = chars.length := by
      rw [identifierEnd, findFrom, if_neg (mt contains_iff_mem.mp hdot), Option.getD_none]
    refine .last hend ?_ ?_
    · rw [slice, hend, take_of_length_le]
      exact Nat.le_of_eq length_drop
    · exact splitOnP_eq_singleton fun c hc => beq_false_of_ne fun heq => hdot (heq ▸ hc)

/-! ### The loops against the split texts -/

theorem parseIdentifiersAt_eq_all (h : start ≤ chars.length) :
    parseIdentifiersAt chars enforce start = ((chars.drop start).splitOn 46).all (identifierOk enforce) := by
  induction hleft : chars.length + 1 - start using Nat.strong_induction_on generalizing start with
  | _ left ih =>
    rw [parseIdentifiersAt, dif_pos h]
    cases pieceAt h with
    | last hend hslice hsplit =>
      rw [hslice, hsplit, if_pos hend, all_cons, all_nil, Bool.and_true]
      split <;> simp_all
    | more hend hsplit =>
      have hstep := lt_identifierEnd_succ h
      rw [hsplit, all_cons, if_neg (Nat.ne_of_lt hend), ih _ (by omega) hend rfl]
      split <;> simp_all

/-- The loop over positions accepts the qualifiers whose identifiers are all in order. -/
theorem parseIdentifiersAt_eq (qualifier : Bytes) (enforce : Bool) :
    (!qualifier.isEmpty && decide (qualifier.length ≤ kMaxSemVerQualifierLength) &&
      parseIdentifiersAt qualifier enforce 0) = parseIdentifiers qualifier enforce := by
  rw [parseIdentifiersAt_eq_all (Nat.zero_le _), drop_zero, parseIdentifiers]

/-- The identifiers from a position on; none at the end of the text. -/
def identifiersFrom (chars : Bytes) (start : Nat) : List Bytes :=
  if start < chars.length then (chars.drop start).splitOn 46 else []

/-- The current identifier and the ones behind it, where none of them is empty. -/
theorem identifiersFrom_eq (h : start < chars.length)
    (hnonempty : ∀ identifier ∈ identifiersFrom chars start, identifier ≠ []) :
    identifiersFrom chars start = slice chars start (identifierEnd chars start) ::
      identifiersFrom chars (identifierEnd chars start + 1) := by
  rw [identifiersFrom, if_pos h] at hnonempty ⊢
  cases pieceAt (Nat.le_of_lt h) with
  | last hend hslice hsplit =>
    rw [hslice, hsplit, identifiersFrom, hend, if_neg (by omega)]
  | more hend hsplit =>
    rw [hsplit] at hnonempty ⊢
    have hmore : identifierEnd chars start + 1 < chars.length := by
      by_contra hlast
      have hnil : chars.drop (identifierEnd chars start + 1) = [] := drop_eq_nil_of_le (by omega)
      exact hnonempty [] (by rw [hnil]; simp) rfl
    rw [identifiersFrom, if_pos hmore]

theorem compareIdentifiersAt_eq_compare {lhs rhs : Bytes} {lhsStart rhsStart : Nat}
    (hlhs : ∀ identifier ∈ identifiersFrom lhs lhsStart, identifier ≠ [])
    (hrhs : ∀ identifier ∈ identifiersFrom rhs rhsStart, identifier ≠ []) :
    compareIdentifiersAt lhs rhs lhsStart rhsStart =
      compareIdentifiers (identifiersFrom lhs lhsStart) (identifiersFrom rhs rhsStart) := by
  induction hleft : lhs.length - lhsStart using Nat.strong_induction_on generalizing lhsStart rhsStart with
  | _ left ih =>
    have hdone : ∀ {chars : Bytes} {start : Nat}, start ≥ chars.length → identifiersFrom chars start = [] :=
      fun h => if_neg (Nat.not_lt.mpr h)
    rw [compareIdentifiersAt]
    split
    case isTrue hends => rw [hdone hends.1, hdone hends.2, compareIdentifiers]
    case isFalse hends =>
      split
      case isTrue hlhsEnd =>
        have hrhsMore : rhsStart < rhs.length := by omega
        rw [hdone hlhsEnd, identifiersFrom_eq hrhsMore hrhs, compareIdentifiers]
      case isFalse hlhsEnd =>
        have hlhsMore : lhsStart < lhs.length := by omega
        have hlhsPiece := identifiersFrom_eq hlhsMore hlhs
        rw [hlhsPiece] at hlhs ⊢
        split
        case isTrue hrhsEnd => rw [hdone hrhsEnd, compareIdentifiers]
        case isFalse hrhsEnd =>
          have hrhsMore : rhsStart < rhs.length := by omega
          have hrhsPiece := identifiersFrom_eq hrhsMore hrhs
          rw [hrhsPiece] at hrhs ⊢
          rw [compareIdentifiers]
          have hstep := lt_identifierEnd_succ (Nat.le_of_lt hlhsMore)
          have hrest := ih _ (by omega) (fun i hi => hlhs i (mem_cons_of_mem _ hi))
            (fun i hi => hrhs i (mem_cons_of_mem _ hi)) rfl
          cases compareIdentifier (slice lhs lhsStart (identifierEnd lhs lhsStart))
              (slice rhs rhsStart (identifierEnd rhs rhsStart)) with
          | lt => rfl
          | gt => rfl
          | eq =>
            simp only [Ordering.then]
            split
            case isTrue hboth => rw [hdone (by omega), hdone (by omega), compareIdentifiers]
            case isFalse hboth => exact hrest

/-- Identifiers of an accepted qualifier are not empty. -/
theorem identifier_ne_nil {qualifier : Bytes} (h : qualifier = [] ∨ parseIdentifiers qualifier enforce = true)
    (hne : qualifier ≠ []) : ∀ identifier ∈ qualifier.splitOn 46, identifier ≠ [] := by
  have hparsed := h.resolve_left hne
  simp only [parseIdentifiers, Bool.and_eq_true, all_eq_true] at hparsed
  rintro identifier hmem rfl
  have hok := hparsed.2 [] hmem
  simp [identifierOk] at hok

theorem precedenceCompareInPlace_eq (v other : SemVer) :
    precedenceCompareInPlace v other = precedenceCompare v other := by
  have hword : ∀ (a b : UInt32) (rest : Ordering),
      (if a ≠ b then compare a b else rest) = (compare a b).then rest := by
    intro a b rest
    by_cases heq : a = b
    · subst heq
      rw [if_neg (not_not.mpr rfl), compare_eq_iff_eq.mpr rfl]
      rfl
    · rw [if_pos heq]
      cases hcompare : compare a b with
      | lt | gt => rfl
      | eq => exact absurd (compare_eq_iff_eq.mp hcompare) heq
  rw [precedenceCompareInPlace, precedenceCompare, hword, hword, hword]
  congr 3
  cases hv : v.prerelease with
  | nil => cases other.prerelease <;> rfl
  | cons c rest =>
    cases ho : other.prerelease with
    | nil => rfl
    | cons d rest' =>
      have hvOk := v.prerelease_ok
      have hoOk := other.prerelease_ok
      rw [hv] at hvOk
      rw [ho] at hoOk
      have hfrom : ∀ (x : UInt8) (xs : Bytes), identifiersFrom (x :: xs) 0 = (x :: xs).splitOn 46 :=
        fun x xs => if_pos (Nat.zero_lt_succ _)
      simp only [isEmpty_cons, Bool.false_eq_true, and_self, if_false]
      rw [compareIdentifiersAt_eq_compare, hfrom, hfrom]
      · rw [hfrom]
        exact identifier_ne_nil hvOk (by simp)
      · rw [hfrom]
        exact identifier_ne_nil hoOk (by simp)

end Ocreg.SemVer

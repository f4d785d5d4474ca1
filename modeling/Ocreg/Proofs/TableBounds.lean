/-
Module: Ocreg.Proofs.TableBounds
Purpose: The eviction ledger and the resolution table at their bounds. Both drop their first entry before they take a new
  one, whether there is one or not, so a bound of zero, which policy documents can set, is not kept.
-/
import Ocreg.Documents.Policy
import Ocreg.Proofs.EvictionRounds
import Ocreg.Proofs.FailedAdmission
import Ocreg.Proofs.Resolutions

namespace Ocreg

open List Registry Lab

variable {α : Type}

/-- The operations that add to the two tables, replace them or move their bounds. -/
def Op.movesTables : Op → Bool
  | .admitRequest _ _ | .resolveConflict _ _ _ _ | .setLimits _ | .adoptState _ _ => true
  | _ => false

namespace Registry

variable {s t : Registry} {key : EvidenceKey} {incoming : EvidenceId} {now : Tick} {request : AdmissionRequest}
  {conflict : ConflictId} {chosen : EvidenceId} {resolver : SourceId} {op : Op} {limit : UInt64}

/-! ### The property -/

/-- Both tables are within their bounds. -/
structure TablesWithin (s : Registry) : Prop where
  ledger : s.evictionTable.length ≤ s.policy.limits.maxEvictionLedger.toNat
  resolutions : s.resolutionTable.length ≤ s.policy.limits.maxResolutions.toNat

/-- A table that is full and yet has nothing to drop: erasing its first entry is undefined. -/
def FullAndEmpty {α : Type} (table : List α) (limit : UInt64) : Prop := limit.toNat ≤ table.length ∧ table = []

/-- The operation stores a resolution under an id that is not in the table. -/
def Enters (s : Registry) (op : Op) (resolution : ConflictResolution) : Prop :=
  ∃ conflict chosen resolver now reason, op = .resolveConflict conflict chosen resolver now ∧
    (s.resolveConflict conflict chosen resolver now).1 = .success resolution reason ∧
    ∀ entry ∈ s.resolutionTable, entry.id ≠ resolution.id

/-- The operation never erases from an empty table and leaves both tables within their bounds. -/
structure TablesSafe (s : Registry) (op : Op) : Prop where
  ledger : ∀ request now, op = .admitRequest request now → ∀ round ∈ s.admissionRounds request now,
    ¬ FullAndEmpty round.1.evictionTable round.1.policy.limits.maxEvictionLedger
  resolutions : ∀ resolution, s.Enters op resolution →
    ¬ FullAndEmpty s.resolutionTable s.policy.limits.maxResolutions
  within : (s.step op).TablesWithin

/-! ### The condition -/

section

variable (s)

/-- A bound on the records is exceeded, and the first loop to run has something to evict. -/
def Overfull (key : EvidenceKey) (incoming : EvidenceId) (now : Tick) : Prop :=
  (recordsOver s = true ∨ streamOver key s = true) ∧
    s.pickEvictionCandidate (s.evictionScope key) (some incoming) now ≠ none

/-- The admission gets as far as inserting its record, and the record makes the registry overfull. -/
def Evicting (request : AdmissionRequest) (now : Tick) : Prop :=
  ∃ t, Admissible s request now t ∧ Advancing t (t.evidenceOf request) ∧
    (t.insertAdmitted (t.evidenceOf request) now).Overfull request.key (t.evidenceOf request).id now

/-- The resolution is allowed and its id is not in the table. -/
def Settling (conflict : ConflictId) (chosen : EvidenceId) (resolver : SourceId) (now : Tick) : Prop :=
  ∃ group, s.Resolvable conflict chosen resolver group ∧
    ∀ entry ∈ s.resolutionTable, entry.id ≠ (s.resolutionOf group chosen resolver now).id

/-- The policy in force once a state is adopted. -/
def policyUnder (state : RegistryState) : RegistryPolicy :=
  if state.policy.sources = [] then s.policy else state.policy

/-- An operation that adds to a table finds a bound above zero, and neither new bounds nor adopted tables leave a table
    above its bound. -/
def RespectsTables : Op → Prop
  | .admitRequest request now => s.Evicting request now → s.policy.limits.maxEvictionLedger ≠ 0
  | .resolveConflict conflict chosen resolver now =>
    s.Settling conflict chosen resolver now → s.policy.limits.maxResolutions ≠ 0
  | .setLimits limits =>
    s.evictionTable.length ≤ limits.maxEvictionLedger.toNat ∧ s.resolutionTable.length ≤ limits.maxResolutions.toNat
  | .adoptState state _ =>
    state.evictions.length ≤ (s.policyUnder state).limits.maxEvictionLedger.toNat ∧
      state.resolutions.length ≤ (s.policyUnder state).limits.maxResolutions.toNat
  | _ => True

end

theorem fullAndEmpty_zero {table : List α} (hwithin : table.length ≤ limit.toNat) (hzero : limit = 0) :
    FullAndEmpty table limit := by
  subst hzero
  exact ⟨Nat.zero_le _, eq_nil_of_length_eq_zero (Nat.le_zero.mp hwithin)⟩

theorem not_fullAndEmpty {table : List α} (hlimit : limit ≠ 0) : ¬ FullAndEmpty table limit := by
  rintro ⟨hfull, rfl⟩
  exact hlimit (UInt64.toNat_inj.mp (Nat.le_zero.mp hfull))

theorem one_le_of_ne_zero (hlimit : limit ≠ 0) : 1 ≤ limit.toNat :=
  Nat.one_le_iff_ne_zero.mpr fun hzero => hlimit (UInt64.toNat_inj.mp hzero)

/-! ### Evictions -/

/-- A loop over its bound that finds a victim starts with it, in the registry it is given. -/
theorem budgetRounds_of_pick {isOver : Registry → Bool} {restrict : Option EvidenceKey} {candidate : EvictionCandidate}
    (fuel : Nat) (hover : isOver s = true)
    (hpick : s.pickEvictionCandidate restrict (some incoming) now = some candidate) :
    ∃ rest, budgetRounds isOver restrict incoming now (fuel + 1) s = (s, candidate) :: rest := by
  obtain ⟨t, happly⟩ := applyEviction_of_pick hpick
  rw [budgetRounds, if_pos hover, hpick]
  dsimp only
  rw [happly]
  exact ⟨_, rfl⟩

/-- Both loops evict nothing, or the first victim is taken from the registry they are given. -/
theorem enforceRounds_cases (s : Registry) (key : EvidenceKey) (incoming : EvidenceId) (now : Tick) :
    ¬ s.Overfull key incoming now ∧ s.enforceRounds key incoming now = [] ∨
      s.Overfull key incoming now ∧ ∃ candidate rest, s.enforceRounds key incoming now = (s, candidate) :: rest := by
  rw [Overfull, evictionScope, enforceRounds]
  cases hover : recordsOver s with
  | true =>
    rw [if_pos rfl]
    cases hpick : s.pickEvictionCandidate none (some incoming) now with
    | none =>
      rw [budgetRounds, budgetLoop, if_pos hover, if_pos hover, hpick]
      exact .inl ⟨fun h => h.2 rfl, rfl⟩
    | some candidate =>
      obtain ⟨rest, hrounds⟩ := budgetRounds_of_pick s.totalRecords hover hpick
      rw [hrounds]
      exact .inr ⟨⟨.inl rfl, Option.some_ne_none candidate⟩, candidate, _, rfl⟩
  | false =>
    -- the first loop has nothing to do and hands the registry on
    rw [budgetRounds, budgetLoop, if_neg (Bool.eq_false_iff.mp hover), if_neg (Bool.eq_false_iff.mp hover),
      if_neg Bool.false_ne_true, nil_append]
    dsimp only
    cases hstream : streamOver key s with
    | false =>
      rw [budgetRounds, if_neg (Bool.eq_false_iff.mp hstream)]
      exact .inl ⟨fun h => h.1.elim Bool.false_ne_true Bool.false_ne_true, rfl⟩
    | true =>
      cases hpick : s.pickEvictionCandidate (some key) (some incoming) now with
      | none =>
        rw [budgetRounds, if_pos hstream, hpick]
        exact .inl ⟨fun h => h.2 rfl, rfl⟩
      | some candidate =>
        obtain ⟨rest, hrounds⟩ := budgetRounds_of_pick (s.streamSize key) hstream hpick
        exact .inr ⟨⟨.inr rfl, Option.some_ne_none candidate⟩, candidate, rest, hrounds⟩

/-- The registry an admission starts to evict from has the ledger and the bounds of the one before. -/
theorem inserted_ledger (ht : Admissible s request now t) :
    (t.insertAdmitted (t.evidenceOf request) now).evictionTable = s.evictionTable ∧
      (t.insertAdmitted (t.evidenceOf request) now).policy = s.policy := by
  obtain ⟨_, _, rfl⟩ := registerIncarnation_frame ht.registered
  exact ⟨rfl, rfl⟩

section

variable (s) (request : AdmissionRequest) (now : Tick)

/-- An admission evicts nothing, or evicts first from the ledger it finds. -/
theorem admissionRounds_cases : ¬ s.Evicting request now ∧ s.admissionRounds request now = [] ∨
      s.Evicting request now ∧ ∃ round ∈ s.admissionRounds request now,
        round.1.evictionTable = s.evictionTable ∧ round.1.policy = s.policy := by
  by_cases hadmits : ∃ t, Admissible s request now t ∧ Advancing t (t.evidenceOf request)
  · obtain ⟨t, ht, hnew⟩ := hadmits
    rw [admissionRounds_of_advancing ht hnew]
    rcases enforceRounds_cases (t.insertAdmitted (t.evidenceOf request) now) request.key (t.evidenceOf request).id now
      with ⟨hspare, hnil⟩ | ⟨hfull, candidate, rest, hrounds⟩
    · refine .inl ⟨?_, hnil⟩
      rintro ⟨u, hu, -, hfull⟩
      cases ht.registered.symm.trans hu.registered
      exact hspare hfull
    · rw [hrounds]
      exact .inr ⟨⟨t, ht, hnew, hfull⟩, (_, candidate), mem_cons_self, inserted_ledger ht⟩
  · refine .inl ⟨fun ⟨t, ht, hnew, _⟩ => hadmits ⟨t, ht, hnew⟩, ?_⟩
    refine eq_nil_iff_forall_not_mem.mpr fun round hround => hadmits ?_
    obtain ⟨t, ht, hnew, -⟩ := mem_admissionRounds hround
    exact ⟨t, ht, hnew⟩

/-- The ledger after an admission is the one its evictions leave, from the ledger before. -/
theorem ledger_admitRequest :
    ∃ incoming t u ids, t.evictionTable = s.evictionTable ∧ t.policy = s.policy ∧ Evicts incoming now t u ids ∧
      (s.admissionRounds request now = [] → ids = []) ∧
      (s.admitRequest request now).2.evictionTable = u.evictionTable := by
  have hquiet : ∀ t : Registry, t.evictionTable = s.evictionTable →
      ∃ incoming v u ids, v.evictionTable = s.evictionTable ∧ v.policy = s.policy ∧ Evicts incoming now v u ids ∧
        (s.admissionRounds request now = [] → ids = []) ∧ t.evictionTable = u.evictionTable :=
    fun t ht => ⟨(s.evidenceOf request).id, s, s, [], rfl, rfl, .refl s, fun _ => rfl, ht⟩
  have hregistered : ∀ t, s.registerIncarnation request.device = .ok t → t.evictionTable = s.evictionTable := by
    intro t ht
    obtain ⟨_, _, rfl⟩ := registerIncarnation_frame ht
    rfl
  have hevicted : ∀ t u ids ok, Admissible s request now t → Advancing t (t.evidenceOf request) →
      t.Budgeted request now ok u ids → s.admissionRounds request now = [] → ids = [] := by
    intro t u ids ok ht hnew hbudget hnil
    have hids := enforceBudget_ids (t.insertAdmitted (t.evidenceOf request) now) request.key
      (t.evidenceOf request).id now
    rw [hbudget, ← admissionRounds_of_advancing ht hnew, hnil] at hids
    exact hids
  generalize hop : s.admitRequest request now = result
  cases s.admitRequest_view hop with
  | @fenced t _ _ hreg _ => exact hquiet _ (hregistered t hreg)
  | @duplicate t ht _ | @rejected t ht _ _ _ | @retained t ht _ _ _ => exact hquiet _ (hregistered t ht.registered)
  | exhausted ht hnew hfailed =>
    exact ⟨_, _, _, _, (inserted_ledger ht).1, (inserted_ledger ht).2, evicts_of_budget hfailed,
      hevicted _ _ _ _ ht hnew hfailed, rfl⟩
  | accepted ht hnew hdone =>
    exact ⟨_, _, _, _, (inserted_ledger ht).1, (inserted_ledger ht).2, evicts_of_budget hdone,
      hevicted _ _ _ _ ht hnew hdone, rfl⟩
  | _ => exact hquiet _ rfl

end

/-- The bounds stay as they are from round to round. -/
theorem round_policy {round : Registry × EvictionCandidate} (h : round ∈ s.admissionRounds request now) :
    round.1.policy = s.policy := by
  obtain ⟨t, ht, -, ⟨ids, hevicts⟩, -, -⟩ := mem_admissionRounds h
  exact hevicts.policy.trans (inserted_ledger ht).2

/-! ### Resolutions -/

theorem length_pushResolution_known (resolution : ConflictResolution)
    (h : ∃ entry ∈ s.resolutionTable, entry.id = resolution.id) :
    (s.pushResolution resolution).resolutionTable.length = s.resolutionTable.length := by
  have hany : s.resolutionTable.any (fun entry => entry.id == resolution.id) = true := by simpa using h
  rw [pushResolution]
  dsimp only
  rw [if_pos hany]
  exact length_replaceFirst _ _ _

theorem length_pushResolution_new (resolution : ConflictResolution)
    (h : ∀ entry ∈ s.resolutionTable, entry.id ≠ resolution.id) :
    (s.pushResolution resolution).resolutionTable.length =
      ((if s.resolutionTable.length ≥ s.policy.limits.maxResolutions.toNat then s.resolutionTable.drop 1
        else s.resolutionTable) ++ [resolution]).length := by
  have hany : ¬ s.resolutionTable.any (fun entry => entry.id == resolution.id) = true := by simpa using h
  rw [pushResolution]
  dsimp only
  rw [if_neg hany]
  exact length_insertionSort _ _

/-- A resolution leaves the table as long as it was, or adds an entry to it. -/
theorem resolveConflict_table (s : Registry) (conflict : ConflictId) (chosen : EvidenceId) (resolver : SourceId)
    (now : Tick) : (¬ s.Settling conflict chosen resolver now ∧
      (∀ resolution, ¬ s.Enters (.resolveConflict conflict chosen resolver now) resolution) ∧
      (s.resolveConflict conflict chosen resolver now).2.resolutionTable.length = s.resolutionTable.length) ∨
    (s.Settling conflict chosen resolver now ∧ ∃ resolution,
      s.Enters (.resolveConflict conflict chosen resolver now) resolution ∧
      (s.resolveConflict conflict chosen resolver now).2.resolutionTable.length =
        ((if s.resolutionTable.length ≥ s.policy.limits.maxResolutions.toNat then s.resolutionTable.drop 1
          else s.resolutionTable) ++ [resolution]).length) := by
  generalize hresult : s.resolveConflict conflict chosen resolver now = result
  cases s.resolveConflict_view hresult with
  | refused hrefused =>
    refine .inl ⟨?_, ?_, rfl⟩
    · rintro ⟨group, hgroup, _⟩
      exact hrefused group hgroup
    · rintro resolution ⟨_, _, _, _, _, ⟨⟩, hentered, _⟩
      rw [hresult] at hentered
      cases hentered
  | @resolved group hgroup =>
    by_cases hnew : ∀ entry ∈ s.resolutionTable, entry.id ≠ (s.resolutionOf group chosen resolver now).id
    · refine .inr ⟨⟨group, hgroup, hnew⟩, _, ⟨_, _, _, _, .ok, rfl, ?_, hnew⟩, length_pushResolution_new _ hnew⟩
      rw [hresult]
    · refine .inl ⟨?_, ?_, length_pushResolution_known _ (by simpa using hnew)⟩
      · rintro ⟨other, hother, hunused⟩
        cases hgroup.1.symm.trans hother.1
        exact hnew hunused
      · rintro resolution ⟨_, _, _, _, _, ⟨⟩, hentered, hunused⟩
        rw [hresult] at hentered
        cases hentered
        exact hnew hunused

/-! ### Steps -/

section

variable (h : s.TablesWithin)
include h

theorem TablesSafe.of_quiet (hquiet : op.movesTables = false) : s.TablesSafe op where
  ledger := by
    rintro request now rfl
    cases hquiet
  resolutions := by
    rintro resolution ⟨_, _, _, _, _, rfl, _⟩
    cases hquiet
  within := by
    have htouches := s.step_touches (show op.Ordinary by rintro _ _ rfl; cases hquiet)
    have hlimits : (s.step op).policy.limits = s.policy.limits := by
      apply step_limits
      cases op with
      | setLimits _ | adoptState _ _ => cases hquiet
      | _ => trivial
    constructor
    · rw [htouches.ledger (by rintro _ _ rfl; cases hquiet), hlimits]
      exact h.ledger
    · rw [htouches.resolutions (by rintro _ _ _ _ rfl; cases hquiet), hlimits]
      exact h.resolutions

theorem tablesWithin_admitRequest (hlimit : s.Evicting request now → s.policy.limits.maxEvictionLedger ≠ 0) :
    (s.step (.admitRequest request now)).TablesWithin := by
  have hlimits : (s.step (.admitRequest request now)).policy.limits = s.policy.limits := step_limits trivial
  have hresolutions : (s.step (.admitRequest request now)).resolutionTable = s.resolutionTable :=
    (s.step_touches (by simp [Op.Ordinary])).resolutions (by simp)
  constructor
  · obtain ⟨incoming, t, u, ids, hledger, hpolicy, hevicts, hnone, hafter⟩ := s.ledger_admitRequest request now
    rw [hlimits, step, hafter]
    rcases s.admissionRounds_cases request now with ⟨-, hnil⟩ | ⟨hevicting, -⟩
    · rw [hnone hnil] at hevicts
      cases hevicts
      rw [hledger]
      exact h.ledger
    · have hbound := length_ledger_evicts hevicts
      rw [hledger, hpolicy] at hbound
      exact hbound (one_le_of_ne_zero (hlimit hevicting)) h.ledger
  · rw [hlimits, hresolutions]
    exact h.resolutions

theorem tablesSafe_admitRequest_iff :
    s.TablesSafe (.admitRequest request now) ↔ s.RespectsTables (.admitRequest request now) := by
  constructor
  · intro hsafe hevicting hzero
    rcases s.admissionRounds_cases request now with ⟨hquiet, -⟩ | ⟨-, round, hround, hledger, hpolicy⟩
    · exact hquiet hevicting
    · apply hsafe.ledger request now rfl round hround
      rw [hledger, hpolicy]
      exact fullAndEmpty_zero h.ledger hzero
  · intro hrespects
    refine ⟨?_, ?_, tablesWithin_admitRequest h hrespects⟩
    · rintro _ _ ⟨⟩ round hround
      rw [round_policy hround]
      rcases s.admissionRounds_cases request now with ⟨-, hnil⟩ | ⟨hevicting, -⟩
      · rw [hnil] at hround
        cases hround
      · exact not_fullAndEmpty (hrespects hevicting)
    · rintro _ ⟨_, _, _, _, _, hop, _⟩
      cases hop

theorem tablesSafe_resolveConflict_iff : s.TablesSafe (.resolveConflict conflict chosen resolver now) ↔
      s.RespectsTables (.resolveConflict conflict chosen resolver now) := by
  have hledger : (s.step (.resolveConflict conflict chosen resolver now)).evictionTable = s.evictionTable :=
    (s.step_touches (by simp [Op.Ordinary])).ledger (by simp)
  have hlimits : (s.step (.resolveConflict conflict chosen resolver now)).policy.limits = s.policy.limits :=
    step_limits trivial
  rcases s.resolveConflict_table conflict chosen resolver now with
    ⟨hnone, henters, hlength⟩ | ⟨hsettling, resolution, henters, hlength⟩
  · refine iff_of_true ⟨?_, fun resolution hresolution => absurd hresolution (henters resolution), ?_⟩
      (fun hsettling => absurd hsettling hnone)
    · rintro _ _ ⟨⟩
    · constructor
      · rw [hledger, hlimits]
        exact h.ledger
      · rw [hlimits, step, hlength]
        exact h.resolutions
  · constructor
    · intro hsafe _ hzero
      exact hsafe.resolutions resolution henters (fullAndEmpty_zero h.resolutions hzero)
    · intro hrespects
      have hlimit := hrespects hsettling
      refine ⟨?_, fun _ _ => not_fullAndEmpty hlimit, ?_⟩
      · rintro _ _ ⟨⟩
      · constructor
        · rw [hledger, hlimits]
          exact h.ledger
        · rw [hlimits, step, hlength]
          exact length_rotated resolution (one_le_of_ne_zero hlimit) h.resolutions

end

theorem tablesSafe_setLimits_iff (limits : RegistryLimits) :
    s.TablesSafe (.setLimits limits) ↔ s.RespectsTables (.setLimits limits) := by
  constructor
  · intro hsafe
    exact ⟨hsafe.within.ledger, hsafe.within.resolutions⟩
  · intro hrespects
    refine ⟨?_, ?_, ⟨hrespects.1, hrespects.2⟩⟩
    · rintro _ _ ⟨⟩
    · rintro _ ⟨_, _, _, _, _, hop, _⟩
      cases hop

/-- An adopted registry has the tables of the state, under the policy in force. -/
theorem adoptState_tables (s : Registry) (state : RegistryState) (now : Tick) :
    (s.adoptState state now).2.evictionTable = state.evictions ∧
      (s.adoptState state now).2.resolutionTable.length = state.resolutions.length ∧
      (s.adoptState state now).2.policy.limits = (s.policyUnder state).limits := by
  obtain ⟨_, _, hrefresh⟩ := (s.rebooted state now).refreshAllConflicts_frame (resumeTick state now)
  refine ⟨?_, ?_, ?_⟩
  · rw [adoptState]
    dsimp only
    rw [hrefresh]
    rfl
  · rw [adoptState_resolutions]
    exact length_insertionSort _ _
  · rw [adoptState]
    dsimp only
    rw [hrefresh, policyUnder]
    dsimp only [rebooted]
    split
    · rfl
    · rfl

theorem tablesSafe_adoptState_iff (state : RegistryState) :
    s.TablesSafe (.adoptState state now) ↔ s.RespectsTables (.adoptState state now) := by
  obtain ⟨hledger, hresolutions, hlimits⟩ := s.adoptState_tables state now
  constructor
  · intro hsafe
    obtain ⟨hbelow, hbelow'⟩ := hsafe.within
    rw [step, hledger, hlimits] at hbelow
    rw [step, hresolutions, hlimits] at hbelow'
    exact ⟨hbelow, hbelow'⟩
  · rintro ⟨hbelow, hbelow'⟩
    refine ⟨?_, ?_, ?_, ?_⟩
    · rintro _ _ ⟨⟩
    · rintro _ ⟨_, _, _, _, _, hop, _⟩
      cases hop
    · rw [step, hledger, hlimits]
      exact hbelow
    · rw [step, hresolutions, hlimits]
      exact hbelow'

/-- One step of tables within their bounds. -/
theorem tablesSafe_iff (h : s.TablesWithin) (op : Op) : s.TablesSafe op ↔ s.RespectsTables op := by
  by_cases hmoves : op.movesTables = true
  · cases op with
    | admitRequest request now => exact tablesSafe_admitRequest_iff h
    | resolveConflict conflict chosen resolver now => exact tablesSafe_resolveConflict_iff h
    | setLimits limits => exact tablesSafe_setLimits_iff limits
    | adoptState state now => exact tablesSafe_adoptState_iff state
    | _ => cases hmoves
  · have hquiet : op.movesTables = false := Bool.eq_false_iff.mpr hmoves
    refine iff_of_true (.of_quiet h hquiet) ?_
    cases op with
    | admitRequest _ _ | resolveConflict _ _ _ _ | setLimits _ | adoptState _ _ => cases hquiet
    | _ => trivial

theorem TablesWithin.init (policy : RegistryPolicy) : (init policy).TablesWithin :=
  ⟨Nat.zero_le _, Nat.zero_le _⟩

end Registry

/-- Under the policy of a document, a run keeps both tables safe exactly if each of its steps respects them. -/
theorem zero_bounds_safe_iff (document : Bytes) (ops : List Op) :
    (∀ policy ∈ (parsePolicyDocument document).value?,
      Runs.Along step Registry.TablesSafe (init policy) ops) ↔
    ∀ policy ∈ (parsePolicyDocument document).value?,
      Runs.Along step Registry.RespectsTables (init policy) ops := by
  refine forall₂_congr fun policy _ => ?_
  exact Runs.Along.iff_of_invariant (fun s op hwithin _ => s.tablesSafe_iff hwithin op)
    (fun _ _ _ _ hsafe => hsafe.within) (Registry.TablesWithin.init policy)
    (Runs.Along.of_forall (fun _ _ => trivial) _ ops)

namespace Lab

/-- A trusted source, fresh for ten ticks, as a policy document has it. -/
def sourceMember (id : Bytes) : Bytes :=
  [text "\x7b\"id\":\"", id, text "\",\"kind\":\"synthetic\",", text "\"authority\":\"synthetic\",",
    text "\"trust\":\"trusted\",", text "\"max_age\":10,", text "\"durable_across_boot\":false\x7d"].flatten

/-- A policy document with room for two records and none for the entries of either table. -/
def zeroBounds : Bytes :=
  [text "\x7b\"policy_name\":\"zero\",", text "\"rule_generation\":1,", text "\"require_configured_source\":true,",
    text "\"refuse_untrusted_sources\":true,", text "\"boot_policy\":\"conservative_fence\",",
    text "\"clock_mode\":\"manual\",", text "\"retention_horizon\":0,", text "\"max_future_skew\":0,",
    text "\"default_max_age\":0,", text "\"limits\":\x7b\"max_records\":2,", text "\"max_resolutions\":0,",
    text "\"max_eviction_ledger\":0\x7d,", text "\"sources\":[", sourceMember (text "lab"), text ",",
    sourceMember (text "peer"), text "]\x7d"].flatten

/-- The policy it is read as. -/
def zeroPolicy : RegistryPolicy :=
  { sources := [{ sourcePolicy with maxAge := 10 }, { sourcePolicy with id := peer, maxAge := 10 }]
    limits := { maxRecords := 2, maxResolutions := 0, maxEvictionLedger := 0 }
    policyName := text "zero" }

/-- Under it two reports of one device differ. -/
def contested : Registry :=
  ((init zeroPolicy).step (.admitRequest (request 0 1 5) 5)).step (.admitRequest objection 5)

/-- The resolution of their conflict. -/
def contestedResolution : Op :=
  .resolveConflict ((contested.conflictTable.head?.map ConflictGroup.id).getD .zero)
    ((contested.conflictTable.head?.bind (fun group => group.members.head?)).getD .zero) source 6

end Lab

/-- With a bound of zero the resolution table, and the ledger, are empty when their first entry is erased, and above their
    bounds afterwards. -/
theorem zero_bounds_not_kept :
    parsePolicyDocument zeroBounds = .success zeroPolicy .ok ∧
      (contested.policy.limits.maxResolutions = 0 ∧ contested.policy.limits.maxEvictionLedger = 0) ∧
      (contested.resolutionTable = [] ∧ (contested.step contestedResolution).resolutionTable.length = 1) ∧
      (contested.admissionRounds (request 1 1 100) 100).map (fun round => round.1.evictionTable) = [[]] ∧
      (contested.step (.admitRequest (request 1 1 100) 100)).evictionTable.length = 1 := by
  decide +kernel

end Ocreg

/-
Module: Ocreg.Documents.Policy
Purpose: Policy documents: the readers of export.cpp for the members of a JSON object, and `parse_policy_document` with
  the checks in the order of the source and the texts of its refusals.
-/
import Ocreg.Json.Parser
import Ocreg.Model.Registry

namespace Ocreg

/-! ### Spellings -/

def SourceKind.toText : SourceKind → Bytes
  | .synthetic => text "synthetic"
  | .adjacentRuntime => text "adjacent_runtime"
  | .deviceSelfReport => text "device_self_report"
  | .operatorDeclaration => text "operator_declaration"
  | .importedBundle => text "imported_bundle"

def AuthorityRank.toText : AuthorityRank → Bytes
  | .none => text "none"
  | .synthetic => text "synthetic"
  | .imported => text "imported"
  | .adjacentRuntime => text "adjacent_runtime"
  | .deviceSelfReport => text "device_self_report"
  | .operator => text "operator"

def SourceTrustState.toText : SourceTrustState → Bytes
  | .trusted => text "trusted"
  | .untrusted => text "untrusted"
  | .revoked => text "revoked"

def BootPolicy.toText : BootPolicy → Bytes
  | .conservativeFence => text "conservative_fence"
  | .carryForwardWithinFreshness => text "carry_forward_within_freshness"

def ClockMode.toText : ClockMode → Bytes
  | .manual => text "manual"
  | .systemMonotonic => text "system_monotonic"

/-- The candidate with this spelling. -/
def parseSpelling {α : Type} (candidates : List α) (toText : α → Bytes) (spelling : Bytes) : Option α :=
  candidates.find? (fun candidate => toText candidate == spelling)

def parseSourceKind : Bytes → Option SourceKind :=
  parseSpelling [.synthetic, .adjacentRuntime, .deviceSelfReport, .operatorDeclaration,
      .importedBundle] SourceKind.toText

def parseAuthorityRank : Bytes → Option AuthorityRank :=
  parseSpelling [.none, .synthetic, .imported, .adjacentRuntime, .deviceSelfReport, .operator] AuthorityRank.toText

def parseSourceTrustState : Bytes → Option SourceTrustState :=
  parseSpelling [.trusted, .untrusted, .revoked] SourceTrustState.toText

def parseBootPolicy : Bytes → Option BootPolicy :=
  parseSpelling [.conservativeFence, .carryForwardWithinFreshness] BootPolicy.toText

def parseClockMode : Bytes → Option ClockMode := parseSpelling [.manual, .systemMonotonic] ClockMode.toText

/-! ### Members of an object -/

/-- A member that may be missing; one of another type is malformed. -/
def readOptional {α : Type} (project : JsonValue → Option α) (object : JsonValue) (key : Bytes) :
    Except ReasonCode (Option α) :=
  match object.find key with
  | none => .ok none
  | some value =>
    match project value with
    | none => .error .rejectedMalformedDocument
    | some a => .ok (some a)

/-- A member that must be there. -/
def readRequired {α : Type} (project : JsonValue → Option α) (object : JsonValue) (key : Bytes) : Except ReasonCode α :=
  match readOptional project object key with
  | .error reason => .error reason
  | .ok none => .error .rejectedMissingField
  | .ok (some a) => .ok a

def readString : JsonValue → Bytes → Except ReasonCode Bytes := readRequired JsonValue.asString?

def readInteger : JsonValue → Bytes → Except ReasonCode Int64 := readRequired JsonValue.asInteger?

def readBool : JsonValue → Bytes → Except ReasonCode Bool := readRequired JsonValue.asBool?

/-- A string member in the form `parse` accepts. -/
def readParsed {α : Type} (parse : Bytes → Option α) (failure : ReasonCode) (object : JsonValue) (key : Bytes) :
    Except ReasonCode α := do
  let spelling ← readString object key
  match parse spelling with
  | none => .error failure
  | some a => .ok a

def readName : JsonValue → Bytes → Except ReasonCode Name := readParsed Name.parse? .rejectedMalformedName

def readEnum {α : Type} (parse : Bytes → Option α) : JsonValue → Bytes → Except ReasonCode α :=
  readParsed parse .rejectedMalformedDocument

/-- `read_source_policy`. -/
def readSourcePolicy (value : JsonValue) : Except ReasonCode SourcePolicy :=
  if !value.isObject then .error .rejectedMalformedDocument
  else do
    let id ← readName value (text "id")
    let kind ← readEnum parseSourceKind value (text "kind")
    let authority ← readEnum parseAuthorityRank value (text "authority")
    let trust ← readEnum parseSourceTrustState value (text "trust")
    let maxAge ← readInteger value (text "max_age")
    if maxAge < 0 then .error .rejectedMalformedDocument
    else
      let durableAcrossBoot ← readBool value (text "durable_across_boot")
      .ok { id, kind, authority, trust, maxAge := maxAge.toUInt64, durableAcrossBoot }

/-! ### Policy documents -/

/-- A failed read with the text the document is refused with. -/
def rejectedWith {α : Type} (detail : Bytes) : Except ReasonCode α → Except Refusal α
  | .error reason => .error ⟨reason, detail⟩
  | .ok a => .ok a

/-- The bounds a document can set, by member. -/
def limitFields : List (Bytes × (UInt64 → RegistryLimits → RegistryLimits)) :=
  [(text "max_devices", fun bound limits => { limits with maxDevices := bound }),
    (text "max_incarnations_per_device", fun bound limits => { limits with maxIncarnationsPerDevice := bound }),
    (text "max_streams", fun bound limits => { limits with maxStreams := bound }),
    (text "max_records", fun bound limits => { limits with maxRecords := bound }),
    (text "max_records_per_stream", fun bound limits => { limits with maxRecordsPerStream := bound }),
    (text "max_tombstones", fun bound limits => { limits with maxTombstones := bound }),
    (text "max_conflict_groups", fun bound limits => { limits with maxConflictGroups := bound }),
    (text "max_resolutions", fun bound limits => { limits with maxResolutions := bound }),
    (text "max_eviction_ledger", fun bound limits => { limits with maxEvictionLedger := bound }),
    (text "max_sources", fun bound limits => { limits with maxSources := bound }),
    (text "max_decisions", fun bound limits => { limits with maxDecisions := bound }),
    (text "max_features_per_record", fun bound limits => { limits with maxFeaturesPerRecord := bound }),
    (text "max_limits_per_record", fun bound limits => { limits with maxLimitsPerRecord := bound }),
    (text "max_limits_per_requirement", fun bound limits => { limits with maxLimitsPerRequirement := bound }),
    (text "max_required_features", fun bound limits => { limits with maxRequiredFeatures := bound })]

/-- One bound: a missing member leaves the default, and zero is as good as any other number. -/
def readLimit (object : JsonValue) (limits : RegistryLimits)
    (field : Bytes × (UInt64 → RegistryLimits → RegistryLimits)) : Except Refusal RegistryLimits := do
  match ← rejectedWith (text "limits field rejected") (readOptional JsonValue.asInteger? object field.1) with
  | none => .ok limits
  | some raw =>
    require (0 ≤ raw) .rejectedOversizedInput (text "negative limit bound")
    .ok (field.2 raw.toUInt64 limits)

def readLimits (policy : JsonValue) : Except Refusal RegistryLimits :=
  match policy.find (text "limits") with
  | none => .ok {}
  | some limits => do
    require limits.isObject .rejectedMalformedDocument (text "limits must be an object")
    limitFields.foldlM (readLimit limits) {}

/-- The sources in the order of their ids, of which no two may be the same. -/
def readSources (policy : JsonValue) : Except Refusal (List SourcePolicy) :=
  match (policy.find (text "sources")).bind JsonValue.asArray? with
  | none => .error ⟨.rejectedMissingField, text "policy sources are required"⟩
  | some entries => do
    require (entries.length ≤ 1024) .rejectedOversizedInput (text "too many policy sources")
    let sources ← rejectedWith (text "source policy rejected") (entries.mapM readSourcePolicy)
    let sources := sortSources sources
    require (sources.IsChain (fun a b => a.id ≠ b.id)) .rejectedDuplicateKey (text "policy sources are not unique")
    .ok sources

/-- The policy in an object that holds it. -/
def readPolicy (policy : JsonValue) : Except Refusal RegistryPolicy := do
  let field := fun {α : Type} (read : Except ReasonCode α) => rejectedWith (text "policy field rejected") read
  let sources ← readSources policy
  let requireConfiguredSource ← field (readBool policy (text "require_configured_source"))
  let refuseUntrustedSources ← field (readBool policy (text "refuse_untrusted_sources"))
  let bootPolicy ← field (readEnum parseBootPolicy policy (text "boot_policy"))
  let clockMode ← field (readEnum parseClockMode policy (text "clock_mode"))
  let retentionHorizon ← field (readInteger policy (text "retention_horizon"))
  let maxFutureSkew ← field (readInteger policy (text "max_future_skew"))
  let defaultMaxAge ← field (readInteger policy (text "default_max_age"))
  require (0 ≤ retentionHorizon ∧ 0 ≤ maxFutureSkew ∧ 0 ≤ defaultMaxAge)
    .rejectedMalformedDocument (text "negative policy duration")
  let policyName ← field (readString policy (text "policy_name"))
  let ruleGeneration ← field (readInteger policy (text "rule_generation"))
  require (0 < ruleGeneration) .rejectedRuleGenerationOutOfRange (text "rule generation must be non-zero")
  let limits ← readLimits policy
  .ok { sources, requireConfiguredSource, refuseUntrustedSources, bootPolicy, clockMode
        retentionHorizon := retentionHorizon.toUInt64
        maxFutureSkew := maxFutureSkew.toUInt64
        defaultMaxAge := defaultMaxAge.toUInt64
        limits
        ruleGeneration := ruleGeneration.toUInt64
        policyName }

/-- The object that holds the policy: the member of that name, or the document itself. -/
def policyMember (document : JsonValue) : Except Refusal JsonValue := do
  require document.isObject .rejectedMalformedDocument (text "policy document root must be an object")
  match document.find (text "policy") with
  | none => .ok document
  | some nested =>
    require nested.isObject .rejectedMalformedDocument (text "policy member must be an object")
    .ok nested

/-- `parse_policy_document`. -/
def parsePolicyDocument (document : Bytes) : Outcome RegistryPolicy :=
  match JsonValue.parse document {} with
  | .failure reason detail => .failure reason detail
  | .success parsed _ =>
    match policyMember parsed >>= readPolicy with
    | .error refusal => .failure refusal.reason refusal.detail
    | .ok policy => .success policy .ok

end Ocreg

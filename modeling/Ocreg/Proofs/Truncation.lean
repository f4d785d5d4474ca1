/-
Module: Ocreg.Proofs.Truncation
Purpose: Every strict beginning of an encoded state is refused as truncated, and by nothing else first.
-/
import Ocreg.Lib.Streaming
import Ocreg.Proofs.StateCodec

namespace Ocreg

open Decoder

/-- A reader that reports a cut input as truncated. -/
abbrev Reader.Steady {α : Type} (dec : Reader α) : Prop := Decoder.Steady ReasonCode.rejectedTruncatedInput dec

/-! ### Primitives -/

namespace Reader

instance : Reader.Steady u8 := by
  unfold u8
  infer_instance

instance : Reader.Steady u16 := by
  unfold u16
  infer_instance

instance : Reader.Steady u32 := by
  unfold u32
  infer_instance

instance : Reader.Steady u64 := by
  unfold u64
  infer_instance

instance : Reader.Steady i64 := by
  unfold i64
  infer_instance

instance : Reader.Steady boolean := by
  unfold boolean
  infer_instance

instance : Reader.Steady str := by
  unfold str
  infer_instance

instance : Reader.Steady name := by
  unfold name
  infer_instance

instance : Reader.Steady digest := by
  unfold digest
  infer_instance

instance {α : Type} {ofNumeric? : UInt16 → Option α} {failure : ReasonCode} :
    Reader.Steady (enum ofNumeric? failure) := by
  unfold enum
  infer_instance

instance : Reader.Steady reason := by
  unfold reason
  infer_instance

instance {α : Type} {dec : Reader α} [dec.Steady] : Reader.Steady (optional dec) := by
  unfold optional
  infer_instance

instance {α : Type} {dec : Reader α} [dec.Steady] {bound : Nat} {oversized : ReasonCode} :
    Reader.Steady (collection dec bound oversized) := by
  unfold collection
  infer_instance

end Reader

open Reader

/-! ### Values, keys and evidence -/

instance : Reader.Steady SemVer.decode := by
  unfold SemVer.decode
  infer_instance

instance : Reader.Steady PhysicalUnit.decode := by
  unfold PhysicalUnit.decode
  infer_instance

instance : Reader.Steady decodeKind := by
  unfold decodeKind
  infer_instance

instance : Reader.Steady decodeLimitCode := by
  unfold decodeLimitCode
  infer_instance

instance : Reader.Steady decodeFeatureCode := by
  unfold decodeFeatureCode
  infer_instance

instance : Reader.Steady decodeLimitParts := by
  unfold decodeLimitParts
  infer_instance

instance : Reader.Steady FeatureSet.decode := by
  unfold FeatureSet.decode
  infer_instance

instance : Reader.Steady LimitValue.decode :=
  inferInstanceAs (Reader.Steady (decodeLimitParts >>= fun parts => pure (LimitValue.mk parts.1 parts.2.1 parts.2.2)))

instance : Reader.Steady LimitSet.decode := by
  unfold LimitSet.decode
  infer_instance

instance : Reader.Steady DeviceIdentity.decode := by
  unfold DeviceIdentity.decode
  infer_instance

instance : Reader.Steady DeviceIncarnationRef.decode := by
  unfold DeviceIncarnationRef.decode
  infer_instance

instance : Reader.Steady SourceIncarnation.decode := by
  unfold SourceIncarnation.decode
  infer_instance

instance : Reader.Steady EvidenceKey.decode := by
  unfold EvidenceKey.decode
  infer_instance

instance {version : Reader SemVer} [version.Steady] : Reader.Steady (CapabilityEvidence.decodeWith version) := by
  unfold CapabilityEvidence.decodeWith
  infer_instance

instance {version : Reader SemVer} [version.Steady] : Reader.Steady (StoredEvidence.decodeWith version) := by
  unfold StoredEvidence.decodeWith
  infer_instance

/-! ### Tables -/

instance : Reader.Steady RetirementRecord.decode := by
  unfold RetirementRecord.decode
  infer_instance

instance : Reader.Steady ConflictGroup.decode := by
  unfold ConflictGroup.decode
  infer_instance

instance : Reader.Steady ConflictResolution.decode := by
  unfold ConflictResolution.decode
  infer_instance

instance : Reader.Steady EvictionEntry.decode := by
  unfold EvictionEntry.decode
  infer_instance

instance : Reader.Steady SourcePolicy.decode := by
  unfold SourcePolicy.decode
  infer_instance

instance : Reader.Steady RegistryLimits.decode := by
  unfold RegistryLimits.decode
  infer_instance

instance : Reader.Steady RegistryPolicy.decode := by
  unfold RegistryPolicy.decode
  infer_instance

instance : Reader.Steady RegistryCounters.decode := by
  unfold RegistryCounters.decode
  infer_instance

instance : Reader.Steady DeviceIncarnationEntry.decode := by
  unfold DeviceIncarnationEntry.decode
  infer_instance

set_option synthInstance.maxSize 400 in
instance {version : Reader SemVer} [version.Steady] : Reader.Steady (RegistryState.decodeWith version) := by
  unfold RegistryState.decodeWith
  infer_instance

instance : Reader.Steady RegistryState.decode :=
  inferInstanceAs (Reader.Steady (RegistryState.decodeWith SemVer.decode))

/-! ### Cut encodings -/

/-- Every strict beginning of a well-formed state's encoding is refused as truncated; so no encoding of a
    well-formed state is a strict beginning of another. -/
theorem truncated_state_refused {state : RegistryState} (h : state.WF) :
    (∀ front more : Bytes, state.encode = front ++ more → more ≠ [] →
      RegistryState.decode.run front = .error .rejectedTruncatedInput) ∧
    ∀ other : RegistryState, other.WF → other.encode <+: state.encode → other.encode = state.encode := by
  have hcut : ∀ front more : Bytes, state.encode = front ++ more → more ≠ [] →
      RegistryState.decode.run front = .error .rejectedTruncatedInput :=
    fun front more hsplit hmore => (RegistryState.roundTrip h).truncated hsplit hmore
  refine ⟨hcut, ?_⟩
  rintro other hother ⟨more, hmore⟩
  by_contra hne
  have hrefused := hcut other.encode more hmore.symm (by rintro rfl; exact hne (by simpa using hmore))
  have hwhole := RegistryState.roundTrip hother []
  rw [List.append_nil, hrefused] at hwhole
  cases hwhole

/-- A registry with a record, cut inside it. -/
theorem truncated_stored_state :
    RegistryState.decode.run (Lab.storedState.encode.take 500) = .error .rejectedTruncatedInput := by
  apply (truncated_state_refused Lab.storedState_wellFormed.wf).1 _ (Lab.storedState.encode.drop 500)
  · rw [List.take_append_drop]
  · decide +kernel

end Ocreg

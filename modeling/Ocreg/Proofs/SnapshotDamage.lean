/-
Module: Ocreg.Proofs.SnapshotDamage
Purpose: A snapshot file in which one byte was replaced is never opened.
-/
import Ocreg.Proofs.Checksum
import Ocreg.Proofs.StateCodec
import Ocreg.Store.Store

namespace Ocreg

open List

variable {data : Bytes} {offset : Nat} {byte : UInt8} {state : RegistryState}

/-! ### Guarded blocks -/

theorem getU32_injective {word : UInt32} (hlength : data.length = 4) (h : getU32 data 0 = word) :
    data = Writer.u32 word := by
  have hvalue : word.toNat = valueBE data := by
    have hlt := valueBE_lt data
    rw [hlength] at hlt
    rw [← h, getU32, getBE, drop_zero, take_of_length_le (Nat.le_of_eq hlength), UInt32.toNat_ofNat']
    exact Nat.mod_eq_of_lt hlt
  rw [Writer.u32, hvalue, ← hlength, putBE_valueBE]

/-- A block with its checksum behind it. -/
def guarded (body : Bytes) : Bytes := body ++ Writer.u32 (crc32c body)

/-- One changed byte, in the block or in the checksum, and the two no longer agree. -/
theorem guarded_set_ne (rest : Bytes) {body : Bytes} (hoffset : offset < body.length + 4)
    (hchanged : (guarded body)[offset]? ≠ some byte) :
    crc32c ((((guarded body).set offset byte) ++ rest).take body.length) ≠
      getU32 (((guarded body).set offset byte) ++ rest) body.length := by
  rw [guarded] at hchanged ⊢
  rw [set_append]
  split
  · rename_i hbody
    rw [append_assoc, take_left' (by simp), getU32_skip _ (by simp), length_set, Nat.sub_self, getU32_put]
    rw [getElem?_append_left hbody] at hchanged
    exact crc32c_set_ne hbody hchanged
  · rename_i hbody
    rw [append_assoc, take_left, getU32_skip _ (Nat.le_refl _), Nat.sub_self]
    rw [getElem?_append_right (Nat.le_of_not_lt hbody)] at hchanged
    intro heq
    have hword : (Writer.u32 (crc32c body)).set (offset - body.length) byte = Writer.u32 (crc32c body) := by
      rw [getU32_within rest (by simp)] at heq
      exact getU32_injective (by simp) heq.symm
    apply hchanged
    rw [← hword, getElem?_set_self (by simp; omega)]

/-! ### What reading a snapshot checks -/

theorem crc_of_parseHeader {header : SnapshotHeader} (h : parseHeader data = .ok header) :
    crc32c (data.take 108) = getU32 data 108 := by
  rw [parseHeader] at h
  split at h
  · cases h
  · split at h
    · cases h
    · split at h
      · cases h
      · rename_i hcrc
        exact not_not.mp hcrc

/-- The checks that together cover every byte of a file. -/
structure Checked (data : Bytes) : Prop where
  long : 144 ≤ data.length
  header : crc32c (data.take 108) = getU32 data 108
  footer : crc32c ((data.drop (data.length - 32)).take 24) = getU32 data (data.length - 32 + 24)
  reserved : getU32 data (data.length - 32 + 28) = 0
  payload : crc32c ((data.drop 112).take (data.length - 144)) = getU32 data (data.length - 32 + 12)

theorem checked_of_readSnapshot (hsize : data.length < 2 ^ 64) (h : readSnapshot data = .ok state) : Checked data := by
  rw [readSnapshot] at h
  cases hheader : parseHeader data with
  | error reason =>
    rw [hheader] at h
    cases h
  | ok header =>
    rw [hheader] at h
    obtain ⟨hlong, h⟩ := ok_of_require h
    obtain ⟨hdeclared, h⟩ := ok_of_require h
    obtain ⟨-, h⟩ := ok_of_require h
    obtain ⟨-, h⟩ := ok_of_require h
    obtain ⟨hfooter, h⟩ := ok_of_require h
    obtain ⟨hreserved, h⟩ := ok_of_require h
    obtain ⟨-, h⟩ := ok_of_require h
    obtain ⟨hpayload, h⟩ := ok_of_require h
    simp only [kSnapshotHeaderSize, kSnapshotFooterSize] at hlong hdeclared hfooter hreserved hpayload
    have hlen : header.payloadLen.toNat = data.length - 144 := by
      rw [hdeclared, UInt64.toNat_ofNat', Nat.mod_eq_of_lt (by omega)]
      omega
    have hplace : 112 + header.payloadLen.toNat = data.length - 32 := by omega
    rw [hplace] at hfooter hreserved hpayload
    rw [hlen] at hpayload
    exact ⟨by omega, crc_of_parseHeader hheader, hfooter, hreserved, hpayload⟩

/-! ### Every byte is covered -/

section Damage

variable {now : Tick}
  (hchanged : (snapshotFile state now)[offset]? ≠ some byte)
include hchanged

theorem header_damage (hoffset : offset < 112) : ¬ Checked ((snapshotFile state now).set offset byte) := by
  intro hchecked
  have hfile : (snapshotFile state now).set offset byte = (guarded (snapshotHeader state now).body).set offset byte ++
      (state.encode ++ snapshotFooter state.encode state.records.length) :=
    set_append_left _ _ (by simpa [guarded] using hoffset)
  have hblock : (guarded (snapshotHeader state now).body)[offset]? ≠ some byte := by
    rwa [snapshotFile, getElem?_append_left (by simpa using hoffset)] at hchanged
  have hheader := hchecked.header
  rw [hfile] at hheader
  have hnoticed := guarded_set_ne (state.encode ++ snapshotFooter state.encode state.records.length)
    (by simpa using hoffset) hblock
  rw [SnapshotHeader.length_body] at hnoticed
  exact hnoticed hheader

theorem payload_damage (hlow : 112 ≤ offset) (hhigh : offset < 112 + state.encode.length) :
    ¬ Checked ((snapshotFile state now).set offset byte) := by
  intro hchecked
  have hinside : offset - 112 < state.encode.length := by omega
  have hfile : (snapshotFile state now).set offset byte =
      ((snapshotHeader state now).serialize ++ state.encode.set (offset - 112) byte) ++
        snapshotFooter state.encode state.records.length := by
    rw [snapshotFile, set_append_right _ _ (by simpa using hlow), SnapshotHeader.length_serialize,
      set_append_left _ _ hinside, append_assoc]
  have hpayload : state.encode[offset - 112]? ≠ some byte := by
    rwa [snapshotFile, getElem?_append_right (by simpa using hlow), SnapshotHeader.length_serialize,
      getElem?_append_left hinside] at hchanged
  have hcheck := hchecked.payload
  rw [length_set, length_snapshotFile, Nat.add_sub_cancel, hfile,
    show state.encode.length + 144 - 32 = 112 + state.encode.length by omega,
    (footer_fields (by simp) state.encode state.records.length).2.2.2.2.2, append_assoc,
    drop_left' (SnapshotHeader.length_serialize _), take_left' length_set] at hcheck
  exact crc32c_set_ne hinside hpayload hcheck

theorem footer_damage (hlow : 112 + state.encode.length ≤ offset) (hhigh : offset < 144 + state.encode.length) :
    ¬ Checked ((snapshotFile state now).set offset byte) := by
  intro hchecked
  obtain ⟨place, rfl⟩ := Nat.exists_eq_add_of_le hlow
  have hfront : ((snapshotHeader state now).serialize ++ state.encode).length = 112 + state.encode.length := by simp
  have hwhole : snapshotFile state now = ((snapshotHeader state now).serialize ++ state.encode) ++
      snapshotFooter state.encode state.records.length := by rw [snapshotFile, append_assoc]
  have hfile : (snapshotFile state now).set (112 + state.encode.length + place) byte =
      ((snapshotHeader state now).serialize ++ state.encode) ++
        (snapshotFooter state.encode state.records.length).set place byte := by
    rw [hwhole, set_append_right _ _ (by omega), hfront, Nat.add_sub_cancel_left]
  have hplace : (snapshotFooter state.encode state.records.length)[place]? ≠ some byte := by
    rwa [hwhole, getElem?_append_right (by omega), hfront, Nat.add_sub_cancel_left] at hchanged
  have hfooter := hchecked.footer
  have hreserved := hchecked.reserved
  rw [length_set, length_snapshotFile, hfile,
    show state.encode.length + 144 - 32 = 112 + state.encode.length by omega, ← hfront,
    getU32_skip _ (by omega), Nat.add_sub_cancel_left] at hfooter hreserved
  rw [drop_left] at hfooter
  have hguarded : snapshotFooter state.encode state.records.length =
      guarded (footerBody state.encode state.records.length) ++ Writer.u32 0 := by
    rw [snapshotFooter, guarded, append_assoc]
  have hlength : (guarded (footerBody state.encode state.records.length)).length = 28 := by simp [guarded]
  rw [hguarded] at hplace hfooter hreserved
  by_cases hblock : place < 28
  · rw [set_append_left _ _ (by omega)] at hfooter
    rw [getElem?_append_left (by omega)] at hplace
    have hnoticed := guarded_set_ne (Writer.u32 0) (by simpa using hblock) hplace
    rw [length_footerBody] at hnoticed
    exact hnoticed hfooter
  · rw [set_append_right _ _ (by omega), hlength, getU32_skip _ (by omega), hlength, Nat.sub_self] at hreserved
    rw [getElem?_append_right (by omega), hlength] at hplace
    have hzero := getU32_injective (by simp) hreserved
    apply hplace
    rw [← hzero, getElem?_set_self (by simp; omega)]

omit hchanged in
/-- No file with one changed byte passes the checks. -/
theorem not_checked_damaged (hoffset : offset < (snapshotFile state now).length)
    (hchanged : (snapshotFile state now)[offset]? ≠ some byte) :
    ¬ Checked ((snapshotFile state now).set offset byte) := by
  rw [length_snapshotFile] at hoffset
  by_cases hheader : offset < 112
  · exact header_damage hchanged hheader
  · by_cases hpayload : offset < 112 + state.encode.length
    · exact payload_damage hchanged (by omega) hpayload
    · exact footer_damage hchanged (by omega) (by omega)

end Damage

/-- A store without a journal opens exactly what fits the read bound and its snapshot reader accepts. -/
theorem open_ok_iff {options : StoreOptions} {temp : Option Bytes} :
    (openStore options { snapshot := some data, temp := temp }).1.ok = true ↔
      options.basePath ≠ [] ∧ data.length ≤ options.limits.maxSnapshotBytes.toNat ∧
        ∃ state, readSnapshot data = .ok state := by
  rw [openStore]
  by_cases hpath : options.basePath = []
  · rw [if_pos hpath]
    simp [hpath, Outcome.ok]
  · rw [if_neg hpath]
    by_cases hbound : options.limits.maxSnapshotBytes.toNat < data.length
    · simp [openSnapshot, readWholeFile, hbound, Outcome.ok, bind, Except.bind]
    · cases hread : readSnapshot data with
      | error refusal => simp [openSnapshot, readWholeFile, hbound, hread, Outcome.ok, bind, Except.bind]
      | ok state =>
        simp [openSnapshot, readWholeFile, hbound, hread, openJournal, concludeOpen, Outcome.ok, bind, Except.bind,
          pure, Except.pure, hpath, Nat.le_of_not_lt hbound]

/-- Replacing one byte of a snapshot file, of whatever state, makes every store without a journal refuse it. -/
theorem damaged_snapshot_refused {state : RegistryState} {now : Tick} {offset : Nat} {byte : UInt8}
    (hoffset : offset < (snapshotFile state now).length) (hchanged : (snapshotFile state now)[offset]? ≠ some byte)
    (options : StoreOptions) (temp : Option Bytes) :
    (openStore options { snapshot := some ((snapshotFile state now).set offset byte), temp := temp }).1.ok = false := by
  rw [Bool.eq_false_iff]
  intro haccepted
  obtain ⟨-, hbound, found, hread⟩ := open_ok_iff.mp haccepted
  have hsize := Nat.lt_of_le_of_lt hbound (UInt64.toNat_lt _)
  exact not_checked_damaged hoffset hchanged (checked_of_readSnapshot hsize hread)

/-- The snapshot of a registry with a record opens, and no longer does with its first byte replaced. -/
theorem damaged_snapshot_refused_stored :
    (openStore { basePath := [47] } { snapshot := some (snapshotFile Lab.storedState 0) }).1.ok = true ∧
    (openStore { basePath := [47] } { snapshot := some ((snapshotFile Lab.storedState 0).set 0 7) }).1.ok = false := by
  have hlength : Lab.storedState.encode.length < 1024 := by decide +kernel
  have hroom : 1024 + 144 ≤ ({} : StoreLimits).maxSnapshotBytes.toNat := by decide
  constructor
  · refine open_ok_iff.mpr ⟨by simp, ?_, _, readSnapshot_file Lab.storedState_wellFormed.wf.decodable (by omega) 0⟩
    rw [length_snapshotFile]
    exact Nat.le_trans (Nat.add_le_add_right (Nat.le_of_lt hlength) 144) hroom
  · apply damaged_snapshot_refused
    · simp
    · decide +kernel

end Ocreg

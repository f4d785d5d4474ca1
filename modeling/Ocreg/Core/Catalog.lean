/-
Module: Ocreg.Core.Catalog
Purpose: The closed capability catalog: kinds, feature and limit codes with their tables, and the sorted
  feature and limit sets built from them.
-/
import Ocreg.Core.Units

namespace Ocreg

open Scan

def kMaxFeaturesPerRecord : Nat := 64

def kMaxLimitsPerRecord : Nat := 64

inductive CapabilityKind where
  | packetClassification
  | checksumOffload
  | tlsRecordCrypto
  | ipsecEsp
  | rdmaTransport
  | ovsDatapath
  | programmablePipeline
  | compressionOffload
  | bulkCrypto
  | timestamping
  | virtualSwitch
  | storageOffload
  | dmaEngine
  | flowSteering
deriving DecidableEq

namespace CapabilityKind

/-- Stable numeric code. -/
def code : CapabilityKind → UInt16
  | .packetClassification => 1
  | .checksumOffload => 2
  | .tlsRecordCrypto => 3
  | .ipsecEsp => 4
  | .rdmaTransport => 5
  | .ovsDatapath => 6
  | .programmablePipeline => 7
  | .compressionOffload => 8
  | .bulkCrypto => 9
  | .timestamping => 10
  | .virtualSwitch => 11
  | .storageOffload => 12
  | .dmaEngine => 13
  | .flowSteering => 14

def toText : CapabilityKind → Bytes
  | .packetClassification => text "packet_classification"
  | .checksumOffload => text "checksum_offload"
  | .tlsRecordCrypto => text "tls_record_crypto"
  | .ipsecEsp => text "ipsec_esp"
  | .rdmaTransport => text "rdma_transport"
  | .ovsDatapath => text "ovs_datapath"
  | .programmablePipeline => text "programmable_pipeline"
  | .compressionOffload => text "compression_offload"
  | .bulkCrypto => text "bulk_crypto"
  | .timestamping => text "timestamping"
  | .virtualSwitch => text "virtual_switch"
  | .storageOffload => text "storage_offload"
  | .dmaEngine => text "dma_engine"
  | .flowSteering => text "flow_steering"

/-- All kinds in code order. -/
def all : List CapabilityKind := [
  .packetClassification, .checksumOffload, .tlsRecordCrypto, .ipsecEsp, .rdmaTransport, .ovsDatapath,
  .programmablePipeline, .compressionOffload, .bulkCrypto, .timestamping, .virtualSwitch,
  .storageOffload, .dmaEngine, .flowSteering]

/-- `capability_kind_from_code`. -/
def ofCode? (raw : UInt16) : Option CapabilityKind := all.find? (fun kind => kind.code == raw)

@[simp] theorem ofCode?_code (kind : CapabilityKind) : ofCode? kind.code = some kind := by
  cases kind <;> rfl

theorem code_injective : Function.Injective code := by
  intro a b h
  have hsome := ofCode?_code a
  rw [h, ofCode?_code] at hsome
  exact (Option.some.inj hsome).symm

instance : LinearOrder CapabilityKind := LinearOrder.lift' code code_injective

instance : Inhabited CapabilityKind := ⟨.packetClassification⟩

/-- The kind's bit in a table mask. -/
def bit (kind : CapabilityKind) : UInt16 := 1 <<< (kind.code - 1)

end CapabilityKind

open CapabilityKind (bit)

/-! ### Tables -/

/-- Feature codes are numbers; only those of the table name a feature. -/
abbrev FeatureCode := UInt32

abbrev LimitCode := UInt32

structure FeatureInfo where
  code : FeatureCode
  name : String
  kindMask : UInt16

structure LimitInfo where
  code : LimitCode
  name : String
  kindMask : UInt16
  unit : UnitCode
  decimalScalePermitted : Bool
  binaryScalePermitted : Bool

def kPC : UInt16 := bit .packetClassification
def kCO : UInt16 := bit .checksumOffload
def kTLS : UInt16 := bit .tlsRecordCrypto
def kIPSEC : UInt16 := bit .ipsecEsp
def kRDMA : UInt16 := bit .rdmaTransport
def kOVS : UInt16 := bit .ovsDatapath
def kPP : UInt16 := bit .programmablePipeline
def kCOMP : UInt16 := bit .compressionOffload
def kCRYPTO : UInt16 := bit .bulkCrypto
def kTS : UInt16 := bit .timestamping
def kVS : UInt16 := bit .virtualSwitch
def kSTOR : UInt16 := bit .storageOffload
def kDMA : UInt16 := bit .dmaEngine
def kFS : UInt16 := bit .flowSteering

def kAllKinds : UInt16 :=
  kPC ||| kCO ||| kTLS ||| kIPSEC ||| kRDMA ||| kOVS ||| kPP ||| kCOMP ||| kCRYPTO ||| kTS ||| kVS ||| kSTOR ||| kDMA ||| kFS

/-- The array is declared with 101 entries and lists 99: the last two are value-initialised. -/
def kFeatures : List FeatureInfo := [
  ⟨1, "classify_l2_ethertype", kPC⟩,
  ⟨2, "classify_l3_ipv4", kPC⟩,
  ⟨3, "classify_l3_ipv6", kPC⟩,
  ⟨4, "classify_l4_tcp_udp", kPC⟩,
  ⟨5, "classify_tunnel_vxlan", kPC⟩,
  ⟨6, "classify_tunnel_geneve", kPC⟩,
  ⟨7, "classify_inner_header", kPC⟩,
  ⟨8, "classify_mpls", kPC⟩,
  ⟨20, "checksum_ipv4_header_tx", kCO⟩,
  ⟨21, "checksum_ipv4_header_rx", kCO⟩,
  ⟨22, "checksum_l4_tx", kCO⟩,
  ⟨23, "checksum_l4_rx", kCO⟩,
  ⟨24, "checksum_outer_l4", kCO⟩,
  ⟨25, "checksum_large_receive_offload", kCO⟩,
  ⟨26, "checksum_receive_coalescing", kCO⟩,
  ⟨40, "tls_1_2", kTLS⟩,
  ⟨41, "tls_1_3", kTLS⟩,
  ⟨42, "tls_aes_gcm_128", kTLS⟩,
  ⟨43, "tls_aes_gcm_256", kTLS⟩,
  ⟨44, "tls_chacha20_poly1305", kTLS⟩,
  ⟨45, "tls_record_alignment", kTLS⟩,
  ⟨46, "tls_key_update", kTLS⟩,
  ⟨60, "ipsec_esp_transport", kIPSEC⟩,
  ⟨61, "ipsec_esp_tunnel", kIPSEC⟩,
  ⟨62, "ipsec_aes_gcm_128", kIPSEC⟩,
  ⟨63, "ipsec_aes_gcm_256", kIPSEC⟩,
  ⟨64, "ipsec_aes_cbc_sha256", kIPSEC⟩,
  ⟨65, "ipsec_anti_replay", kIPSEC⟩,
  ⟨66, "ipsec_nat_traversal", kIPSEC⟩,
  ⟨80, "rdma_roce_v1", kRDMA⟩,
  ⟨81, "rdma_roce_v2", kRDMA⟩,
  ⟨82, "rdma_iwarp", kRDMA⟩,
  ⟨83, "rdma_reliable_connection", kRDMA⟩,
  ⟨84, "rdma_unreliable_datagram", kRDMA⟩,
  ⟨85, "rdma_atomic_operations", kRDMA⟩,
  ⟨86, "rdma_memory_windows", kRDMA⟩,
  ⟨87, "rdma_scatter_gather", kRDMA⟩,
  ⟨100, "ovs_kernel_datapath", kOVS⟩,
  ⟨101, "ovs_userspace_datapath", kOVS⟩,
  ⟨102, "ovs_conntrack", kOVS⟩,
  ⟨103, "ovs_meter", kOVS⟩,
  ⟨104, "ovs_tunnel_vxlan", kOVS⟩,
  ⟨105, "ovs_tunnel_geneve", kOVS⟩,
  ⟨106, "ovs_recirculation", kOVS⟩,
  ⟨120, "pipeline_p4_16", kPP⟩,
  ⟨121, "pipeline_p4_14", kPP⟩,
  ⟨122, "pipeline_psa_architecture", kPP⟩,
  ⟨123, "pipeline_v1model_architecture", kPP⟩,
  ⟨124, "pipeline_parser_state", kPP⟩,
  ⟨125, "pipeline_register_array", kPP⟩,
  ⟨126, "pipeline_meter_array", kPP⟩,
  ⟨127, "pipeline_digest_export", kPP⟩,
  ⟨128, "pipeline_extern_function", kPP⟩,
  ⟨140, "compression_deflate", kCOMP⟩,
  ⟨141, "compression_lz4", kCOMP⟩,
  ⟨142, "compression_zstd", kCOMP⟩,
  ⟨143, "compression_snappy", kCOMP⟩,
  ⟨144, "compression_stateless", kCOMP⟩,
  ⟨145, "compression_stateful", kCOMP⟩,
  ⟨160, "crypto_aes_cbc_128", kCRYPTO⟩,
  ⟨161, "crypto_aes_cbc_256", kCRYPTO⟩,
  ⟨162, "crypto_aes_xts_256", kCRYPTO⟩,
  ⟨163, "crypto_aes_gcm_128", kCRYPTO⟩,
  ⟨164, "crypto_aes_gcm_256", kCRYPTO⟩,
  ⟨165, "crypto_sha1_hmac", kCRYPTO⟩,
  ⟨166, "crypto_sha256_hmac", kCRYPTO⟩,
  ⟨167, "crypto_chacha20_poly1305", kCRYPTO⟩,
  ⟨168, "crypto_key_wrap", kCRYPTO⟩,
  ⟨180, "timestamp_ptp_v2", kTS⟩,
  ⟨181, "timestamp_hardware_tx", kTS⟩,
  ⟨182, "timestamp_hardware_rx", kTS⟩,
  ⟨183, "timestamp_one_step", kTS⟩,
  ⟨184, "timestamp_two_step", kTS⟩,
  ⟨185, "timestamp_phc", kTS⟩,
  ⟨200, "virtual_switch_sriov_vf", kVS⟩,
  ⟨201, "virtual_switch_virtio_net", kVS⟩,
  ⟨202, "virtual_switch_vdpa", kVS⟩,
  ⟨203, "virtual_switch_mac_learning", kVS⟩,
  ⟨204, "virtual_switch_vlan_tagging", kVS⟩,
  ⟨205, "virtual_switch_port_mirroring", kVS⟩,
  ⟨206, "virtual_switch_lag_bonding", kVS⟩,
  ⟨220, "storage_nvme_tcp", kSTOR⟩,
  ⟨221, "storage_nvme_rdma", kSTOR⟩,
  ⟨222, "storage_iscsi", kSTOR⟩,
  ⟨223, "storage_t10_dif", kSTOR⟩,
  ⟨224, "storage_erasure_coding", kSTOR⟩,
  ⟨225, "storage_replication", kSTOR⟩,
  ⟨240, "dma_descriptor_ring", kDMA⟩,
  ⟨241, "dma_scatter_gather", kDMA⟩,
  ⟨242, "dma_interrupt_coalescing", kDMA⟩,
  ⟨243, "dma_atomic_transfer", kDMA⟩,
  ⟨260, "flow_steering_rss", kFS⟩,
  ⟨261, "flow_steering_rss_hash_ipv4", kFS⟩,
  ⟨262, "flow_steering_rss_hash_ipv6", kFS⟩,
  ⟨263, "flow_steering_flow_director", kFS⟩,
  ⟨264, "flow_steering_tc_flower", kFS⟩,
  ⟨265, "flow_steering_action_mark", kFS⟩,
  ⟨266, "flow_steering_action_mirror", kFS⟩,
  ⟨267, "flow_steering_action_drop", kFS⟩,
  ⟨0, "", 0⟩,
  ⟨0, "", 0⟩]

def kLimits : List LimitInfo := [
  ⟨1, "classifier_entries", kPC ||| kFS ||| kOVS, .count, false, false⟩,
  ⟨2, "classifier_entries_ipv6", kPC ||| kFS ||| kOVS, .count, false, false⟩,
  ⟨3, "acl_rules", kPC ||| kFS ||| kOVS, .count, false, false⟩,
  ⟨4, "flow_table_entries", kOVS ||| kFS ||| kPP, .count, false, false⟩,
  ⟨5, "meter_count", kOVS ||| kPP ||| kFS, .count, false, false⟩,
  ⟨6, "register_cells", kPP, .count, false, false⟩,
  ⟨7, "parser_states", kPP, .count, false, false⟩,
  ⟨8, "parser_depth", kPP, .count, false, false⟩,
  ⟨9, "bandwidth",
    kPC ||| kCO ||| kTLS ||| kIPSEC ||| kRDMA ||| kOVS ||| kVS ||| kFS ||| kDMA ||| kCRYPTO ||| kCOMP ||| kSTOR,
    .bitPerSecond, true, true⟩,
  ⟨10, "packet_rate", kPC ||| kCO ||| kOVS ||| kFS ||| kVS, .packetPerSecond, true, true⟩,
  ⟨11, "conntrack_entries", kOVS ||| kVS ||| kFS, .count, false, false⟩,
  ⟨12, "tls_sessions", kTLS, .count, false, false⟩,
  ⟨13, "ipsec_security_associations", kIPSEC, .count, false, false⟩,
  ⟨14, "rdma_queue_pairs", kRDMA, .count, false, false⟩,
  ⟨15, "rdma_completion_queues", kRDMA, .count, false, false⟩,
  ⟨16, "rdma_memory_region_bytes", kRDMA, .byte, true, true⟩,
  ⟨17, "dma_channels", kDMA, .count, false, false⟩,
  ⟨18, "dma_descriptor_depth", kDMA, .count, false, false⟩,
  ⟨19, "maximum_transmission_unit",
    kPC ||| kCO ||| kTLS ||| kIPSEC ||| kOVS ||| kVS ||| kFS,
    .byte, false, false⟩,
  ⟨20, "maximum_record_size", kTLS, .byte, true, true⟩,
  ⟨21, "crypto_throughput", kCRYPTO ||| kIPSEC ||| kTLS, .bytePerSecond, true, true⟩,
  ⟨22, "compression_throughput", kCOMP, .bytePerSecond, true, true⟩,
  ⟨23, "compression_ratio", kCOMP, .percent, false, false⟩,
  ⟨24, "latency", kAllKinds, .nanoSecond, true, false⟩,
  ⟨25, "jitter", kAllKinds, .nanoSecond, true, false⟩,
  ⟨26, "phc_clock_accuracy", kTS, .nanoSecond, true, false⟩,
  ⟨27, "timestamp_resolution", kTS, .nanoSecond, true, false⟩,
  ⟨28, "virtual_functions", kVS ||| kPC ||| kFS, .count, false, false⟩,
  ⟨29, "queue_count", kRDMA ||| kVS ||| kCO ||| kDMA, .count, false, false⟩,
  ⟨30, "receive_queues", kCO ||| kVS ||| kFS ||| kRDMA, .count, false, false⟩,
  ⟨31, "transmit_queues", kCO ||| kVS ||| kFS ||| kRDMA, .count, false, false⟩,
  ⟨32, "storage_iops", kSTOR, .operationPerSecond, true, false⟩,
  ⟨33, "storage_throughput", kSTOR, .bytePerSecond, true, true⟩,
  ⟨34, "nvme_queue_depth", kSTOR, .count, false, false⟩,
  ⟨35, "erasure_code_fragments", kSTOR, .count, false, false⟩,
  ⟨36, "shared_memory_bytes", kRDMA ||| kDMA ||| kPP ||| kVS, .byte, true, true⟩,
  ⟨37, "firmware_image_bytes", kAllKinds, .byte, true, true⟩]

def featureInfo (code : FeatureCode) : Option FeatureInfo := kFeatures.find? (fun info => info.code == code)

def limitInfo (code : LimitCode) : Option LimitInfo := kLimits.find? (fun info => info.code == code)

def featureAllowedFor (code : FeatureCode) (kind : CapabilityKind) : Bool :=
  match featureInfo code with
  | some info => info.kindMask &&& bit kind != 0
  | none => false

def limitAllowedFor (code : LimitCode) (kind : CapabilityKind) : Bool :=
  match limitInfo code with
  | some info => info.kindMask &&& bit kind != 0
  | none => false

/-- The unit has the limit's unit code, is well formed and uses a permitted scale. -/
def unitValidForLimit (code : LimitCode) (unit : PhysicalUnit) : Bool :=
  match limitInfo code with
  | none => false
  | some info =>
    if unit.code ≠ info.unit then false
    else if !unitIsWellFormed unit then false
    else match unit.scale with
      | .unity => unit.exponent == 0
      | .decimal => info.decimalScalePermitted
      | .binary => info.binaryScalePermitted

/-- Digest prefix of the whole catalog: codes, spellings, kind masks, units. -/
def catalogFingerprint : UInt32 :=
  let hash := Sha256.init.updateU32 14
  let hash := CapabilityKind.all.foldl (fun hash kind => (hash.updateU16 kind.code).updateBytes kind.toText) hash
  let hash := hash.updateU32 (UInt32.ofNat kFeatures.length)
  let hash := kFeatures.foldl (fun hash info =>
    ((hash.updateU32 info.code).updateBytes (text info.name)).updateU16 info.kindMask) hash
  let hash := hash.updateU32 (UInt32.ofNat kLimits.length)
  let hash := kLimits.foldl (fun hash info =>
    (((((hash.updateU32 info.code).updateBytes (text info.name)).updateU16 info.kindMask).updateU16
      info.unit.info.numeric).updateByte (if info.decimalScalePermitted then 1 else 0)).updateByte
      (if info.binaryScalePermitted then 1 else 0)) hash
  hash.finish.leadingU32

theorem featureInfo_of_allowed {code : FeatureCode} {kind : CapabilityKind}
    (h : featureAllowedFor code kind = true) : ∃ info, featureInfo code = some info := by
  rw [featureAllowedFor] at h
  cases hinfo : featureInfo code with
  | none => simp [hinfo] at h
  | some info => exact ⟨info, rfl⟩

/-- What a valid unit of a limit satisfies. -/
theorem unitValidForLimit_spec {code : LimitCode} {unit : PhysicalUnit} (h : unitValidForLimit code unit = true) :
    ∃ info, limitInfo code = some info ∧ unit.code = info.unit ∧ unitIsWellFormed unit = true := by
  rw [unitValidForLimit] at h
  cases hinfo : limitInfo code with
  | none => simp [hinfo] at h
  | some info =>
    simp only [hinfo] at h
    split at h
    · cases h
    · split at h
      · cases h
      · next hcode hform => exact ⟨info, rfl, not_not.mp hcode, by simpa using hform⟩

/-! ### Feature and limit sets -/

/-- A strictly sorted set of feature codes. -/
structure FeatureSet where
  codes : List FeatureCode
  sorted : Scan.SortedBy id codes
deriving DecidableEq

namespace FeatureSet

def empty : FeatureSet := ⟨[], List.Pairwise.nil⟩

instance : Inhabited FeatureSet := ⟨empty⟩

/-- Sort and drop duplicates. -/
def fromValidated (codes : List FeatureCode) : FeatureSet :=
  ⟨sortUniqueBy id codes, sortUniqueBy_sorted id codes⟩

def contains (set : FeatureSet) (code : FeatureCode) : Bool := List.contains set.codes code

theorem fromValidated_codes (set : FeatureSet) : fromValidated set.codes = set := by
  cases set with
  | mk codes sorted => simp [fromValidated, sortUniqueBy_of_sorted sorted]

end FeatureSet

/-- One limit assertion: code, exact unit and value. -/
structure LimitValue where
  code : LimitCode
  unit : PhysicalUnit
  value : Int64
deriving DecidableEq

/-- Limit assertions strictly sorted by code, at most one per code. -/
structure LimitSet where
  values : List LimitValue
  sorted : Scan.SortedBy LimitValue.code values
deriving DecidableEq

namespace LimitSet

def empty : LimitSet := ⟨[], List.Pairwise.nil⟩

instance : Inhabited LimitSet := ⟨empty⟩

def fromValidated (values : List LimitValue) : LimitSet :=
  ⟨sortUniqueBy LimitValue.code values, sortUniqueBy_sorted LimitValue.code values⟩

def find? (set : LimitSet) (code : LimitCode) : Option LimitValue :=
  set.values.find? (fun value => value.code == code)

theorem fromValidated_values (set : LimitSet) : fromValidated set.values = set := by
  cases set with
  | mk values sorted => simp [fromValidated, sortUniqueBy_of_sorted sorted]

end LimitSet

end Ocreg

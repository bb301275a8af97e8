import GhostProtocol.Foundation.Bytes
import Mathlib.Tactic.SplitIfs

/-!
# Fragmentation of the first packet

A packet is split in two so that the header of a TLS record does not stand in
one fragment.  For a TLS record the place of the split is kept between two and
four bytes.  For other packets it is the configured size, and a size of zero
leaves an empty fragment in front.
-/

namespace GhostProtocol
namespace Common

open Foundation

/-- Settings of the fragmentation. -/
structure FragmentationConfig where
  enabled : Bool
  /-- Bytes of the first fragment. -/
  firstFragmentSize : Nat
  /-- Pause between fragments in milliseconds. -/
  interFragmentDelayMs : Nat

/-- Default settings. -/
def FragmentationConfig.default : FragmentationConfig where
  enabled := false
  firstFragmentSize := 2
  interFragmentDelayMs := 0

/-- Fragments in the order they are sent, and the pause between them. -/
structure FragmentedData where
  fragments : List Bytes
  interDelayMs : Nat
  deriving DecidableEq

/-- A packet in one piece. -/
def FragmentedData.whole (data : Bytes) : FragmentedData where
  fragments := [data]
  interDelayMs := 0

/-- A packet in two pieces. -/
def FragmentedData.split
    (data : Bytes)
    (splitPoint : Nat)
    (config : FragmentationConfig) : FragmentedData where
  fragments := [data.take splitPoint, data.drop splitPoint]
  interDelayMs := config.interFragmentDelayMs

/-- Split a packet at the configured size. -/
def fragmentData
    (data : Bytes)
    (config : FragmentationConfig) : FragmentedData :=
  if !config.enabled || data.length ≤ config.firstFragmentSize then
    .whole data
  else
    let splitPoint := Nat.min config.firstFragmentSize data.length
    .split data splitPoint config

/-- The content type of a TLS handshake record. -/
def HANDSHAKE : UInt8 := 0x16

/-- Bytes of the header of a TLS record. -/
def RECORD_HEADER_LEN : Nat := 5

/-- Split a TLS record inside its header, and other packets at the configured
size. -/
def fragmentTlsClientHello
    (data : Bytes)
    (config : FragmentationConfig) : FragmentedData :=
  if !config.enabled || data.length < RECORD_HEADER_LEN then
    .whole data
  else if data.headD 0 ≠ HANDSHAKE then
    fragmentData data config
  else
    let splitPoint := Nat.max (Nat.min config.firstFragmentSize 4) 2
    .split data splitPoint config

/-- The fragment at a position holds the whole header of the record: it starts
at the first byte of the packet and has as many bytes as the header. -/
def HoldsHeader (fragments : List Bytes) (index : Nat) : Prop :=
  (fragments.take index).flatten = [] ∧
    ∃ fragment, fragments[index]? = some fragment ∧
      RECORD_HEADER_LEN ≤ fragment.length

/-- Neither function loses a byte, a packet as long as a header has no empty
fragment, and the header of a TLS record is split in two. -/
structure FragmentsWell
    (data : Bytes)
    (config : FragmentationConfig) : Prop where
  lossless : (fragmentData data config).fragments.flatten = data
  losslessTls : (fragmentTlsClientHello data config).fragments.flatten = data
  nonempty : config.enabled = true → RECORD_HEADER_LEN ≤ data.length →
    [] ∉ (fragmentData data config).fragments
  nonemptyTls : config.enabled = true → RECORD_HEADER_LEN ≤ data.length →
    [] ∉ (fragmentTlsClientHello data config).fragments
  splitsHeader : config.enabled = true → RECORD_HEADER_LEN ≤ data.length →
    data.head? = some HANDSHAKE →
    (fragmentTlsClientHello data config).fragments.length = 2 ∧
      ∀ index,
        ¬HoldsHeader (fragmentTlsClientHello data config).fragments index

/-- A packet is the concatenation of its pieces. -/
@[simp] theorem flatten_whole (data : Bytes) :
    (FragmentedData.whole data).fragments.flatten = data :=
  List.flatten_singleton

@[simp] theorem flatten_split
    (data : Bytes)
    (splitPoint : Nat)
    (config : FragmentationConfig) :
    (FragmentedData.split data splitPoint config).fragments.flatten =
      data := by
  rw [FragmentedData.split, List.flatten_cons, List.flatten_singleton,
    List.take_append_drop]

/-- A split inside the packet leaves no empty piece. -/
theorem nil_notMem_split
    {data : Bytes}
    {splitPoint : Nat}
    (positive : 0 < splitPoint)
    (inside : splitPoint < data.length)
    (config : FragmentationConfig) :
    [] ∉ (FragmentedData.split data splitPoint config).fragments := by
  rw [FragmentedData.split, List.mem_pair]
  rintro (first | second)
  · have length := congrArg List.length first
    rw [List.length_take, List.length_nil] at length
    omega
  · have length := congrArg List.length second
    rw [List.length_drop, List.length_nil] at length
    omega

/-- A split inside the header leaves no piece with all of it. -/
theorem not_holdsHeader_split
    {data : Bytes}
    {splitPoint : Nat}
    (positive : 0 < splitPoint)
    (inside : splitPoint < RECORD_HEADER_LEN)
    (long : RECORD_HEADER_LEN ≤ data.length)
    (config : FragmentationConfig)
    (index : Nat) :
    ¬HoldsHeader (FragmentedData.split data splitPoint config).fragments
      index := by
  rintro ⟨atStart, fragment, found, whole⟩
  cases index with
  | zero =>
      obtain rfl := Option.some.inj found
      rw [List.length_take] at whole
      omega
  | succ index =>
      have length := congrArg List.length atStart
      rw [FragmentedData.split, List.take_succ_cons, List.flatten_cons,
        List.length_append, List.length_take, List.length_nil] at length
      omega

/-- The place where a TLS record is split. -/
theorem splitPoint_bounds (size : Nat) :
    0 < Nat.max (Nat.min size 4) 2 ∧
      Nat.max (Nat.min size 4) 2 < RECORD_HEADER_LEN := by
  have lower : 2 ≤ Nat.max (Nat.min size 4) 2 := Nat.le_max_right _ _
  have upper : Nat.max (Nat.min size 4) 2 ≤ 4 :=
    Nat.max_le.mpr ⟨Nat.min_le_right _ _, by decide⟩
  rw [RECORD_HEADER_LEN]
  omega

/-- The general rule loses nothing. -/
theorem flatten_fragmentData
    (data : Bytes)
    (config : FragmentationConfig) :
    (fragmentData data config).fragments.flatten = data := by
  unfold fragmentData
  split_ifs
  · exact flatten_whole data
  · exact flatten_split data _ config

/-- The rule for TLS records loses nothing. -/
theorem flatten_fragmentTlsClientHello
    (data : Bytes)
    (config : FragmentationConfig) :
    (fragmentTlsClientHello data config).fragments.flatten = data := by
  unfold fragmentTlsClientHello
  split_ifs
  · exact flatten_whole data
  · exact flatten_fragmentData data config
  · exact flatten_split data _ config

/-- A TLS record is split inside its header. -/
theorem fragmentTlsClientHello_of_handshake
    {data : Bytes}
    {config : FragmentationConfig}
    (enabled : config.enabled = true)
    (long : RECORD_HEADER_LEN ≤ data.length)
    (handshake : data.head? = some HANDSHAKE) :
    fragmentTlsClientHello data config =
      .split data (Nat.max (Nat.min config.firstFragmentSize 4) 2) config := by
  have first : data.headD 0 = HANDSHAKE := by
    rw [List.headD_eq_head?_getD, handshake]
    rfl
  have notShort : ¬data.length < RECORD_HEADER_LEN := Nat.not_lt.mpr long
  rw [fragmentTlsClientHello, first]
  simp [enabled, notShort]

/-- With a size of at least one byte the general rule leaves no empty
fragment of a packet that has any bytes. -/
theorem nil_notMem_fragmentData
    {data : Bytes}
    {config : FragmentationConfig}
    (positive : 0 < config.firstFragmentSize)
    (nonempty : data ≠ []) :
    [] ∉ (fragmentData data config).fragments := by
  unfold fragmentData
  split_ifs with inOnePiece
  · rw [FragmentedData.whole, List.mem_singleton]
    exact nonempty.symm
  · simp only [Bool.or_eq_true, decide_eq_true_eq, not_or, Nat.not_le]
      at inOnePiece
    have inside : Nat.min config.firstFragmentSize data.length =
        config.firstFragmentSize := Nat.min_eq_left inOnePiece.2.le
    rw [inside]
    exact nil_notMem_split positive inOnePiece.2 config

/-- The two functions fragment well exactly unless a packet as long as a header
is to be split at zero. -/
theorem fragmentsWell_iff
    (data : Bytes)
    (config : FragmentationConfig) :
    FragmentsWell data config ↔
      ¬(config.enabled = true ∧ RECORD_HEADER_LEN ≤ data.length ∧
        config.firstFragmentSize = 0) := by
  constructor
  · rintro well ⟨enabled, long, zero⟩
    have some : 0 < data.length := Nat.lt_of_lt_of_le (by decide) long
    refine well.nonempty enabled long ?_
    have notShort : ¬data.length ≤ config.firstFragmentSize := by omega
    have split : fragmentData data config =
        .split data (Nat.min config.firstFragmentSize data.length) config := by
      rw [fragmentData]
      simp [enabled, notShort]
    rw [zero, show Nat.min 0 data.length = 0 from Nat.zero_min _] at split
    rw [split]
    exact List.mem_cons_self
  · intro notZero
    have positive : config.enabled = true → RECORD_HEADER_LEN ≤ data.length →
        0 < config.firstFragmentSize ∧ data ≠ [] := by
      intro enabled long
      refine ⟨Nat.pos_of_ne_zero fun zero => notZero ⟨enabled, long, zero⟩, ?_⟩
      rintro rfl
      exact absurd long (by decide)
    refine {
      lossless := flatten_fragmentData data config
      losslessTls := flatten_fragmentTlsClientHello data config
      nonempty := fun enabled long => nil_notMem_fragmentData
        (positive enabled long).1 (positive enabled long).2
      nonemptyTls := ?_
      splitsHeader := ?_ }
    · intro enabled long
      obtain ⟨lower, upper⟩ := splitPoint_bounds config.firstFragmentSize
      unfold fragmentTlsClientHello
      split_ifs with inOnePiece
      · simp [enabled, Nat.not_lt.mpr long] at inOnePiece
      · exact nil_notMem_fragmentData (positive enabled long).1
          (positive enabled long).2
      · exact nil_notMem_split lower (upper.trans_le long) config
    · intro enabled long handshake
      obtain ⟨lower, upper⟩ := splitPoint_bounds config.firstFragmentSize
      rw [fragmentTlsClientHello_of_handshake enabled long handshake]
      exact ⟨rfl, not_holdsHeader_split lower upper long config⟩

/-- A greeting split at zero has an empty first fragment. -/
theorem not_fragmentsWell_of_zero :
    ¬FragmentsWell [104, 101, 108, 108, 111]
      { FragmentationConfig.default with
        enabled := true
        firstFragmentSize := 0 } := by
  intro well
  exact well.nonempty rfl (by decide) (by decide)

end Common
end GhostProtocol

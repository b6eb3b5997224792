import Pppcpd.Ppp.Ipcp

namespace Pppcpd

open Foundation

/-!
# The walks over the options of a Configure-Request

Both loops move by a length byte that the peer chose.  The LCP loop also runs
modulo 2^32, which matters when the length field of the packet is below the
header size: the option area is then almost 2^32 bytes long and reaches beyond
the packet.  A walk ends with progress exactly when no option it reaches is
empty and, in LCP, none carries the offset past 2^32.
-/

namespace LCPFsm

/-- Every option that the walk reaches moves the offset forward. -/
def OptionsAdvance (packet : Packet) : Prop :=
  forall offset, Boundary (nextOption packet) (optionArea packet) offset ->
    offset < optionArea packet ->
      packet.optionLen offset ≠ 0 ∧ offset + (packet.optionLen offset).toNat < walkModulus

theorem optionArea_lt (packet : Packet) : optionArea packet < walkModulus :=
  Nat.mod_lt _ (by decide)

/-- A round moves forward exactly when the option is not empty and the offset
does not wrap. -/
theorem lt_nextOption_iff (packet : Packet) {offset : Nat} (small : offset < walkModulus) :
    offset < nextOption packet offset ↔
      packet.optionLen offset ≠ 0 ∧ offset + (packet.optionLen offset).toNat < walkModulus := by
  have byte : (packet.optionLen offset).toNat < 256 := UInt8.toNat_lt _
  have zero : packet.optionLen offset ≠ 0 ↔ (packet.optionLen offset).toNat ≠ 0 := by
    rw [Ne, ← UInt8.toNat_inj]
    rfl
  rw [zero]
  unfold nextOption
  unfold walkModulus at small ⊢
  omega

theorem endsWithProgress_iff_optionsAdvance (packet : Packet) :
    EndsWithProgress (nextOption packet) (optionArea packet) ↔ OptionsAdvance packet := by
  rw [endsWithProgress_iff]
  constructor
  · intro advances offset boundary below
    exact (lt_nextOption_iff packet (Nat.lt_trans below (optionArea_lt packet))).mp
      (advances offset boundary below)
  · intro advances offset boundary below
    exact (lt_nextOption_iff packet (Nat.lt_trans below (optionArea_lt packet))).mpr
      (advances offset boundary below)

/-- `check_conf` does not return exactly when its loop never leaves the option
area. -/
theorem checkConf_eq_none_iff (context : LinkContext) (session : PPPOESession) (packet : Packet) :
    checkConf context session packet = none ↔
      optionArea packet ≠ 0 ∧ forall rounds, (nextOption packet)^[rounds] 0 < optionArea packet := by
  unfold checkConf
  dsimp only
  split
  · rename_i empty
    simp [empty]
  · rename_i filled
    rw [Option.map_eq_none_iff, visited_limit_eq_none_iff]
    exact ⟨fun forever => ⟨filled, forever⟩, And.right⟩

end LCPFsm

namespace IPCPFsm

/-- No option that the walk reaches is empty. -/
def OptionsAdvance (packet : Packet) : Prop :=
  forall offset, Boundary (nextOption packet) (optionArea packet) offset ->
    offset < optionArea packet -> packet.optionLen offset ≠ 0

theorem endsWithProgress_iff_optionsAdvance (packet : Packet) :
    EndsWithProgress (nextOption packet) (optionArea packet) ↔ OptionsAdvance packet := by
  have forward : forall offset,
      offset < nextOption packet offset ↔ packet.optionLen offset ≠ 0 := by
    intro offset
    rw [Ne, ← UInt8.toNat_inj]
    exact (Nat.lt_add_right_iff_pos).trans Nat.pos_iff_ne_zero
  rw [endsWithProgress_iff]
  constructor
  · intro advances offset boundary below
    exact (forward offset).mp (advances offset boundary below)
  · intro advances offset boundary below
    exact (forward offset).mpr (advances offset boundary below)

/-- `parseIPCPOptions` does not return exactly when its loop never leaves the
option area. -/
theorem parseIPCPOptions_eq_none_iff (packet : Packet) :
    parseIPCPOptions packet = none ↔
      forall rounds, (nextOption packet)^[rounds] 0 < optionArea packet :=
  visited_limit_eq_none_iff

/-- `send_conf_nak` changes the code before it walks, which moves no option. -/
theorem nextOption_setCode (packet : Packet) (code : UInt8) :
    nextOption (packet.setCode code) = nextOption packet := by
  funext offset
  unfold nextOption
  rw [Packet.optionLen_setCode]

theorem optionArea_setCode (packet : Packet) (code : UInt8) :
    optionArea (packet.setCode code) = optionArea packet := by
  unfold optionArea
  rw [Packet.length_setCode]

end IPCPFsm

/-- The three walks over the options of a Configure-Request end after at most
as many rounds as the option area has bytes, and every round makes progress:
the loop of `LCP_FSM::check_conf`, and `parseIPCPOptions` as it is called by
`IPCP_FSM::check_conf` and by `send_conf_nak`. -/
structure OptionWalksEnd (packet : Packet) : Prop where
  lcp : EndsWithProgress (LCPFsm.nextOption packet) (LCPFsm.optionArea packet)
  ipcp : EndsWithProgress (IPCPFsm.nextOption packet) (IPCPFsm.optionArea packet)
  confNak : EndsWithProgress (IPCPFsm.nextOption (packet.setCode LCPCode.confNak))
    (IPCPFsm.optionArea (packet.setCode LCPCode.confNak))

/-- The walks end with progress exactly when the options that they reach
advance. -/
theorem optionWalksEnd_iff (packet : Packet) :
    OptionWalksEnd packet ↔ LCPFsm.OptionsAdvance packet ∧ IPCPFsm.OptionsAdvance packet := by
  rw [← LCPFsm.endsWithProgress_iff_optionsAdvance, ← IPCPFsm.endsWithProgress_iff_optionsAdvance]
  constructor
  · intro ends
    exact ⟨ends.lcp, ends.ipcp⟩
  · intro ends
    refine ⟨ends.1, ends.2, ?_⟩
    rw [IPCPFsm.nextOption_setCode, IPCPFsm.optionArea_setCode]
    exact ends.2

/-- A Configure-Request whose only option has the length zero. -/
def emptyOptionRequest : Packet where
  bytes := [0x11, 0, 0, 1, 0, 8, 0xc0, 0x21, 1, 1, 0, 6, 1, 0]
  behind := fun _ => 0

/-- On an empty option the offset stays where it is, so neither loop ends. -/
theorem emptyOptionRequest_loops :
    ¬ OptionWalksEnd emptyOptionRequest ∧
      (forall context session,
        LCPFsm.checkConf context session emptyOptionRequest = none) ∧
      IPCPFsm.parseIPCPOptions emptyOptionRequest = none := by
  have lcpStays : forall rounds, (LCPFsm.nextOption emptyOptionRequest)^[rounds] 0 = 0 :=
    fun rounds => Function.iterate_fixed (by decide) rounds
  have ipcpStays : forall rounds, (IPCPFsm.nextOption emptyOptionRequest)^[rounds] 0 = 0 :=
    fun rounds => Function.iterate_fixed (by decide) rounds
  refine ⟨?_, ?_, ?_⟩
  · intro ends
    exact absurd rfl (((LCPFsm.endsWithProgress_iff_optionsAdvance _).mp ends.lcp) 0
      .start (by decide)).1
  · intro context session
    refine (LCPFsm.checkConf_eq_none_iff context session _).mpr ⟨by decide, ?_⟩
    intro rounds
    rw [lcpStays]
    decide
  · refine (IPCPFsm.parseIPCPOptions_eq_none_iff _).mpr ?_
    intro rounds
    rw [ipcpStays]
    decide

end Pppcpd

import Pppcpd.Aaa.Session
import Pppcpd.Radius.Encoding

namespace Pppcpd

open Foundation

/-!
# Traffic in accounting records

VPP counts the traffic of an interface in 64 bits.  The members of an accounting
request and its attributes have 32, and no attribute carries the upper half, so
a record conveys a counter modulo 2^32.
-/

/-- The four counters that a record reports. -/
inductive Volume
  | inPackets
  | outPackets
  | inOctets
  | outOctets
  deriving DecidableEq, Repr

namespace Volume

def counter (counters : VPPIfaceCounters) : Volume -> UInt64
  | inPackets => counters.rxPkts
  | outPackets => counters.txPkts
  | inOctets => counters.rxBytes
  | outOctets => counters.txBytes

/-- The attribute of the counter. -/
def attr : Volume -> Bytes
  | inPackets => ascii "Acct-Input-Packets"
  | outPackets => ascii "Acct-Output-Packets"
  | inOctets => ascii "Acct-Input-Octets"
  | outOctets => ascii "Acct-Output-Octets"

/-- The attribute for what exceeds 32 bits.  There is none for packets. -/
def upperAttr : Volume -> Option Bytes
  | inPackets | outPackets => none
  | inOctets => some (ascii "Acct-Input-Gigawords")
  | outOctets => some (ascii "Acct-Output-Gigawords")

end Volume

namespace AcctRequest

/-- The attributes of a request before they are put into a set. -/
def avps (dict : RadiusDict) (request : AcctRequest) : List AVP :=
  [AVP.ofString dict (ascii "Acct-Session-Id") request.sessionId,
    AVP.ofString dict (ascii "User-Name") request.username,
    AVP.ofBE32 dict (ascii "Acct-Input-Packets") request.inPkts,
    AVP.ofBE32 dict (ascii "Acct-Output-Packets") request.outPkts,
    AVP.ofBE32 dict (ascii "Acct-Input-Octets") request.inBytes,
    AVP.ofBE32 dict (ascii "Acct-Output-Octets") request.outBytes] ++
    optionalText dict (ascii "Acct-Status-Type") request.acctStatusType.text ++
    optionalText dict (ascii "NAS-Identifier") request.nasId

/-- The attributes that a serialized request carries. -/
def carried (dict : RadiusDict) (request : AcctRequest) : List AVP := AVP.set (request.avps dict)

theorem serialize_carried (dict : RadiusDict) (request : AcctRequest) :
    request.serialize dict = ((request.carried dict).map AVP.serialize).flatten := rfl

/-- The number in the attribute of a name, or zero when it is not carried. -/
def carriedNumber (dict : RadiusDict) (request : AcctRequest) (attr : Bytes) : Nat :=
  match (request.carried dict).find? (fun avp => (avp.type, avp.vendor) = dict.getIdByName attr) with
  | none => 0
  | some avp => (avp.getBE32.map UInt32.toNat).getD 0

/-- The traffic that a request conveys with all its volume attributes. -/
def conveyed (dict : RadiusDict) (request : AcctRequest) (volume : Volume) : Nat :=
  request.carriedNumber dict volume.attr +
    4294967296 * (volume.upperAttr.map (request.carriedNumber dict)).getD 0

/-- The names of the attributes that an accounting request may carry. -/
def names : List Bytes :=
  [ascii "Acct-Session-Id", ascii "User-Name", ascii "Acct-Input-Packets",
    ascii "Acct-Output-Packets", ascii "Acct-Input-Octets", ascii "Acct-Output-Octets",
    ascii "Acct-Status-Type", ascii "NAS-Identifier", ascii "Acct-Input-Gigawords",
    ascii "Acct-Output-Gigawords"]

end AcctRequest

/-- The dictionary tells the attributes of accounting requests apart. -/
def RadiusDict.TellsAcct (dict : RadiusDict) : Prop :=
  (AcctRequest.names.map (fun name => (dict.getIdByName name).1)).Nodup

namespace AcctRequest

section

variable {dict : RadiusDict} (request : AcctRequest)

theorem optionalText_types (attr text : Bytes) :
    ((optionalText dict attr text).map AVP.type).Sublist [(dict.getIdByName attr).1] := by
  unfold optionalText
  split
  · exact List.nil_sublist _
  · exact List.Sublist.refl _

/-- The types of the attributes, and those of the upper halves, differ. -/
theorem nodup_types (tells : dict.TellsAcct) : ((request.avps dict).map AVP.type ++
    [(dict.getIdByName (ascii "Acct-Input-Gigawords")).1,
      (dict.getIdByName (ascii "Acct-Output-Gigawords")).1]).Nodup := by
  have optional := (@optionalText_types dict (ascii "Acct-Status-Type") request.acctStatusType.text).append
    (@optionalText_types dict (ascii "NAS-Identifier") request.nasId)
  have all := (((List.Sublist.refl
    [(dict.getIdByName (ascii "Acct-Session-Id")).1, (dict.getIdByName (ascii "User-Name")).1,
      (dict.getIdByName (ascii "Acct-Input-Packets")).1, (dict.getIdByName (ascii "Acct-Output-Packets")).1,
      (dict.getIdByName (ascii "Acct-Input-Octets")).1,
      (dict.getIdByName (ascii "Acct-Output-Octets")).1]).append optional).append
    (List.Sublist.refl [(dict.getIdByName (ascii "Acct-Input-Gigawords")).1,
      (dict.getIdByName (ascii "Acct-Output-Gigawords")).1])).nodup tells
  rw [List.append_assoc, List.append_assoc] at all
  rw [avps, List.map_append, List.map_append, List.append_assoc, List.append_assoc]
  exact all

theorem perm_carried (tells : dict.TellsAcct) : (request.carried dict).Perm (request.avps dict) :=
  AVP.perm_set (List.nodup_append.mp (request.nodup_types tells)).1

/-- A number that is put in is carried. -/
theorem carriedNumber_of_mem (tells : dict.TellsAcct) {attr : Bytes} {number : UInt32}
    (member : AVP.ofBE32 dict attr number ∈ request.avps dict) :
    request.carriedNumber dict attr = number.toNat := by
  have distinct := (List.nodup_append.mp (request.nodup_types tells)).1
  have isFound : (request.carried dict).find? (fun avp => (avp.type, avp.vendor) =
      dict.getIdByName attr) = some (AVP.ofBE32 dict attr number) := by
    cases found : (request.carried dict).find? (fun avp => (avp.type, avp.vendor) =
        dict.getIdByName attr) with
    | none =>
        have absent := List.find?_eq_none.mp found _ ((request.perm_carried tells).mem_iff.mpr member)
        exact absurd (decide_eq_true rfl) absent
    | some avp =>
        have same : (avp.type, avp.vendor) = dict.getIdByName attr := by
          simpa using List.find?_some found
        have inside := (request.perm_carried tells).mem_iff.mp (List.mem_of_find?_eq_some found)
        have sameType : avp.type = (AVP.ofBE32 dict attr number).type := congrArg Prod.fst same
        exact congrArg some (List.inj_on_of_nodup_map distinct inside member sameType)
  have value : (AVP.ofBE32 dict attr number).getBE32 = some number :=
    congrArg some (be32_bytes32 number)
  rw [carriedNumber, isFound]
  dsimp only
  rw [value]
  rfl

/-- A number is not carried under a type that no attribute has. -/
theorem carriedNumber_of_notMem {attr : Bytes}
    (absent : (dict.getIdByName attr).1 ∉ (request.avps dict).map AVP.type) :
    request.carriedNumber dict attr = 0 := by
  have nothing : (request.carried dict).find? (fun avp => (avp.type, avp.vendor) =
      dict.getIdByName attr) = none := by
    refine List.find?_eq_none.mpr (fun avp member same => absent ?_)
    rw [← of_decide_eq_true same]
    exact List.mem_map_of_mem (AVP.mem_of_mem_set member)
  rw [carriedNumber, nothing]

end

end AcctRequest

namespace AAA

/-- A record conveys a counter modulo 2^32. -/
theorem conveyed_acctRecord {dict : RadiusDict} (tells : dict.TellsAcct) (session : AAASession)
    (status : AcctStatus) (counters : VPPIfaceCounters) (volume : Volume) :
    (acctRecord session status (some counters)).conveyed dict volume =
      (volume.counter counters).toNat % 4294967296 := by
  have apart := (List.nodup_append.mp
    ((acctRecord session status (some counters)).nodup_types tells)).2.2
  have noUpper : forall attr, attr = ascii "Acct-Input-Gigawords" ∨ attr = ascii "Acct-Output-Gigawords" ->
      (acctRecord session status (some counters)).carriedNumber dict attr = 0 := by
    intro attr upper
    refine AcctRequest.carriedNumber_of_notMem _ (fun member => ?_)
    refine apart _ member _ ?_ rfl
    rcases upper with input | output
    · rw [input]
      exact List.mem_cons_self
    · rw [output]
      exact List.mem_cons_of_mem _ List.mem_cons_self
  have upper : 4294967296 * (volume.upperAttr.map
      ((acctRecord session status (some counters)).carriedNumber dict)).getD 0 = 0 := by
    cases volume with
    | inPackets | outPackets => rfl
    | inOctets => exact congrArg (4294967296 * ·) (noUpper _ (.inl rfl))
    | outOctets => exact congrArg (4294967296 * ·) (noUpper _ (.inr rfl))
  have lower : (acctRecord session status (some counters)).carriedNumber dict volume.attr =
      (volume.counter counters).toUInt32.toNat := by
    refine AcctRequest.carriedNumber_of_mem _ tells ?_
    refine List.mem_append_left _ (List.mem_append_left _ ?_)
    cases volume with
    | inPackets => exact List.mem_of_getElem? (i := 2) rfl
    | outPackets => exact List.mem_of_getElem? (i := 3) rfl
    | inOctets => exact List.mem_of_getElem? (i := 4) rfl
    | outOctets => exact List.mem_of_getElem? (i := 5) rfl
  rw [AcctRequest.conveyed, upper, lower, Nat.add_zero, UInt64.toNat_toUInt32]

/-- The record of a stopped session is made from the counters of its interface. -/
theorem stop_eq {aaa : AAA} {ref : Nat} {session : AAASession}
    (present : aaa.objects.deref ref = some session) (accounted : session.acct = true)
    (counters : Table UInt32 VPPIfaceCounters) :
    aaa.stop counters ref = (aaa.updateObject ref (onTimer Timer.cancel)).acctRequest
      (acctRecord session .stop (counters.lookup session.ifindex)) { status := .stop, session := ref } := by
  rw [stop, present]
  exact if_pos accounted

/-- So is the one of an interim update. -/
theorem onInterim_eq {aaa : AAA} {ref : Nat} {session : AAASession}
    (present : aaa.objects.deref ref = some session) (accounted : session.acct = true)
    (counters : Table UInt32 VPPIfaceCounters) :
    aaa.onInterim counters ref = (aaa.updateObject ref (onTimer Timer.cancel)).acctRequest
      (acctRecord session .alive (counters.lookup session.ifindex)) { status := .alive, session := ref } := by
  rw [onInterim, present]
  exact if_pos accounted

/-- The records of two snapshots of the counters, the second one later: what they
convey does not shrink, and it is what was counted. -/
structure Metered (dict : RadiusDict) (session : AAASession) (status : AcctStatus)
    (first second : VPPIfaceCounters) : Prop where
  grows : forall volume, (acctRecord session status (some first)).conveyed dict volume ≤
    (acctRecord session status (some second)).conveyed dict volume
  whole : forall volume, (acctRecord session status (some second)).conveyed dict volume =
    (volume.counter second).toNat

/-- Traffic is metered exactly as long as the counters fit in 32 bits. -/
theorem metered_iff {dict : RadiusDict} (tells : dict.TellsAcct) (session : AAASession)
    (status : AcctStatus) {first second : VPPIfaceCounters}
    (later : forall volume : Volume, volume.counter first ≤ volume.counter second) :
    Metered dict session status first second ↔
      forall volume : Volume, (volume.counter second).toNat < 4294967296 := by
  constructor
  · intro metered volume
    have whole := metered.whole volume
    rw [conveyed_acctRecord tells] at whole
    rw [← whole]
    exact Nat.mod_lt _ (by decide)
  · intro fits
    refine ⟨fun volume => ?_, fun volume => ?_⟩
    · rw [conveyed_acctRecord tells, conveyed_acctRecord tells, Nat.mod_eq_of_lt (fits volume)]
      exact Nat.le_trans (Nat.mod_le _ _) (later volume)
    · rw [conveyed_acctRecord tells, Nat.mod_eq_of_lt (fits volume)]

/-- A dictionary with the attributes of accounting requests. -/
def acctDict : RadiusDict where
  attrs := [(1, { name := ascii "User-Name" }), (32, { name := ascii "NAS-Identifier" }),
    (40, { name := ascii "Acct-Status-Type" }), (42, { name := ascii "Acct-Input-Octets" }),
    (43, { name := ascii "Acct-Output-Octets" }), (44, { name := ascii "Acct-Session-Id" }),
    (47, { name := ascii "Acct-Input-Packets" }), (48, { name := ascii "Acct-Output-Packets" }),
    (52, { name := ascii "Acct-Input-Gigawords" }), (53, { name := ascii "Acct-Output-Gigawords" })]

theorem acctDict_tells : acctDict.TellsAcct := by
  unfold RadiusDict.TellsAcct
  decide +kernel

/-- A session that is accounted for. -/
def meteredSession : AAASession :=
  { sessionId := 0, username := ascii "user", acct := true, ifindex := 1 }

theorem metered_at_small : Metered acctDict meteredSession .alive ⟨1, 100, 2, 300, 0⟩ ⟨2, 200, 3, 500, 0⟩ := by
  refine (metered_iff acctDict_tells _ _ ?_).mpr ?_
  · intro volume
    cases volume <;> decide
  · intro volume
    cases volume <;> decide

/-- After 4 GiB the record of a session says that it received nothing. -/
theorem usage_shrinks : ¬ (forall (session : AAASession) (status : AcctStatus)
    (first second : VPPIfaceCounters),
    (forall volume : Volume, volume.counter first ≤ volume.counter second) ->
      Metered acctDict session status first second) := by
  intro metered
  have shrunk := (metered meteredSession .stop ⟨0, 4294967295, 0, 0, 0⟩ ⟨0, 4294967296, 0, 0, 0⟩
    (by intro volume; cases volume <;> decide)).grows .inOctets
  rw [conveyed_acctRecord acctDict_tells, conveyed_acctRecord acctDict_tells] at shrunk
  exact absurd shrunk (by decide)

end AAA

end Pppcpd

import Pppcpd.Foundation.Table
import Pppcpd.Ppp.Session
import Mathlib.Data.Finset.Basic

namespace Pppcpd

open Foundation

/-!
# The data plane

`VPPAPI` sends requests to VPP and waits for each reply.  VPP itself is not
part of the daemon: what it answers is a parameter, `replies`, with one reply
for each call in the order of the calls.  `held` is the set of PPPoE sessions
that VPP has, which an add or delete command changes exactly when it succeeds.
-/

/-- A reply of VPP.  `executed` is false when the request could not be sent. -/
structure VPPReply where
  executed : Bool := true
  retval : Int := 0
  swIfIndex : UInt32 := 0
  ifaces : List (Bytes × UInt32) := []
  unnumbered : List (UInt32 × UInt32) := []
  deriving DecidableEq, Repr

/-- The calls of `VPPAPI`.  `unknownVrf` is a call of `add_pppoe_session` that
fails before it sends anything. -/
inductive VPPRequest
  | addDelSession (owner : Nat) (mac : Mac) (sessionId : UInt16) (ipAddress decapVrfId : UInt32)
      (isAdd : Bool)
  | unknownVrf (owner : Nat) (isAdd : Bool)
  | setTable (ifindex vrfId : UInt32)
  | setUnnumbered (unnumbered iface : UInt32) (isAdd : Bool)
  | dumpUnnumbered (ifindex : UInt32)
  | dumpIfaces
  deriving DecidableEq, Repr

/-- A call that was made and whether it succeeded. -/
structure VPPCall where
  request : VPPRequest
  ok : Bool
  deriving DecidableEq, Repr

/-- `VPPAPI`, with the calls made so far, oldest first. -/
structure VPP where
  vrfs : Table Bytes UInt32 := ∅
  replies : Nat -> VPPReply
  calls : List VPPCall := []
  held : Finset (Mac × UInt16) := ∅

namespace VPP

/-- The reply to the next call. -/
def reply (vpp : VPP) : VPPReply := vpp.replies vpp.calls.length

/-- Note a call. -/
def called (vpp : VPP) (request : VPPRequest) (ok : Bool) : VPP :=
  { vpp with calls := vpp.calls ++ [{ request := request, ok := ok }] }

/-- `add_pppoe_session` for a session object.  The second component is the pair
it returns, with `none` for failure. -/
def addPppoeSession (owner : Nat) (session : PPPOESession) (isAdd : Bool) (vpp : VPP) :
    VPP × Option UInt32 :=
  let vrfId := if session.vrf = [] then some 0 else vpp.vrfs.lookup session.vrf
  match vrfId with
  | none => (vpp.called (.unknownVrf owner isAdd) false, none)
  | some vrfId =>
      let ok := vpp.reply.swIfIndex ≠ uint32Max
      let mac := session.encap.sourceMac
      let called :=
        vpp.called (.addDelSession owner mac session.sessionId session.address vrfId isAdd) ok
      if ok then
        let member := (mac, session.sessionId)
        ({ called with held := if isAdd then insert member called.held else called.held.erase member },
          some vpp.reply.swIfIndex)
      else (called, none)

/-- `set_interface_table`. -/
def setInterfaceTable (ifindex : UInt32) (vrf : Bytes) (vpp : VPP) : VPP × Bool :=
  let ok : Bool := vpp.reply.retval ≠ -1
  (vpp.called (.setTable ifindex ((vpp.vrfs.lookup vrf).getD 0)) ok, ok)

/-- `get_iface_by_name`. -/
def getIfaceByName (name : Bytes) (vpp : VPP) : VPP × Option UInt32 :=
  (vpp.called .dumpIfaces vpp.reply.executed,
    (vpp.reply.ifaces.find? (fun iface => iface.1 == name)).map Prod.snd)

/-- `set_unnumbered`. -/
def setUnnumbered (unnumbered iface : UInt32) (isAdd : Bool) (vpp : VPP) : VPP × Bool :=
  let ok : Bool := vpp.reply.executed ∧ vpp.reply.retval = 0
  (vpp.called (.setUnnumbered unnumbered iface isAdd) ok, ok)

/-- `dump_unnumbered`. -/
def dumpUnnumbered (ifindex : UInt32) (vpp : VPP) : VPP × List (UInt32 × UInt32) :=
  (vpp.called (.dumpUnnumbered ifindex) vpp.reply.executed,
    if vpp.reply.executed then vpp.reply.unnumbered else [])

/-- The part of `provision_dp` after the session was added: its table and its
unnumbered interface. -/
def configure (ifindex : UInt32) (session : PPPOESession) (vpp : VPP) : VPP × Option String :=
  let moved :=
    if session.vrf = [] then (vpp, true) else vpp.setInterfaceTable ifindex session.vrf
  if moved.2 then
    if session.unnumbered = [] then (moved.1, none)
    else
      let iface := moved.1.getIfaceByName session.unnumbered
      match iface.2 with
      | none =>
          (iface.1,
            some "Cannot set unnumbered to new session: can't find interface with such name")
      | some swIfIndex =>
          let set := iface.1.setUnnumbered ifindex swIfIndex true
          (set.1, if set.2 then none else some "Cannot set unnumbered to new session")
  else (moved.1, some "Cannot move new session to vrf")

/-- `PPPOESession::provision_dp`.  The third component is the session's new
interface index. -/
def provisionDp (owner : Nat) (session : PPPOESession) (vpp : VPP) :
    VPP × Option String × UInt32 :=
  let added := vpp.addPppoeSession owner session true
  match added.2 with
  | none => (added.1, some "Cannot add new session to vpp ", session.ifindex)
  | some ifindex =>
      let configured := added.1.configure ifindex session
      (configured.1, configured.2, ifindex)

/-- `PPPOESession::deprovision_dp`. -/
def deprovisionDp (owner : Nat) (session : PPPOESession) (vpp : VPP) : VPP :=
  let dumped := vpp.dumpUnnumbered session.ifindex
  let cleared := dumped.2.foldl (fun vpp entry => (vpp.setUnnumbered entry.1 entry.2 false).1) dumped.1
  (cleared.addPppoeSession owner session false).1

/-! ## Settings of an interface -/

/-- A relation between states that the calls about the settings of an interface stay
in. -/
structure Settings (relation : VPP -> VPP -> Prop) : Prop where
  refl : forall vpp, relation vpp vpp
  trans : forall {first second third}, relation first second -> relation second third ->
    relation first third
  setTable : forall vpp ifindex vrfId ok, relation vpp (vpp.called (.setTable ifindex vrfId) ok)
  dumpIfaces : forall vpp ok, relation vpp (vpp.called .dumpIfaces ok)
  addUnnumbered : forall vpp unnumbered iface ok,
    relation vpp (vpp.called (.setUnnumbered unnumbered iface true) ok)

theorem Settings.configure {relation : VPP -> VPP -> Prop} (settings : Settings relation)
    (ifindex : UInt32) (session : PPPOESession) (vpp : VPP) :
    relation vpp (vpp.configure ifindex session).1 := by
  have moved : relation vpp (if session.vrf = [] then (vpp, true)
      else vpp.setInterfaceTable ifindex session.vrf).1 := by
    split
    · exact settings.refl vpp
    · exact settings.setTable vpp _ _ _
  unfold VPP.configure
  dsimp only
  generalize (if session.vrf = [] then (vpp, true)
    else vpp.setInterfaceTable ifindex session.vrf) = state at moved
  have found : relation vpp (state.1.getIfaceByName session.unnumbered).1 :=
    settings.trans moved (settings.dumpIfaces state.1 _)
  split
  · split
    · exact moved
    · split
      · exact found
      · exact settings.trans found (settings.addUnnumbered _ _ _ _)
  · exact moved

end VPP

end Pppcpd

import Pppcpd.Vpp.Calls
import Pppcpd.Vpp.Layout

namespace Pppcpd

open Foundation

/-!
# What is left of an earlier run

The first half of the start removes the taps, the tables, the addresses, the
unnumbered entries and the subinterfaces that VPP still has.  Whatever VPP makes of
such requests, its interfaces only become fewer, and those of some kinds stay.  Where
VPP is willing, every step of a loop takes away what the dump has listed, so an
invariant says what of the dump is left to be done.
-/

/-- A request that lists something, or removes something of an interface, but no
interface of a kind that stays. -/
def SetupRequest.Removes (stays : PortKind -> Prop) : SetupRequest -> Prop
  | .tapDump _ | .tableDump | .interfaceDump | .addressDump _ | .unnumberedDump _ => True
  | .tapDelete _ => ¬ stays .tap
  | .deleteSubif _ => True
  | .addressAddDel _ _ isAdd | .setUnnumbered _ _ isAdd => isAdd = false
  | _ => False

namespace Router

variable {stays : PortKind -> Prop} {before router after : Router}

theorem Less.refl (port : Port) : Less port port :=
  ⟨rfl, rfl, rfl, rfl, rfl, fun _ member => member, .inr rfl⟩

theorem Less.trans {first second third : Port} (left : Less first second)
    (right : Less second third) : Less first third := by
  refine ⟨right.name.trans left.name, right.kind.trans left.kind, right.up.trans left.up,
    right.mtu.trans left.mtu, right.table.trans left.table,
    fun address member => left.addresses address (right.addresses address member), ?_⟩
  rcases right.lender with alone | same
  · exact .inl alone
  · rw [same]
    exact left.lender

/-- Interfaces have lost something or are gone, but none of a kind that stays. -/
structure Fewer (stays : PortKind -> Prop) (before after : Router) : Prop
    extends SameTables before after where
  less : forall index port, after.ports.lookup index = some port ->
    before.Has index (fun former => Less former port)
  kept : forall index former, before.ports.lookup index = some former -> stays former.kind ->
    index ∈ after.ports

theorem Fewer.refl (stays : PortKind -> Prop) (router : Router) : Fewer stays router router :=
  ⟨.refl router, fun _ port found => ⟨port, found, .refl port⟩,
    fun _ former found _ => Table.mem_iff_lookup.mpr ⟨former, found⟩⟩

theorem Fewer.trans (left : Fewer stays before router) (right : Fewer stays router after) :
    Fewer stays before after := by
  refine ⟨left.toSameTables.trans right.toSameTables, fun index port found => ?_,
    fun index former found isKept => ?_⟩
  · rcases right.less index port found with ⟨middle, isMiddle, less⟩
    rcases left.less index middle isMiddle with ⟨former, isFormer, more⟩
    exact ⟨former, isFormer, more.trans less⟩
  · rcases Table.mem_iff_lookup.mp (left.kept index former found isKept) with ⟨middle, isMiddle⟩
    rcases left.less index middle isMiddle with ⟨other, isOther, less⟩
    rw [found] at isOther
    rw [Option.some.inj isOther, ← less.kind] at isKept
    exact right.kept index middle isMiddle isKept

theorem Fewer.modify (router : Router) {index : UInt32} {change : Port -> Port}
    (keeps : forall port, (change port).name = port.name)
    (less : forall port, Less port (change port)) :
    Fewer stays router (router.modifyPort index change keeps) := by
  refine ⟨⟨rfl, rfl⟩, fun other port found => ?_, fun other former found _ => ?_⟩
  · rw [lookup_modifyPort] at found
    split at found
    · rcases Option.map_eq_some_iff.mp found with ⟨old, isOld, changed⟩
      rw [← changed]
      exact ⟨old, isOld, less old⟩
    · exact ⟨port, found, .refl port⟩
  · rw [Table.mem_iff_lookup, lookup_modifyPort, found]
    split
    · exact ⟨change former, rfl⟩
    · exact ⟨former, rfl⟩

/-- The interface that goes is of a kind that does not stay. -/
theorem Lost.fewer {index : UInt32} (lost : Lost index before after)
    (subs : forall kind, stays kind -> kind.isSub = false)
    (goes : before.Has index (fun port => ¬ stays port.kind)) : Fewer stays before after := by
  refine ⟨lost.toSameTables, lost.less, fun other former found isKept => ?_⟩
  refine lost.kept other former found (fun same => ?_) (subs former.kind isKept)
  rcases goes with ⟨port, isPort, goes⟩
  rw [same, isPort] at found
  rw [Option.some.inj found] at goes
  exact goes isKept

theorem less_removeAddress (address : Yaml.Network) (port : Port) :
    Less port (port.setAddress address false) :=
  ⟨rfl, rfl, rfl, rfl, rfl, fun _ member => (List.mem_filter.mp member).1, .inr rfl⟩

theorem less_removeLender (port : Port) : Less port { port with lender := none } :=
  ⟨rfl, rfl, rfl, rfl, rfl, fun _ member => member, .inl rfl⟩

end Router

namespace VppServer

open Router

variable {State : Type} {peer : VppServer State} {stays : PortKind -> Prop}

theorem fewer_of_removes (subs : forall kind, stays kind -> kind.isSub = false) {state : State}
    {request : SetupRequest} {reply : SetupReply} (removes : request.Removes stays)
    (permitted : peer.permits state request reply) :
    Fewer stays (peer.has state) (peer.has (peer.next state request reply)) := by
  have same {after : Router} (unchanged : after = peer.has state) :
      Fewer stays (peer.has state) after := unchanged ▸ .refl stays _
  cases outcome : reply.succeeded with
  | false => exact same (peer.refused state request reply permitted outcome).2
  | true =>
      cases request with
      | tapDump index => exact same (peer.tapDump state index reply permitted outcome).1
      | tableDump => exact same (peer.tableDump state reply permitted outcome).1
      | interfaceDump => exact same (peer.interfaceDump state reply permitted outcome).1
      | addressDump index => exact same (peer.addressDump state index reply permitted outcome).1
      | unnumberedDump index => exact same (peer.unnumberedDump state index reply permitted outcome).1
      | tapDelete index =>
          rcases peer.tapDelete state index reply permitted outcome with ⟨⟨port, found, isTap⟩, lost⟩
          refine lost.fewer subs ⟨port, found, fun isKept => ?_⟩
          rw [isTap] at isKept
          exact removes isKept
      | deleteSubif index =>
          rcases peer.deleteSubif state index reply permitted outcome with ⟨⟨port, found, isSub⟩, lost⟩
          refine lost.fewer subs ⟨port, found, fun isKept => ?_⟩
          rw [subs port.kind isKept] at isSub
          cases isSub
      | addressAddDel index address isAdd =>
          rw [peer.addressAddDel state index address isAdd reply permitted outcome]
          cases (show isAdd = false from removes)
          exact .modify _ _ (less_removeAddress address)
      | setUnnumbered index iface isAdd =>
          rw [peer.setUnnumbered state index iface isAdd reply permitted outcome]
          cases (show isAdd = false from removes)
          exact .modify _ _ less_removeLender
      | tapCreate _ => cases removes
      | setFlags _ _ => cases removes
      | addDelCp _ _ => cases removes
      | tableAddDel _ => cases removes
      | routeAddDel _ => cases removes
      | createSubif _ _ _ _ _ => cases removes
      | setMtu _ _ => cases removes
      | setTable _ _ => cases removes

/-- A program of removing requests. -/
theorem meets_removes {Result : Type} {program : Setup Result} {router : Router}
    (subs : forall kind, stays kind -> kind.isSub = false)
    (asks : program.Asks (SetupRequest.Removes stays)) :
    peer.Meets program (fun _ after => Fewer stays router after) router :=
  Server.Shows.of_asks (fun _ _ _ removes permitted kept =>
    kept.trans (fewer_of_removes subs removes permitted)) asks (.refl stays router)

end VppServer

namespace VPPAPI

open Router VppServer

variable {State : Type} {peer : VppServer State} {router : Router}

/-- The kinds that the removal of the taps leaves. -/
def isDevice (kind : PortKind) : Prop := kind = .device

/-- The kinds that the clearing of the interfaces leaves. -/
def isMain (kind : PortKind) : Prop := kind.isSub = false

theorem isSub_of_isDevice (kind : PortKind) (device : isDevice kind) : kind.isSub = false := by
  rw [show kind = .device from device]
  rfl

theorem isSub_of_isMain (kind : PortKind) (main : isMain kind) : kind.isSub = false := main

/-! ## Taps -/

/-- A willing VPP has no tap afterwards. -/
theorem meets_deleteTaps (willing : peer.Willing) {taps : List UInt32} {start : Router}
    (lists : forall index, start.Has index (fun port => port.kind = .tap) -> index ∈ taps) :
    peer.Meets (Dialogue.each deleteTap taps) (fun _ after =>
      forall index, ¬ after.Has index (fun port => port.kind = .tap)) start := by
  refine (Server.Shows.each (fun rest (router : Router) =>
    forall index, router.Has index (fun port => port.kind = .tap) -> index ∈ rest) ?_ lists).mono
      (fun _ after left index isTap => List.not_mem_nil (left index isTap))
  intro tap rest router left
  refine meets_deleteTap (fun after _ lost index isTap => ?_) (fun unable index isTap => ?_)
  · rcases isTap with ⟨port, found, isTap⟩
    rcases lost.less index port found with ⟨former, isFormer, less⟩
    have wasTap := left index ⟨former, isFormer, less.kind.symm.trans isTap⟩
    refine (List.mem_cons.mp wasTap).resolve_left (fun same => lost.gone ?_)
    rw [← same]
    exact Table.mem_iff_lookup.mpr ⟨port, found⟩
  · refine (List.mem_cons.mp (left index isTap)).resolve_left (fun same => ?_)
    exact unable willing (same ▸ isTap)

/-! ## Tables -/

/-- With the tables of the list left to delete.  What was entered so far has a name of 63
bytes. -/
structure VrfsLeft (start : Router) (first : VPP) (vrfs : List (Bytes × UInt32)) (vpp : VPP)
    (router : Router) : Prop where
  ports : router.ports = start.ports
  defaultRoutes : router.defaultRoutes = start.defaultRoutes
  tables : forall id table, id ≠ 0 -> router.tables.lookup id = some table ->
    ∃ vrf ∈ vrfs, vrf.2 = id
  fields : ∀ vrf ∈ vrfs, vrf.1.length = 63
  entered : forall name, name.length ≠ 63 -> vpp.vrfs.lookup name = first.vrfs.lookup name
  object : vpp = { first with vrfs := vpp.vrfs }

theorem VrfsLeft.skip {start : Router} {first vpp : VPP} {vrf : Bytes × UInt32}
    {rest : List (Bytes × UInt32)} (left : VrfsLeft start first (vrf :: rest) vpp router)
    (isDefault : vrf.2 = 0) : VrfsLeft start first rest vpp router := by
  refine ⟨left.ports, left.defaultRoutes, fun id table other found => ?_,
    fun other member => left.fields other (List.mem_cons_of_mem _ member), left.entered, left.object⟩
  rcases left.tables id table other found with ⟨listed, member, isId⟩
  refine ⟨listed, (List.mem_cons.mp member).resolve_left (fun same => ?_), isId⟩
  rw [same, isDefault] at isId
  exact other isId.symm

theorem VrfsLeft.delete {start : Router} {first vpp : VPP} {vrf : Bytes × UInt32}
    {rest : List (Bytes × UInt32)} (left : VrfsLeft start first (vrf :: rest) vpp router)
    (other : vrf.2 ≠ 0) :
    VrfsLeft start first rest (VPPAPI.entered vrf.1 vrf.2 vpp) (router.deleteTable vrf.2) := by
  have deleted : router.deleteTable vrf.2 = { router with tables := router.tables.erase vrf.2 } :=
    if_neg other
  rw [deleted]
  refine ⟨left.ports, left.defaultRoutes, fun id table isOther found => ?_,
    fun later member => left.fields later (List.mem_cons_of_mem _ member), fun name short => ?_, ?_⟩
  · dsimp only at found
    rw [Table.lookup_erase_eq] at found
    split at found
    · cases found
    · rename_i different
      rcases left.tables id table isOther found with ⟨listed, member, isId⟩
      refine ⟨listed, (List.mem_cons.mp member).resolve_left (fun same => ?_), isId⟩
      rw [same] at isId
      exact different isId.symm
  · have long := left.fields vrf List.mem_cons_self
    have different : name ≠ vrf.1 := fun same => short (same ▸ long)
    show (vpp.vrfs.emplace vrf.1 vrf.2).1.lookup name = _
    rw [Table.lookup_emplace, if_neg different, Option.or_none]
    exact left.entered name short
  · have object := left.object
    rw [object]
    rfl

/-! ## Interfaces -/

/-- The addresses of a dump go. -/
theorem meets_clearAddresses (willing : peer.Willing) {index : UInt32} {start : Router}
    {entries : List (UInt32 × Yaml.Network)} (listed : forall entry, entry ∈ entries ↔
      entry.1 = index ∧ start.Has index (fun port => entry.2 ∈ port.addresses)) :
    peer.Meets (Dialogue.each (fun entry => setIp entry.1 entry.2 false) entries) (fun _ after =>
      forall port, after.ports.lookup index = some port -> port.addresses = []) start := by
  refine (Server.Shows.each (fun rest (router : Router) => (∀ entry ∈ rest, entry.1 = index) ∧
    forall port, router.ports.lookup index = some port ->
      ∀ address ∈ port.addresses, (index, address) ∈ rest) ?_ ?_).mono (fun _ after left port found => ?_)
  · rintro entry rest router ⟨own, left⟩
    have here := own entry List.mem_cons_self
    have later := fun other member => own other (List.mem_cons_of_mem entry member)
    refine meets_setIp ⟨later, fun port found address member => ?_⟩
      (fun _ unable => ⟨later, fun port found address member => ?_⟩)
    · replace found := (lookup_modifyPort router _ index _).symm.trans found
      rw [if_pos here.symm] at found
      rcases Option.map_eq_some_iff.mp found with ⟨old, isOld, changed⟩
      rw [← changed] at member
      rcases List.mem_filter.mp member with ⟨isAddress, other⟩
      refine (List.mem_cons.mp (left old isOld address isAddress)).resolve_left (fun same => ?_)
      exact of_decide_eq_true other (congrArg Prod.snd same)
    · refine (List.mem_cons.mp (left port found address member)).resolve_left (fun same => ?_)
      rw [← same] at unable
      exact unable willing ⟨port, found, member⟩
  · exact ⟨fun entry member => ((listed entry).mp member).1, fun port found address member =>
      (listed (index, address)).mpr ⟨rfl, port, found, member⟩⟩
  · exact List.eq_nil_iff_forall_not_mem.mpr
      (fun address member => List.not_mem_nil (left.2 port found address member))

/-- The unnumbered entries of a dump go. -/
theorem meets_clearUnnumbered (willing : peer.Willing) {index : UInt32} {start : Router}
    {entries : List (UInt32 × UInt32)} (listed : forall entry, entry ∈ entries ↔
      entry.1 = index ∧ start.Has index (fun port => port.lender = some entry.2)) :
    peer.Meets (Dialogue.each (fun entry => setUnnumbered entry.1 entry.2 false) entries)
      (fun _ after => forall port, after.ports.lookup index = some port -> port.lender = none)
      start := by
  refine (Server.Shows.each (fun rest (router : Router) => (∀ entry ∈ rest, entry.1 = index) ∧
    forall port, router.ports.lookup index = some port ->
      ∀ lender ∈ port.lender, (index, lender) ∈ rest) ?_ ?_).mono (fun _ after left port found => ?_)
  · rintro entry rest router ⟨own, left⟩
    have here := own entry List.mem_cons_self
    have later := fun other member => own other (List.mem_cons_of_mem entry member)
    refine meets_setUnnumbered ⟨later, fun port found lender lends => ?_⟩
      (fun _ unable => ⟨later, fun port found lender lends => ?_⟩)
    · replace found := (lookup_modifyPort router _ index _).symm.trans found
      rw [if_pos here.symm] at found
      rcases Option.map_eq_some_iff.mp found with ⟨old, _, changed⟩
      rw [← changed] at lends
      cases lends
    · refine (List.mem_cons.mp (left port found lender lends)).resolve_left (fun same => ?_)
      rw [← same] at unable
      exact unable willing ⟨port, found, lends⟩
  · exact ⟨fun entry member => ((listed entry).mp member).1, fun port found lender lends =>
      (listed (index, lender)).mpr ⟨rfl, port, found, lends⟩⟩
  · cases lends : port.lender with
    | none => rfl
    | some lender => exact absurd (left.2 port found lender lends) List.not_mem_nil

/-- An interface from which nothing could be taken. -/
structure IsClear (port : Port) : Prop where
  main : port.kind.isSub = false
  addresses : port.addresses = []
  lender : port.lender = none

theorem IsClear.of_less {former port : Port} (clear : IsClear former) (less : Less former port) :
    IsClear port := by
  refine ⟨less.kind ▸ clear.main, List.eq_nil_iff_forall_not_mem.mpr (fun address member => ?_), ?_⟩
  · have listed := less.addresses address member
    rw [clear.addresses] at listed
    exact List.not_mem_nil listed
  · rcases less.lender with alone | same
    · exact alone
    · exact same.trans clear.lender

/-- What is left of an interface. -/
def cleared (port : Port) : Option Port :=
  if port.kind.isSub then none else some { port with addresses := [], lender := none }

theorem cleared_of_less {former port : Port} (clear : IsClear port) (less : Less former port) :
    cleared former = some port := by
  have isMain : ¬ former.kind.isSub = true := by
    rw [← less.kind, clear.main]
    exact Bool.false_ne_true
  rw [cleared, if_neg isMain]
  refine congrArg some ?_
  cases port
  cases less
  cases clear
  simp_all only

end VPPAPI

namespace PPPOERuntime

open Router VPPAPI VppServer

variable {State : Type} {peer : VppServer State}

/-- Every interface is clear, and all that could stay are still there. -/
theorem lookup_of_clear {before after : Router} (fewer : Fewer isMain before after)
    (clear : forall index port, after.ports.lookup index = some port -> IsClear port)
    (index : UInt32) :
    after.ports.lookup index = (before.ports.lookup index).bind cleared := by
  cases found : after.ports.lookup index with
  | some port =>
      rcases fewer.less index port found with ⟨former, isFormer, less⟩
      rw [isFormer, Option.bind_some, cleared_of_less (clear index port found) less]
  | none =>
      cases isFormer : before.ports.lookup index with
      | none => rfl
      | some former =>
          refine (if_pos ?_).symm
          by_contra isMain
          have member := fewer.kept index former isFormer (Bool.eq_false_iff.mpr isMain)
          exact Table.not_mem_iff_lookup.mpr found member

/-! ## The tap -/

/-- What VPP has when the tap has been made: devices and one tap, which is up. -/
structure Tapped (start : Router) (tap : UInt32) (name : Bytes) (emptied after : Router) :
    Prop where
  fewer : Fewer isDevice start emptied
  untapped : forall index, ¬ emptied.Has index (fun port => port.kind = .tap)
  unused : tap ∉ emptied.ports
  only : Only tap emptied { name := name, kind := .tap, up := true } after

theorem Tapped.same {start emptied after : Router} {tap : UInt32} {name : Bytes}
    (tapped : Tapped start tap name emptied after) : SameTables start after :=
  tapped.fewer.toSameTables.trans tapped.only.same

theorem asks_getTapInterfaces (stays : PortKind -> Prop) :
    getTapInterfaces.Asks (SetupRequest.Removes stays) := ⟨trivial, fun _ => trivial⟩

theorem asks_deleteTaps (taps : List UInt32) :
    (Dialogue.each deleteTap taps).Asks (SetupRequest.Removes isDevice) := by
  have asks (tap : UInt32) : (deleteTap tap).Asks (SetupRequest.Removes isDevice) :=
    ⟨fun device => PortKind.noConfusion device, fun _ => trivial⟩
  exact .each asks taps

theorem meets_setupTap (willing : peer.Willing) (tapName : Bytes) (start : Router) :
    peer.Meets (setupTap tapName)
      (fun _ after => ∃ tap name emptied, Tapped start tap name emptied after) start := by
  unfold setupTap
  refine Server.shows_bind (meets_getTapInterfaces (fun taps lists => ?_) (absurd willing))
  refine Server.Shows.bind ((meets_deleteTaps willing (fun index => (lists index).mpr)).and
    (meets_removes isSub_of_isDevice (asks_deleteTaps taps))) ?_
  rintro _ emptied ⟨untapped, fewer⟩
  refine Server.shows_bind (meets_createTap (fun tap name fresh free => ?_) (absurd willing))
  have made : Only tap emptied { name := name, kind := .tap } _ := .insert fresh free
  have raised := made.modify rfl (fun port => { port with up := true }) (fun _ => rfl)
  refine Server.shows_bind (meets_setState ?_ (fun _ unable => ?_))
  · exact Server.shows_bind (meets_addPppoeCp (fun _ =>
      Server.shows_done ⟨tap, name, emptied, fewer, untapped, fresh.2, raised⟩))
  · exact absurd ⟨_, made.found, trivial⟩ (unable willing)

/-! ## The tables -/

/-- Afterwards VPP has the default table alone. -/
theorem meets_deleteVrfs (willing : peer.Willing) (start : Router) (vpp : VPP) :
    peer.Meets (deleteVrfs vpp) (fun result after => VrfsLeft start vpp [] result after)
      start := by
  unfold deleteVrfs
  refine Server.shows_bind (meets_dumpVrfs (fun vrfs listed fields => ?_) (absurd willing))
  refine Server.Shows.loop (VrfsLeft start vpp) (fun vrf rest vpp router left => ?_) ?_
  · split
    · rename_i isDefault
      exact Server.shows_done (left.skip isDefault)
    · rename_i other
      exact Server.shows_bind (meets_setVrf (Server.shows_done (left.delete other)) (absurd willing))
  · exact ⟨rfl, rfl, fun id table other found => ⟨_, listed id table other found, rfl⟩, fields,
      fun _ _ => rfl, rfl⟩

/-! ## The interfaces -/

theorem asks_clearAddresses (stays : PortKind -> Prop) (entries : List (UInt32 × Yaml.Network)) :
    (Dialogue.each (fun entry : UInt32 × Yaml.Network => setIp entry.1 entry.2 false)
      entries).Asks (SetupRequest.Removes stays) := by
  have asks (entry : UInt32 × Yaml.Network) :
      (setIp entry.1 entry.2 false).Asks (SetupRequest.Removes stays) := ⟨rfl, fun _ => trivial⟩
  exact .each asks entries

theorem asks_clearUnnumbered (stays : PortKind -> Prop) (entries : List (UInt32 × UInt32)) :
    (Dialogue.each (fun entry : UInt32 × UInt32 => setUnnumbered entry.1 entry.2 false)
      entries).Asks (SetupRequest.Removes stays) := by
  have asks (entry : UInt32 × UInt32) :
      (setUnnumbered entry.1 entry.2 false).Asks (SetupRequest.Removes stays) :=
    ⟨rfl, fun _ => trivial⟩
  exact .each asks entries

theorem asks_clearInterface (stays : PortKind -> Prop) (iface : VPPInterface) :
    (clearInterface iface).Asks (SetupRequest.Removes stays) := by
  have dump : (dumpIp iface.swIfIndex).Asks (SetupRequest.Removes stays) :=
    ⟨trivial, fun _ => trivial⟩
  have dumpEntries : (dumpUnnumbered iface.swIfIndex).Asks (SetupRequest.Removes stays) :=
    ⟨trivial, fun _ => trivial⟩
  refine dump.bind (fun addresses => (asks_clearAddresses stays addresses).bind (fun _ => ?_))
  refine dumpEntries.bind (fun entries => (asks_clearUnnumbered stays entries).bind (fun _ => ?_))
  split
  · exact ⟨trivial, fun _ => trivial⟩
  · exact trivial

theorem asks_clearInterfaces (stays : PortKind -> Prop) (stale : UInt32 -> UInt8) :
    (clearInterfaces stale).Asks (SetupRequest.Removes stays) := by
  have dump : (getIfaces stale).Asks (SetupRequest.Removes stays) := ⟨trivial, fun _ => trivial⟩
  exact dump.bind (fun ifaces => .each (asks_clearInterface stays) ifaces)

/-- One interface of the loop. -/
theorem meets_clearInterface (willing : peer.Willing) {iface : VPPInterface} {start : Router}
    (isSub : forall port, start.ports.lookup iface.swIfIndex = some port ->
      port.kind.isSub = true -> iface.type = IfaceType.subif) :
    peer.Meets (clearInterface iface) (fun _ after =>
      forall port, after.ports.lookup iface.swIfIndex = some port -> IsClear port) start := by
  refine Server.shows_bind (meets_dumpIp (fun addresses listed => ?_) (absurd willing))
  refine Server.Shows.bind ((meets_clearAddresses willing listed).and
    (meets_removes isSub_of_isMain (asks_clearAddresses isMain addresses))) ?_
  rintro _ router ⟨bare, fewer⟩
  refine Server.shows_bind (meets_dumpUnnumbered (fun entries lends => ?_) (absurd willing))
  refine Server.Shows.bind ((meets_clearUnnumbered willing lends).and
    (meets_removes isSub_of_isMain (asks_clearUnnumbered isMain entries))) ?_
  rintro _ after ⟨alone, more⟩
  have clear (port : Port) (found : after.ports.lookup iface.swIfIndex = some port)
      (main : port.kind.isSub = false) : IsClear port := by
    rcases more.less iface.swIfIndex port found with ⟨former, isFormer, less⟩
    have none := List.eq_nil_iff_forall_not_mem.mp (bare former isFormer)
    exact ⟨main, List.eq_nil_iff_forall_not_mem.mpr
      (fun address member => none address (less.addresses address member)), alone port found⟩
  split
  · refine meets_delSubif (fun gone _ lost port found => ?_) (fun unable port found => ?_)
    · exact absurd (Table.mem_iff_lookup.mpr ⟨port, found⟩) lost.gone
    · exact clear port found
        (Bool.eq_false_iff.mpr (fun sub => unable willing ⟨port, found, sub⟩))
  · rename_i other
    refine Server.shows_done (fun port found => clear port found (Bool.eq_false_iff.mpr (fun sub => ?_)))
    rcases (fewer.trans more).less iface.swIfIndex port found with ⟨former, isFormer, less⟩
    exact other (isSub former isFormer (less.kind ▸ sub))

/-- Afterwards there is no subinterface, no address and no unnumbered entry. -/
theorem meets_clearInterfaces (willing : peer.Willing) (stale : UInt32 -> UInt8) (start : Router) :
    peer.Meets (clearInterfaces stale) (fun _ after => SameTables start after ∧
      forall index, after.ports.lookup index = (start.ports.lookup index).bind cleared) start := by
  unfold clearInterfaces
  refine Server.shows_bind (meets_getIfaces (fun ifaces lists => ?_) (absurd willing))
  have isSub (iface : VPPInterface) (member : iface ∈ ifaces) (former : Port)
      (found : start.ports.lookup iface.swIfIndex = some former) (sub : former.kind.isSub = true) :
      iface.type = IfaceType.subif := by
    rcases lists.there iface member with ⟨port, isPort, _, marks⟩
    rw [found] at isPort
    exact marks (Option.some.inj isPort ▸ sub)
  refine (Server.Shows.each (fun rest (router : Router) => (∀ iface ∈ rest, iface ∈ ifaces) ∧
    Fewer isMain start router ∧ forall index port, router.ports.lookup index = some port ->
      index ∈ rest.map VPPInterface.swIfIndex ∨ IsClear port) ?_ ?_).mono (fun _ after left => ?_)
  · rintro iface rest router ⟨listed, fewer, left⟩
    have marks (port : Port) (found : router.ports.lookup iface.swIfIndex = some port)
        (sub : port.kind.isSub = true) : iface.type = IfaceType.subif := by
      rcases fewer.less iface.swIfIndex port found with ⟨former, isFormer, less⟩
      exact isSub iface (listed iface List.mem_cons_self) former isFormer (less.kind ▸ sub)
    refine Server.Shows.mono ((meets_clearInterface willing marks).and
      (meets_removes isSub_of_isMain (asks_clearInterface isMain iface))) ?_
    rintro _ after ⟨clear, more⟩
    refine ⟨fun other member => listed other (List.mem_cons_of_mem _ member), fewer.trans more,
      fun index port found => ?_⟩
    by_cases here : index = iface.swIfIndex
    · rw [here] at found
      exact .inr (clear port found)
    · rcases more.less index port found with ⟨former, isFormer, less⟩
      rcases left index former isFormer with member | isClear
      · exact .inl ((List.mem_cons.mp member).resolve_left here)
      · exact .inr (isClear.of_less less)
  · exact ⟨fun _ member => member, .refl isMain start,
      fun index port found => .inl (lists.all index port found)⟩
  · refine ⟨left.2.1.toSameTables, lookup_of_clear left.2.1 (fun index port found => ?_)⟩
    exact (left.2.2 index port found).resolve_left List.not_mem_nil

end PPPOERuntime

end Pppcpd

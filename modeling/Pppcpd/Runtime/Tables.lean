import Pppcpd.Runtime.Unnumbered
import Pppcpd.Vpp.Provisioned
import Pppcpd.Vpp.Restart

namespace Pppcpd

open Foundation

/-!
# The tables that the daemon names

After the start the map of VRFs stays as it is, and every call of the daemon takes
its table from there.  So a run of the daemon never names a table that VPP did not
have when the start was over, even where VPP had refused to make some of them.
-/

/-- The table that a call names. -/
def VPPRequest.table : VPPRequest -> Option UInt32
  | .addDelSession _ _ _ _ decapVrfId _ => some decapVrfId
  | .setTable _ vrfId => some vrfId
  | _ => none

namespace VPP

/-- Every table of a call is the default one or has an entry in the map. -/
def NamesEntered (vpp : VPP) : Prop :=
  ∀ call ∈ vpp.calls, ∀ id ∈ call.request.table, id = 0 ∨ ∃ name, vpp.vrfs.lookup name = some id

variable {vpp : VPP}

theorem NamesEntered.of_same {before after : VPP} (names : before.NamesEntered)
    (calls : after.calls = before.calls) (vrfs : after.vrfs = before.vrfs) : after.NamesEntered := by
  unfold NamesEntered
  rw [calls, vrfs]
  exact names

theorem NamesEntered.called (names : vpp.NamesEntered) {request : VPPRequest} (ok : Bool)
    (fits : ∀ id ∈ request.table, id = 0 ∨ ∃ name, vpp.vrfs.lookup name = some id) :
    (vpp.called request ok).NamesEntered := by
  intro call member
  rcases List.mem_append.mp member with old | new
  · exact names call old
  · rw [List.mem_singleton.mp new]
    exact fits

theorem NamesEntered.addPppoeSession (names : vpp.NamesEntered) (owner : Nat)
    (session : PPPOESession) (isAdd : Bool) :
    (vpp.addPppoeSession owner session isAdd).1.NamesEntered := by
  unfold VPP.addPppoeSession
  dsimp only
  split
  · exact names.called false nofun
  · rename_i vrfId found
    have fits : ∀ id ∈ (VPPRequest.addDelSession owner session.encap.sourceMac session.sessionId
        session.address vrfId isAdd).table, id = 0 ∨ ∃ name, vpp.vrfs.lookup name = some id := by
      intro id same
      rw [← Option.some.inj same]
      split at found
      · exact .inl (Option.some.inj found).symm
      · exact .inr ⟨session.vrf, found⟩
    split
    · exact (names.called _ fits).of_same rfl rfl
    · exact names.called _ fits

theorem NamesEntered.configure (names : vpp.NamesEntered) (ifindex : UInt32)
    (session : PPPOESession) : (vpp.configure ifindex session).1.NamesEntered := by
  have moved : (if session.vrf = [] then (vpp, true)
      else vpp.setInterfaceTable ifindex session.vrf).1.NamesEntered := by
    split
    · exact names
    · refine names.called _ (fun id same => ?_)
      rw [← Option.some.inj same]
      cases found : vpp.vrfs.lookup session.vrf with
      | none => exact .inl rfl
      | some table => exact .inr ⟨session.vrf, found⟩
  unfold VPP.configure
  dsimp only
  generalize (if session.vrf = [] then (vpp, true)
    else vpp.setInterfaceTable ifindex session.vrf) = state at moved
  have found : (state.1.getIfaceByName session.unnumbered).1.NamesEntered := moved.called _ nofun
  split
  · split
    · exact moved
    · split
      · exact found
      · exact found.called _ nofun
  · exact moved

theorem NamesEntered.provisionDp (names : vpp.NamesEntered) (owner : Nat) (session : PPPOESession) :
    (vpp.provisionDp owner session).1.NamesEntered := by
  have added := names.addPppoeSession owner session true
  unfold VPP.provisionDp
  dsimp only
  split
  · exact added
  · exact added.configure _ session

theorem NamesEntered.deprovisionDp (names : vpp.NamesEntered) (owner : Nat)
    (session : PPPOESession) : (vpp.deprovisionDp owner session).NamesEntered := by
  have dumped : (vpp.dumpUnnumbered session.ifindex).1.NamesEntered := names.called _ nofun
  have cleared {start : VPP} (here : start.NamesEntered) (entries : List (UInt32 × UInt32)) :
      (entries.foldl (fun vpp entry => (vpp.setUnnumbered entry.1 entry.2 false).1) start).NamesEntered := by
    induction entries generalizing start with
    | nil => exact here
    | cons entry rest inductionHypothesis => exact inductionHypothesis (here.called _ nofun)
  exact (cleared dumped _).addPppoeSession owner session false

end VPP

namespace Runtime

/-- The map is that of the start, and the calls name its tables. -/
structure NamesTables (vrfs : Table Bytes UInt32) (runtime : Runtime) : Prop where
  same : runtime.vpp.vrfs = vrfs
  names : runtime.vpp.NamesEntered

variable {vrfs : Table Bytes UInt32}

theorem NamesTables.of_same {before after : Runtime} (tables : NamesTables vrfs before)
    (vpp : after.vpp = before.vpp) : NamesTables vrfs after :=
  ⟨vpp ▸ tables.same, vpp ▸ tables.names⟩

theorem NamesTables.collect {runtime : Runtime} (tables : NamesTables vrfs runtime) (ref : Nat) :
    NamesTables vrfs (runtime.collect ref) := by
  unfold Runtime.collect
  split
  · exact tables
  · split
    · exact ⟨(VPP.deprovisionDp_vrfs ref _ _).trans tables.same, tables.names.deprovisionDp ref _⟩
    · exact tables

theorem moves_tables {now : Runtime} {event : Event} (tables : StoreInvariant now) :
    Moves located (fun _ _ => True) now event (NamesTables vrfs) where
  plain := fun _ _ plain here => here.of_same plain.untouched.vpp
  allocates := by
    intro before encap result plain allocated here
    have keyed := (plain.kept.map Prod.fst).invariant tables
    rcases allocateSession_cases keyed event.env encap allocated with full | ⟨id, _, _, entered⟩
    · rw [full]
      exact here
    · rw [entered]
      exact here.of_same rfl
  ends := by
    intro before sid plain _ here
    have keyed := (plain.kept.map Prod.fst).invariant tables
    rcases deallocateSession_collects keyed sid with same | ⟨ref, erased, _, vpp, _, collected⟩
    · rw [same]
      exact here
    · rw [collected]
      exact ((here.of_same vpp).collect ref).of_same rfl
  collects := fun _ ref _ _ here => here.collect ref
  calls := fun before _ outcome _ _ _ _ _ here => here.of_same (Untouched.withCalls before outcome).vpp
  quiet := fun _ _ _ _ _ here => here.of_same rfl
  answers := fun _ _ _ _ _ here => here.of_same rfl
  configures := fun _ ref _ _ _ _ _ here =>
    ⟨(VPP.provisionDp_vrfs ref _ _).trans here.same, here.names.provisionDp ref _⟩

theorem tables_step {now after : Runtime} {event : Event} (references : ReferenceInvariant now)
    (taken : step now event = some after) (tables : NamesTables vrfs now) : NamesTables vrfs after :=
  (moves_tables references.tables).step sideBlind_located references.tables references.entered
    (endsOnly_always now event) taken tables

/-- A run of the daemon names no table but the default one and those that the start has
entered in the map.  Where the name of the entry is not of 63 bytes, as the names are
that the deletions enter, VPP had the table after the start, and the configuration has a
VRF with the name and the id: so it is even where VPP had refused parts of the start. -/
theorem run_names_tables {State : Type} {peer : VppServer State} {conf : Yaml.PPPOEGlobalConf}
    {stale : UInt32 -> UInt8} {replies : Nat -> VPPReply} {before after : State}
    {exchanges : List (SetupRequest × SetupReply)} {vpp : VPP} {begins now : Runtime}
    (started : peer.Runs before (PPPOERuntime.start conf stale replies) exchanges vpp after)
    (fresh : begins.Fresh) (plane : begins.vpp = vpp) (reached : Reachable step begins now) :
    ∀ call ∈ now.vpp.calls, ∀ id ∈ call.request.table, id = 0 ∨
      ∃ name, vpp.vrfs.lookup name = some id ∧ (name.length ≠ 63 ->
        (peer.has after).HasTable id ∧ ∃ vrf ∈ conf.vrfs, vrf.name = name ∧ vrf.tableId = id) := by
  rcases (PPPOERuntime.any_start stale replies _).of_runs started with ⟨_, entered, _⟩
  have first : NamesTables vpp.vrfs begins := by
    refine ⟨by rw [plane], fun call member => ?_⟩
    rw [fresh.calls] at member
    cases member
  have both := @Reachable.invariant _ _ step begins now
    (fun runtime => ReferenceInvariant runtime ∧ NamesTables vpp.vrfs runtime)
    ⟨referenceInvariant_fresh fresh, first⟩
    (fun _ _ _ here taken => ⟨referenceInvariant_step here.1 taken, tables_step here.1 taken here.2⟩)
    reached
  intro call member id names
  rcases both.2.names call member id names with isDefault | ⟨name, found⟩
  · exact .inl isDefault
  · rw [both.2.same] at found
    exact .inr ⟨name, found, fun other => entered name id other found⟩

/-- The daemon after such a start, with subscribers who belong to the VRF. -/
def ruledDaemon : Runtime :=
  { boot { pppoeTemplates := (∅ : Table Bytes PPPOELocalTemplate).insert (ascii "t")
            { framedPool := ascii "p", vrf := ascii "red" }
           aaaConf := AAA.sampleConf [.none] } papPolicy AAA.sampleSecret ⟨2, 0, 0, 0, 0, 1⟩ MD5.digest
      (fun _ => {}) with
    vpp := (PPPOERuntime.sampleStart PPPOERuntime.sampleRouter).2.1 }

def ruled : Runtime := Foundation.after step ruledDaemon establish (by decide +kernel)

/-- The session of a subscriber is added with the table of its VRF. -/
theorem run_names_tables_at_ruled : ∃ exchanges vpp after,
    (Router.vpp (fun _ => false)).Runs PPPOERuntime.sampleRouter
      (PPPOERuntime.start PPPOERuntime.sampleConf (fun _ => 0) (fun _ => {})) exchanges vpp after ∧
      ruledDaemon.vpp = vpp ∧ (∃ call ∈ ruled.vpp.calls, call.request.table = some 10) ∧
        ∀ call ∈ ruled.vpp.calls, ∀ id ∈ call.request.table, id = 0 ∨
          ∃ name, vpp.vrfs.lookup name = some id ∧ (name.length ≠ 63 -> after.HasTable id ∧
            ∃ vrf ∈ PPPOERuntime.sampleConf.vrfs, vrf.name = name ∧ vrf.tableId = id) := by
  have run := Router.runs_play (fun _ => false)
    (PPPOERuntime.start PPPOERuntime.sampleConf (fun _ => 0) (fun _ => {}))
    PPPOERuntime.sampleRouter (by decide)
  have fresh := @fresh_boot
    { pppoeTemplates := (∅ : Table Bytes PPPOELocalTemplate).insert (ascii "t")
        { framedPool := ascii "p", vrf := ascii "red" }
      aaaConf := AAA.sampleConf [.none] } (AAA.sampleConf_decoded [.none])
    papPolicy AAA.sampleSecret ⟨2, 0, 0, 0, 0, 1⟩ MD5.digest (fun _ => {})
  have begins : ruledDaemon.Fresh := { fresh with
    calls := by decide
    held := by decide }
  exact ⟨_, _, _, run, rfl, by decide +kernel,
    run_names_tables run begins rfl (reachable_after _ _ _ _)⟩

end Runtime

end Pppcpd

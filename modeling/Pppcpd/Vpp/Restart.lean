import Pppcpd.Vpp.Refusals
import Pppcpd.Vpp.Responses
import Pppcpd.Vpp.Startup

namespace Pppcpd

open Foundation

/-!
# Starts and restarts

The main results about the start of the data plane, as properties of its runs against
any VPP.  Where VPP is willing, it has the layout of the configuration after every run,
what it had before does not matter, and one more start changes nothing.  Where it is
not, it has nothing that is neither from before nor from the configuration.
-/

namespace Router

/-- The names of the taps. -/
def tapNames (router : Router) : List Bytes :=
  (router.ports.values.filter (fun port => port.kind = .tap)).map Port.name

theorem mem_tapNames_iff {router : Router} {name : Bytes} :
    name ∈ router.tapNames ↔ router.layout.Taps name := by
  have isTap (port : Port) : (router.view port).kind = .tap ↔ port.kind = .tap := by
    unfold Router.view
    cases port.kind with
    | device => exact ⟨nofun, nofun⟩
    | tap => exact ⟨fun _ => rfl, fun _ => rfl⟩
    | sub => exact ⟨nofun, nofun⟩
  constructor
  · intro member
    rcases List.mem_map.mp member with ⟨port, kept, isName⟩
    rcases List.mem_filter.mp kept with ⟨listed, tapped⟩
    rcases Table.mem_values_iff.mp listed with ⟨index, found⟩
    refine ⟨router.view port, ?_, (isTap port).mpr (of_decide_eq_true tapped)⟩
    exact Option.map_eq_some_iff.mpr ⟨port, named_iff.mpr ⟨index, found, isName⟩, rfl⟩
  · rintro ⟨view, found, tapped⟩
    rcases Option.map_eq_some_iff.mp found with ⟨port, named, isView⟩
    rcases named_iff.mp named with ⟨index, isPort, isName⟩
    rw [← isView, isTap] at tapped
    exact List.mem_map.mpr ⟨port, List.mem_filter.mpr
      ⟨Table.mem_values_iff.mpr ⟨index, isPort⟩, decide_eq_true tapped⟩, isName⟩

end Router

namespace PPPOERuntime

open Router VPPAPI Yaml.PPPOEGlobalConf

section

variable {State : Type} {peer : VppServer State} {conf : Yaml.PPPOEGlobalConf}
  {stale : UInt32 -> UInt8} {replies : Nat -> VPPReply} {before after : State}
  {exchanges : List (SetupRequest × SetupReply)} {vpp : VPP}

theorem layout_of_run
    (named : ∀ iface ∈ conf.interfaces, ∀ unit ∈ unitsOf iface, unit.2.vrf.length ≠ 63)
    (runs : peer.willing.Runs before (start conf stale replies) exchanges vpp after) :
    ∃ tap, (forall name, name ∈ (peer.has after).tapNames ↔ name = tap) ∧
      (peer.has after).layout = conf.layout tap (peer.has before).layout := by
  rcases (meets_start peer.willing_willing stale replies _ named).of_runs runs with ⟨⟨tap, laid⟩, _⟩
  refine ⟨tap, fun name => ?_, laid⟩
  rw [mem_tapNames_iff, show (peer.has after).layout = _ from laid]
  exact taps_layout_iff

/-- A small configuration: a VRF, and an interface with a unit in it. -/
def sampleConf : Yaml.PPPOEGlobalConf where
  tapName := ascii "pppoe"
  logLevel := .info
  aaaConf := { method := [] }
  interfaces :=
    [{ device := ascii "G0"
       mtu := some 1500
       units := (∅ : Table UInt16 Yaml.InterfaceUnit).insert 200
         { vlan := 200, vrf := ascii "red", address := some ⟨0x0A000001, Fin.last 32⟩ } }]
  vrfs := [{ name := ascii "red", tableId := 10, rib := {} }]

theorem sampleConf_named :
    ∀ iface ∈ sampleConf.interfaces, ∀ unit ∈ unitsOf iface, unit.2.vrf.length ≠ 63 := by decide

/-- A VPP with one interface, and what a start does to it. -/
def sampleRouter : Router := Router.insertPort 1 { name := ascii "G0" } {}

def sampleStart (router : Router) : List (SetupRequest × SetupReply) × VPP × Router :=
  Router.play (fun _ => false) (start sampleConf (fun _ => 0) (fun _ => {})) router

def samplePlaced : Router := (sampleStart sampleRouter).2.2

/-- Every run of the start ends with the layout of the configuration, on the devices
that were there, and with the ids of the configured tables. -/
theorem start_lays_out
    (named : ∀ iface ∈ conf.interfaces, ∀ unit ∈ unitsOf iface, unit.2.vrf.length ≠ 63)
    (runs : peer.willing.Runs before (start conf stale replies) exchanges vpp after) :
    (∃ tap, (forall name, name ∈ (peer.has after).tapNames ↔ name = tap) ∧
      (peer.has after).layout = conf.layout tap (peer.has before).layout) ∧
        forall name, name.length ≠ 63 -> vpp.vrfs.lookup name = conf.tableOf name :=
  ⟨layout_of_run named runs,
    ((meets_start peer.willing_willing stale replies _ named).of_runs runs).2.1⟩

theorem start_lays_out_sample : ∃ exchanges vpp after,
    (Router.vpp (fun _ => false)).willing.Runs sampleRouter
        (start sampleConf (fun _ => 0) (fun _ => {})) exchanges vpp after ∧
      after.tapNames = [ascii "tap0"] ∧ vpp.vrfs.lookup (ascii "red") = some 10 ∧
        ∃ tap, after.layout = sampleConf.layout tap sampleRouter.layout := by
  have run := Router.runs_play_willing (start sampleConf (fun _ => 0) (fun _ => {})) sampleRouter
    (by decide)
  have laid := start_lays_out sampleConf_named run
  refine ⟨_, _, _, run, by decide, ?_, ?_⟩
  · rw [laid.2 _ (by decide)]
    decide
  · rcases laid.1 with ⟨tap, _, same⟩
    exact ⟨tap, same⟩

/-- A restart brings VPP back to what the first start has made of it, whatever was done
to its interfaces, tables and routes in between, as long as the devices are as the start
has left them, the default routes are the same and the tap gets its name again. -/
theorem restart_repairs {middle later : State} {exchangesAgain : List (SetupRequest × SetupReply)}
    {vppAgain : VPP} {staleAgain : UInt32 -> UInt8} {repliesAgain : Nat -> VPPReply}
    (named : ∀ iface ∈ conf.interfaces, ∀ unit ∈ unitsOf iface, unit.2.vrf.length ≠ 63)
    (first : peer.willing.Runs before (start conf stale replies) exchanges vpp middle)
    (alike : Alike (peer.has middle).layout (peer.has later).layout)
    (second : peer.willing.Runs later (start conf staleAgain repliesAgain) exchangesAgain vppAgain
      after)
    (sameTap : ∀ name ∈ (peer.has middle).tapNames, name ∈ (peer.has after).tapNames) :
    (peer.has after).layout = (peer.has middle).layout := by
  rcases layout_of_run named first with ⟨tap, isTap, laid⟩
  rcases layout_of_run named second with ⟨again, isAgain, laidAgain⟩
  have same : tap = again := (isAgain tap).mp (sameTap tap ((isTap tap).mpr rfl))
  calc
    (peer.has after).layout = conf.layout again (peer.has later).layout := laidAgain
    _ = conf.layout tap (peer.has middle).layout := by rw [← same, layout_eq_of_alike alike]
    _ = conf.layout tap (conf.layout tap (peer.has before).layout) := by rw [laid]
    _ = conf.layout tap (peer.has before).layout := layout_layout
    _ = (peer.has middle).layout := laid.symm

/-- What the configuration is laid out on does not depend on a table. -/
theorem alike_deleteTable (router : Router) (id : UInt32) :
    Alike router.layout (router.deleteTable id).layout := by
  refine ⟨fun name => ?_, ?_⟩
  · rw [layout_ports_congr (ports_deleteTable router id)]
  · unfold Router.deleteTable
    split <;> rfl

/-- Somebody has deleted the table of the VRF. -/
def sampleDamaged : Router := samplePlaced.deleteTable 10

theorem restart_repairs_sample : ∃ exchanges vpp after,
    (Router.vpp (fun _ => false)).willing.Runs sampleDamaged
        (start sampleConf (fun _ => 0) (fun _ => {})) exchanges vpp after ∧
      sampleDamaged.layout ≠ samplePlaced.layout ∧ after.layout = samplePlaced.layout := by
  have first := Router.runs_play_willing (start sampleConf (fun _ => 0) (fun _ => {})) sampleRouter
    (by decide)
  have second := Router.runs_play_willing (start sampleConf (fun _ => 0) (fun _ => {})) sampleDamaged
    (by decide)
  have alike : Alike samplePlaced.layout sampleDamaged.layout := alike_deleteTable samplePlaced 10
  refine ⟨_, _, _, second, fun same => ?_,
    restart_repairs sampleConf_named first alike second (by decide)⟩
  have tables := congrArg (fun layout : Layout => layout.tables 10) same
  exact absurd tables (by decide)

end

end PPPOERuntime

end Pppcpd

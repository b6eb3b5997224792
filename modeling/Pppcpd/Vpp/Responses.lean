import Mathlib.Data.Finset.Card
import Pppcpd.Vpp.Calls

namespace Pppcpd

open Foundation

/-!
# A VPP that can be run

This VPP has the states that one sees of it.  It takes the first free index for a new
interface, lists what there is and carries out what it is able to, except for requests
that it is told to refuse, so that a start can be played.  As long as there are indices
left it keeps to all that is assumed about VPP.
-/

namespace Router

instance (router : Router) (request : SetupRequest) : Decidable (router.Able request) := by
  induction request using SetupRequest.casesOn with
  | addressAddDel _ _ isAdd =>
      induction isAdd using Bool.casesOn <;> unfold Able <;> infer_instance
  | setUnnumbered _ _ isAdd =>
      induction isAdd using Bool.casesOn <;> unfold Able <;> infer_instance
  | _ => unfold Able; infer_instance

/-- The first index that no interface has. -/
def freeIndex (router : Router) : UInt32 :=
  let indices := router.ports.keys
  UInt32.ofNat ((firstFrom (fun number => !indices.contains (UInt32.ofNat number))
    (indices.length + 1) 0).getD 0)

/-- The names of taps are numbered. -/
def tapName (number : Nat) : Bytes := ascii "tap" ++ Yaml.writeNumber number

/-- The first name of a tap that no interface has. -/
def freeName (router : Router) : Bytes :=
  let names := router.ports.values.map Port.name
  tapName ((firstFrom (fun number => !names.contains (tapName number)) (names.length + 1) 0).getD 0)

/-- What there is, as the dump of the request lists it, and what is free for a new
interface. -/
def listing (router : Router) : SetupRequest -> SetupReply
  | .tapDump _ =>
      { taps := (router.ports.entries.filter (fun entry => entry.2.kind = .tap)).map Sigma.fst }
  | .tableDump => { tables := router.tables.entries.map (fun entry => (entry.1, entry.2.name)) }
  | .interfaceDump =>
      { ifaces := router.ports.entries.map (fun entry =>
          { name := entry.2.name, swIfIndex := entry.1, isSub := entry.2.kind.isSub }) }
  | .addressDump index =>
      { addresses := (router.ports.lookup index).toList.flatMap (fun port =>
          port.addresses.map (fun address => (index, address))) }
  | .unnumberedDump index =>
      { unnumbered := (router.ports.lookup index).toList.flatMap (fun port =>
          port.lender.toList.map (fun lender => (index, lender))) }
  | _ => { swIfIndex := router.freeIndex }

/-- A reply that refuses. -/
def refusal : SetupReply := { retval := -2, swIfIndex := uint32Max }

/-- The reply to a request, some of which are refused in any case. -/
def respond (refused : SetupRequest -> Bool) (router : Router) (request : SetupRequest) :
    SetupReply :=
  if refused request = false ∧ router.Able request then router.listing request else refusal

/-- An interface goes. -/
def erasePort (index : UInt32) (router : Router) : Router where
  ports := router.ports.erase index
  tables := router.tables
  defaultRoutes := router.defaultRoutes
  reserved := by
    intro member
    exact router.reserved (AList.mem_erase.mp member).2
  distinct := fun first second one two isOne isTwo sameName =>
    router.distinct first second one two (Table.lookup_of_erase isOne) (Table.lookup_of_erase isTwo)
      sameName

/-- What there is when a request has been carried out. -/
def carryOut (router : Router) (swIfIndex : UInt32) : SetupRequest -> Router
  | .tapDelete index | .deleteSubif index => router.erasePort index
  | .tapCreate _ => router.insertPort swIfIndex { name := router.freeName, kind := .tap }
  | .setFlags index adminUp =>
      router.modifyPort index (fun port => { port with up := adminUp }) (Port.name_setUp adminUp)
  | .setMtu index mtu =>
      router.modifyPort index (fun port => { port with mtu := some mtu }) (Port.name_setMtu mtu)
  | .tableAddDel table =>
      if table.isAdd then router.addTable table.tableId (table.name.getD [])
      else router.deleteTable table.tableId
  | .routeAddDel route => router.addRoute route.tableId route.destination route.nexthop
  | .addressAddDel index address isAdd =>
      router.modifyPort index (Port.setAddress address isAdd) (Port.name_setAddress address isAdd)
  | .setUnnumbered index iface isAdd =>
      router.modifyPort index (fun port => { port with lender := if isAdd then some iface else none })
        (Port.name_setLender iface isAdd)
  | .createSubif index subId outerVlan innerVlan flags =>
      match router.ports.lookup index with
      | none => router
      | some parent =>
          router.insertPort swIfIndex
            { name := subName parent.name subId, kind := .sub index subId outerVlan innerVlan flags }
  | .setTable index id =>
      router.modifyPort index (fun port => { port with table := id }) (Port.name_setTable id)
  | .addDelCp _ _ | .tapDump _ | .tableDump | .interfaceDump | .addressDump _ |
      .unnumberedDump _ => router

/-- The server.  It does not answer when it is about to run out of indices. -/
def server (refused : SetupRequest -> Bool) : Server SetupRequest SetupReply Router where
  permits := fun router request reply =>
    router.ports.keys.length + 1 < 2 ^ 32 ∧ reply = respond refused router request
  next := fun router request reply =>
    if reply.succeeded then router.carryOut reply.swIfIndex request else router

variable {router : Router}

/-- Among as many values as are in use, and one more, one is free. -/
theorem exists_free {Value : Type} [BEq Value] [LawfulBEq Value] {place : Nat -> Value}
    {used : List Value} (apart : Set.InjOn place ↑(Finset.range (used.length + 1))) :
    ∃ number, firstFrom (fun number => !used.contains (place number)) (used.length + 1) 0 =
      some number ∧ number ≤ used.length ∧ place number ∉ used := by
  have isFree (number : Nat) : (!used.contains (place number)) = true ↔ place number ∉ used := by
    simp
  cases search : firstFrom (fun number => !used.contains (place number)) (used.length + 1) 0 with
  | some number =>
      rcases firstFrom_spec search with ⟨free, _, below⟩
      exact ⟨number, rfl, by omega, (isFree number).mp free⟩
  | none =>
      rw [firstFrom_eq_none_iff] at search
      classical
      have inUse : (Finset.range (used.length + 1)).image place ⊆ used.toFinset := by
        intro value member
        rcases Finset.mem_image.mp member with ⟨number, small, isValue⟩
        have taken := search number (Nat.zero_le number) (by
          rw [Nat.zero_add]
          exact Finset.mem_range.mp small)
        rw [List.mem_toFinset, ← isValue]
        by_contra free
        rw [(isFree number).mpr free] at taken
        cases taken
      have few := (Finset.card_le_card inUse).trans (List.toFinset_card_le _)
      rw [Finset.card_image_of_injOn apart, Finset.card_range] at few
      exact absurd few (Nat.not_succ_le_self _)

theorem freeIndex_spec (room : router.ports.keys.length + 1 < 2 ^ 32) :
    router.freeIndex ≠ uint32Max ∧ router.freeIndex ∉ router.ports := by
  have isSmall {number : Nat} (small : number ≤ router.ports.keys.length) :
      number < UInt32.size := by
    show number < 2 ^ 32
    omega
  have apart : Set.InjOn UInt32.ofNat ↑(Finset.range (router.ports.keys.length + 1)) := by
    intro first small second alsoSmall same
    have equal := congrArg UInt32.toNat same
    rwa [UInt32.toNat_ofNat_of_lt' (isSmall (Nat.lt_succ_iff.mp (Finset.mem_range.mp small))),
      UInt32.toNat_ofNat_of_lt' (isSmall (Nat.lt_succ_iff.mp (Finset.mem_range.mp alsoSmall)))] at equal
  rcases exists_free apart with ⟨number, isFirst, small, free⟩
  unfold freeIndex
  dsimp only
  rw [isFirst]
  refine ⟨fun last => ?_, free⟩
  have same := congrArg UInt32.toNat last
  have isLast : uint32Max.toNat = 4294967295 := rfl
  rw [Option.getD_some, UInt32.toNat_ofNat_of_lt' (isSmall small)] at same
  omega

theorem tapName_injective : Function.Injective tapName := by
  intro one other same
  have digits := congrArg Yaml.letters (List.append_cancel_left same)
  rw [Yaml.letters_writeNumber, Yaml.letters_writeNumber] at digits
  have values := congrArg (fun digits => Nat.ofDigitChars 10 digits 0) digits
  simp only [Nat.ofDigitChars_ten_toDigits] at values
  exact values

theorem free_freeName (router : Router) : router.Free router.freeName := by
  intro entry member same
  have listed : entry.2.name ∈ router.ports.values.map Port.name :=
    List.mem_map_of_mem (List.mem_map_of_mem member)
  rcases exists_free tapName_injective.injOn with
    ⟨number, isFirst, _, free⟩
  have isName : router.freeName = tapName number := by
    unfold freeName
    dsimp only
    rw [isFirst]
    rfl
  rw [same, isName] at listed
  exact free listed

theorem lookup_erasePort (router : Router) (index other : UInt32) :
    (router.erasePort index).ports.lookup other =
      if other = index then none else router.ports.lookup other :=
  Table.lookup_erase_eq index other router.ports

theorem lost_erasePort (router : Router) (index : UInt32) :
    Lost index router (router.erasePort index) := by
  refine ⟨⟨rfl, rfl⟩, ?_, fun other port found => ?_, fun other former found different _ => ?_⟩
  · rw [Table.not_mem_iff_lookup, lookup_erasePort, if_pos rfl]
  · exact ⟨port, Table.lookup_of_erase found, rfl, rfl, rfl, rfl, rfl, fun _ member => member, .inr rfl⟩
  · rw [Table.mem_iff_lookup, lookup_erasePort, if_neg different]
    exact ⟨former, found⟩

/-! ## What the dumps list -/

theorem mem_taps_listing {ifindex index : UInt32} : index ∈ (router.listing (.tapDump ifindex)).taps ↔
    router.Has index (fun port => port.kind = .tap) := by
  constructor
  · intro member
    rcases List.mem_map.mp member with ⟨entry, kept, isIndex⟩
    rcases List.mem_filter.mp kept with ⟨isEntry, isTap⟩
    rw [← isIndex]
    exact ⟨entry.2, Table.lookup_eq_some_iff_mem_entries.mpr isEntry, of_decide_eq_true isTap⟩
  · rintro ⟨port, found, isTap⟩
    exact List.mem_map.mpr ⟨⟨index, port⟩, List.mem_filter.mpr
      ⟨Table.lookup_eq_some_iff_mem_entries.mp found, decide_eq_true isTap⟩, rfl⟩

theorem mem_tables_listing {id : UInt32} {table : RoutingTable}
    (found : router.tables.lookup id = some table) :
    (id, table.name) ∈ (router.listing .tableDump).tables :=
  List.mem_map.mpr ⟨⟨id, table⟩, Table.lookup_eq_some_iff_mem_entries.mp found, rfl⟩

theorem indices_listing : (router.listing .interfaceDump).ifaces.map InterfaceDetails.swIfIndex =
    router.ports.keys := by
  unfold listing
  rw [List.map_map]
  rfl

theorem mem_ifaces_listing {index : UInt32} (member : index ∈ router.ports) :
    ∃ details ∈ (router.listing .interfaceDump).ifaces, details.swIfIndex = index ∧
      router.Has index (fun port =>
        details.name = port.name ∧ details.isSub = port.kind.isSub) := by
  rcases Table.mem_iff_lookup.mp member with ⟨port, found⟩
  exact ⟨_, List.mem_map.mpr ⟨_, Table.lookup_eq_some_iff_mem_entries.mp found, rfl⟩, rfl,
    port, found, rfl, rfl⟩

/-- Something that an interface has several of. -/
theorem mem_pairs_iff {Value : Type} {index : UInt32} {values : Port -> List Value}
    {entry : UInt32 × Value} :
    entry ∈ (router.ports.lookup index).toList.flatMap (fun port =>
      (values port).map (fun value => (index, value))) ↔
        entry.1 = index ∧ router.Has index (fun port => entry.2 ∈ values port) := by
  constructor
  · intro member
    rcases List.mem_flatMap.mp member with ⟨port, found, listed⟩
    rcases List.mem_map.mp listed with ⟨value, has, same⟩
    rw [← same]
    exact ⟨rfl, port, Option.mem_toList.mp found, has⟩
  · rintro ⟨isIndex, port, found, has⟩
    exact List.mem_flatMap.mpr ⟨port, Option.mem_toList.mpr found,
      List.mem_map.mpr ⟨entry.2, has, by rw [← isIndex]⟩⟩

theorem succeeded_listing (request : SetupRequest) :
    (router.listing request).succeeded = true := by
  cases request <;> rfl

/-! ## It is a VPP -/

theorem refuses_refusal : refusal.Refuses := ⟨rfl, by decide, rfl, rfl, rfl, rfl, rfl, rfl⟩

/-- A success is the listing, and the request is carried out. -/
theorem server_succeeded {refused : SetupRequest -> Bool} {request : SetupRequest}
    {reply : SetupReply} (permitted : (server refused).permits router request reply)
    (succeeded : reply.succeeded = true) : router.ports.keys.length + 1 < 2 ^ 32 ∧
      router.Able request ∧ reply = router.listing request ∧
        (server refused).next router request reply = router.carryOut reply.swIfIndex request := by
  rcases permitted with ⟨room, isReply⟩
  unfold respond at isReply
  split at isReply
  · rename_i able
    exact ⟨room, able.2, isReply, if_pos succeeded⟩
  · rw [isReply, refuses_refusal.failed] at succeeded
    cases succeeded

/-- The server keeps to what is assumed about VPP. -/
def vpp (refused : SetupRequest -> Bool) : VppServer Router where
  toServer := server refused
  has := id
  refused := by
    rintro router request reply ⟨_, isReply⟩ failed
    refine ⟨?_, if_neg (Bool.eq_false_iff.mp failed)⟩
    rw [isReply] at failed ⊢
    unfold respond at failed ⊢
    split at failed
    · rw [succeeded_listing] at failed
      cases failed
    · rename_i unable
      rw [if_neg unable]
      exact refuses_refusal
  tapDump := by
    intro router _ reply permitted succeeded
    rcases server_succeeded permitted succeeded with ⟨_, _, rfl, same⟩
    exact ⟨same, fun _ => mem_taps_listing⟩
  tapDelete := by
    intro router index reply permitted succeeded
    rcases server_succeeded permitted succeeded with ⟨_, isTap, _, same⟩
    exact ⟨isTap, same ▸ router.lost_erasePort index⟩
  tapCreate := by
    intro router tap reply permitted succeeded
    rcases server_succeeded permitted succeeded with ⟨room, _, rfl, same⟩
    exact ⟨(freeIndex_spec room).1, (freeIndex_spec room).2, router.freeName, router.free_freeName,
      same⟩
  setFlags := fun _ _ _ _ permitted succeeded => (server_succeeded permitted succeeded).2.2.2
  addDelCp := fun _ _ _ _ permitted succeeded => (server_succeeded permitted succeeded).2.2.2
  tableDump := by
    intro router reply permitted succeeded
    rcases server_succeeded permitted succeeded with ⟨_, _, rfl, same⟩
    exact ⟨same, fun _ _ _ => mem_tables_listing⟩
  tableAdd := fun _ _ _ isAdd permitted succeeded =>
    (server_succeeded permitted succeeded).2.2.2.trans (if_pos isAdd)
  tableDel := fun _ _ _ isAdd permitted succeeded =>
    (server_succeeded permitted succeeded).2.2.2.trans (if_neg (Bool.eq_false_iff.mp isAdd))
  routeAddDel := fun _ _ _ _ permitted succeeded => (server_succeeded permitted succeeded).2.2.2
  interfaceDump := by
    intro router reply permitted succeeded
    rcases server_succeeded permitted succeeded with ⟨_, _, rfl, same⟩
    rw [indices_listing]
    exact ⟨same, router.ports.keys_nodup, fun _ there => mem_ifaces_listing (there.elim id id)⟩
  addressDump := by
    intro router index reply permitted succeeded
    rcases server_succeeded permitted succeeded with ⟨_, _, rfl, same⟩
    exact ⟨same, fun _ => mem_pairs_iff⟩
  addressAddDel := fun _ _ _ _ _ permitted succeeded => (server_succeeded permitted succeeded).2.2.2
  unnumberedDump := by
    intro router index reply permitted succeeded
    rcases server_succeeded permitted succeeded with ⟨_, _, rfl, same⟩
    refine ⟨same, fun entry => mem_pairs_iff.trans (and_congr_right (fun _ => ?_))⟩
    exact exists_congr (fun port => and_congr_right (fun _ => Option.mem_toList))
  setUnnumbered := fun _ _ _ _ _ permitted succeeded => (server_succeeded permitted succeeded).2.2.2
  deleteSubif := by
    intro router index reply permitted succeeded
    rcases server_succeeded permitted succeeded with ⟨_, isSub, _, same⟩
    exact ⟨isSub, same ▸ router.lost_erasePort index⟩
  createSubif := by
    intro router index subId outerVlan innerVlan flags reply permitted succeeded
    rcases server_succeeded permitted succeeded with ⟨room, ⟨parent, found, free⟩, rfl, same⟩
    refine ⟨(freeIndex_spec room).1, (freeIndex_spec room).2, parent, found, free, same.trans ?_⟩
    unfold carryOut
    dsimp only
    rw [found]
    rfl
  setMtu := fun _ _ _ _ permitted succeeded => (server_succeeded permitted succeeded).2.2.2
  setTable := fun _ _ _ _ permitted succeeded => (server_succeeded permitted succeeded).2.2.2

/-! ## Runs -/

/-- One request makes at most one interface. -/
theorem length_keys_carryOut_le (router : Router) (swIfIndex : UInt32) (request : SetupRequest) :
    (router.carryOut swIfIndex request).ports.keys.length ≤ router.ports.keys.length + 1 := by
  have inserted (index : UInt32) (port : Port) :
      (router.insertPort index port).ports.keys.length ≤ router.ports.keys.length + 1 := by
    unfold insertPort
    split
    · rw [AList.keys_insert, List.length_cons]
      exact Nat.succ_le_succ List.length_erase_le
    · exact Nat.le_succ _
  have erased (index : UInt32) :
      (router.erasePort index).ports.keys.length ≤ router.ports.keys.length + 1 := by
    unfold erasePort
    rw [AList.keys_erase]
    exact List.length_erase_le.trans (Nat.le_succ _)
  have modified (index : UInt32) {change : Port -> Port}
      (keeps : forall port, (change port).name = port.name) :
      (router.modifyPort index change keeps).ports.keys.length ≤
        router.ports.keys.length + 1 := by
    show (Table.modify index change router.ports).keys.length ≤ _
    unfold Table.modify
    split
    · exact Nat.le_succ _
    · rw [AList.keys_insert, List.length_cons]
      exact Nat.succ_le_succ List.length_erase_le
  cases request with
  | tapDelete index => exact erased index
  | deleteSubif index => exact erased index
  | tapCreate _ => exact inserted _ _
  | setFlags => exact modified _ (by exact fun _ => rfl)
  | setMtu => exact modified _ (by exact fun _ => rfl)
  | addressAddDel => exact modified _ (by exact fun _ => rfl)
  | setUnnumbered => exact modified _ (by exact fun _ => rfl)
  | setTable => exact modified _ (by exact fun _ => rfl)
  | createSubif index =>
      unfold carryOut
      dsimp only
      split
      · exact Nat.le_succ _
      · exact inserted _ _
  | tableAddDel table =>
      unfold carryOut addTable deleteTable
      dsimp only
      split <;> split <;> exact Nat.le_succ _
  | routeAddDel route =>
      unfold carryOut addRoute
      dsimp only
      split <;> exact Nat.le_succ _
  | _ => exact Nat.le_succ _

theorem length_keys_next_le (refused : SetupRequest -> Bool) (router : Router)
    (request : SetupRequest) (reply : SetupReply) :
    ((server refused).next router request reply).ports.keys.length ≤
      router.ports.keys.length + 1 := by
  show (if reply.succeeded = true then router.carryOut reply.swIfIndex request
    else router).ports.keys.length ≤ _
  split
  · exact router.length_keys_carryOut_le reply.swIfIndex request
  · exact Nat.le_succ _

/-- The run of a program. -/
def play {Result : Type} (refused : SetupRequest -> Bool) (program : Setup Result)
    (router : Router) : List (SetupRequest × SetupReply) × Result × Router :=
  (server refused).play (respond refused) program router

/-- With room for one interface more than there are requests left, VPP answers. -/
theorem server_responds (refused : SetupRequest -> Bool) (left : Nat) (router : Router)
    (request : SetupRequest) (enough : router.ports.keys.length + (left + 1) < 2 ^ 32) :
    (server refused).permits router request (respond refused router request) ∧
      ((server refused).next router request (respond refused router request)).ports.keys.length +
        left < 2 ^ 32 := by
  have most := length_keys_next_le refused router request (respond refused router request)
  exact ⟨⟨by omega, rfl⟩, by omega⟩

theorem runs_play {Result : Type} (refused : SetupRequest -> Bool) (program : Setup Result)
    (router : Router)
    (room : router.ports.keys.length + (play refused program router).1.length < 2 ^ 32) :
    (vpp refused).Runs router program (play refused program router).1
      (play refused program router).2.1 (play refused program router).2.2 :=
  Server.runs_play (fun left router => router.ports.keys.length + left < 2 ^ 32)
    (server_responds refused) program room

/-- Where it is told to refuse nothing, it is willing. -/
theorem runs_play_willing {Result : Type} (program : Setup Result) (router : Router)
    (room : router.ports.keys.length + (play (fun _ => false) program router).1.length < 2 ^ 32) :
    (vpp (fun _ => false)).willing.Runs router program (play (fun _ => false) program router).1
      (play (fun _ => false) program router).2.1 (play (fun _ => false) program router).2.2 := by
  have obliges (router : Router) (request : SetupRequest) (able : router.Able request) :
      (respond (fun _ => false) router request).succeeded = true := by
    rw [show respond (fun _ => false) router request = router.listing request from if_pos ⟨rfl, able⟩]
    exact succeeded_listing request
  have step (left : Nat) (router : Router) (request : SetupRequest)
      (enough : router.ports.keys.length + (left + 1) < 2 ^ 32) :
      (vpp (fun _ => false)).willing.permits router request (respond (fun _ => false) router request) ∧
        ((server (fun _ => false)).next router request
          (respond (fun _ => false) router request)).ports.keys.length + left < 2 ^ 32 := by
    rcases server_responds (fun _ => false) left router request enough with ⟨permitted, later⟩
    exact ⟨⟨permitted, obliges router request⟩, later⟩
  have runs := @Server.runs_play _ _ _ _ (vpp (fun _ => false)).willing.toServer router _
    (fun left (router : Router) => router.ports.keys.length + left < 2 ^ 32) step program
  have same : (vpp (fun _ => false)).willing.toServer.play (respond (fun _ => false)) program router =
      play (fun _ => false) program router := Server.play_only program router
  rw [same] at runs
  exact runs room

end Router

end Pppcpd

import Pppcpd.Vpp.Vpp

namespace Pppcpd

open Foundation

/-!
# What VPP has

VPP is not part of the daemon.  What it has can be read off the calls that it
was sent and its replies: the interfaces that it has created for sessions, and
the unnumbered entries.  Its replies are lawful when it gives no index twice at
the same time, has no session twice, and lists the entries that it has.
-/

/-- A call and the reply that VPP gave to it. -/
structure VPPExchange where
  call : VPPCall
  reply : VPPReply
  deriving DecidableEq, Repr

namespace VPPRequest

/-- The request removes an unnumbered entry. -/
def isRemoval : VPPRequest -> Bool
  | .setUnnumbered _ _ false => true
  | _ => false

/-- The session object that the request deletes. -/
def deletedFor : VPPRequest -> Option Nat
  | .addDelSession owner _ _ _ _ false => some owner
  | .unknownVrf owner false => some owner
  | _ => none

/-- The request concerns neither sessions nor the removal of an entry. -/
def isAside : VPPRequest -> Bool
  | .setTable _ _ | .setUnnumbered _ _ true | .dumpUnnumbered _ | .dumpIfaces => true
  | _ => false

end VPPRequest

/-- An interface of VPP, with the session object it was created for and the
hardware address and id of that session.  An interface of the configuration was
created for none. -/
structure Interface where
  index : UInt32
  session : Option (Nat × Mac × UInt16) := none
  deriving DecidableEq, Repr

namespace Interface

/-- The interface was created for the session object. -/
def BelongsTo (interface : Interface) (owner : Nat) : Prop :=
  interface.session.map Prod.fst = some owner

/-- The interface was created for a session with the hardware address and id. -/
def Serves (interface : Interface) (mac : Mac) (sid : UInt16) : Prop :=
  interface.session.map Prod.snd = some (mac, sid)

instance (interface : Interface) (mac : Mac) (sid : UInt16) : Decidable (interface.Serves mac sid) :=
  inferInstanceAs (Decidable (_ = _))

end Interface

/-- The interfaces and the unnumbered entries of VPP.  An entry is the interface
that borrows an address, and the one it borrows from. -/
structure Plane where
  interfaces : List Interface := []
  unnumbered : List (UInt32 × UInt32) := []
  deriving DecidableEq, Repr

namespace Plane

/-- What VPP has after an exchange.  A delete command is taken to be carried out
whatever VPP replies. -/
def next (plane : Plane) (exchange : VPPExchange) : Plane :=
  match exchange.call.request with
  | .addDelSession owner mac sid _ _ true =>
      if exchange.call.ok then
        { plane with interfaces :=
            ⟨exchange.reply.swIfIndex, some (owner, mac, sid)⟩ :: plane.interfaces }
      else plane
  | .addDelSession _ mac sid _ _ false =>
      { plane with interfaces :=
          plane.interfaces.filter (fun interface => ¬ interface.Serves mac sid) }
  | .setUnnumbered unnumbered iface true =>
      if exchange.call.ok then
        { plane with unnumbered := (unnumbered, iface) :: plane.unnumbered }
      else plane
  | .setUnnumbered unnumbered iface false =>
      if exchange.call.ok then
        { plane with unnumbered := plane.unnumbered.filter (fun entry => entry ≠ (unnumbered, iface)) }
      else plane
  | _ => plane

/-- What VPP has after a list of exchanges. -/
def follow (plane : Plane) (exchanges : List VPPExchange) : Plane := exchanges.foldl next plane

/-- A reply that VPP gives with what it has.  A new interface gets an index that
is free, and a session that VPP has is not added again.  A dump lists the entries
of the interface, and with the index ~0 those of all interfaces. -/
def Allows (plane : Plane) (exchange : VPPExchange) : Prop :=
  match exchange.call.request with
  | .addDelSession _ mac sid _ _ true => exchange.call.ok = true ->
      ∀ interface ∈ plane.interfaces,
        interface.index ≠ exchange.reply.swIfIndex ∧ ¬ interface.Serves mac sid
  | .dumpUnnumbered ifindex => exchange.reply.executed = true ->
      ∀ entry ∈ exchange.reply.unnumbered ++ plane.unnumbered,
        entry ∈ exchange.reply.unnumbered ↔
          entry ∈ plane.unnumbered ∧ (ifindex = uint32Max ∨ entry.1 = ifindex)
  | _ => True

instance (plane : Plane) (exchange : VPPExchange) : Decidable (plane.Allows exchange) := by
  -- Only the listed entries are looked at, not all pairs of indices.
  have listed (entries : List (UInt32 × UInt32)) (holds : UInt32 × UInt32 -> Prop)
      [DecidablePred holds] : Decidable (∀ entry ∈ entries, holds entry) :=
    List.decidableBAll holds entries
  unfold Allows
  split <;> infer_instance

/-- Every reply is one that VPP gives. -/
def Lawful : Plane -> List VPPExchange -> Prop
  | _, [] => True
  | plane, exchange :: rest => plane.Allows exchange ∧ Lawful (plane.next exchange) rest

instance Lawful.decidable : forall (plane : Plane) (exchanges : List VPPExchange),
    Decidable (plane.Lawful exchanges)
  | _, [] => inferInstanceAs (Decidable True)
  | plane, exchange :: rest =>
      have := Lawful.decidable (plane.next exchange) rest
      inferInstanceAs (Decidable (plane.Allows exchange ∧ Lawful (plane.next exchange) rest))

/-- The session object that is being destroyed when entries are removed: the
calls go on with its deletion. -/
def destroyed : List VPPExchange -> Option Nat
  | [] => none
  | exchange :: rest =>
      if exchange.call.request.isRemoval then destroyed rest else exchange.call.request.deletedFor

/-- VPP has an interface with the index, and created it for the session object. -/
def Owned (plane : Plane) (index : UInt32) (owner : Nat) : Prop :=
  (∃ interface ∈ plane.interfaces, interface.index = index) ∧
    ∀ interface ∈ plane.interfaces, interface.index = index -> interface.BelongsTo owner

/-- Every entry that is removed is one of the interface that VPP created for the
session object that is being destroyed. -/
def RemovesOwn : Plane -> List VPPExchange -> Prop
  | _, [] => True
  | plane, exchange :: rest =>
      (forall unnumbered iface, exchange.call.request = .setUnnumbered unnumbered iface false ->
        ∃ owner, destroyed rest = some owner ∧ plane.Owned unnumbered owner) ∧
        RemovesOwn (plane.next exchange) rest

instance (plane : Plane) (index : UInt32) (owner : Nat) : Decidable (plane.Owned index owner) :=
  have (interface : Interface) : Decidable (interface.BelongsTo owner) :=
    inferInstanceAs (Decidable (_ = _))
  inferInstanceAs (Decidable (_ ∧ _))

/-- Only a removal asks whose the interface is. -/
instance decidableRemoval (plane : Plane) (owner : Option Nat) : forall request : VPPRequest,
    Decidable (forall unnumbered iface, request = .setUnnumbered unnumbered iface false ->
      ∃ other, owner = some other ∧ plane.Owned unnumbered other)
  | .setUnnumbered unnumbered iface false =>
      have : Decidable (∃ other, owner = some other ∧ plane.Owned unnumbered other) :=
        inferInstanceAs (Decidable (∃ other, other ∈ owner ∧ plane.Owned unnumbered other))
      decidable_of_iff (∃ other, owner = some other ∧ plane.Owned unnumbered other)
        ⟨fun owned _ _ same => (VPPRequest.setUnnumbered.inj same).1 ▸ owned,
          fun owned => owned unnumbered iface rfl⟩
  | .setUnnumbered _ _ true | .addDelSession .. | .unknownVrf .. | .setTable .. | .dumpUnnumbered _
  | .dumpIfaces => isTrue (fun _ _ same => nomatch same)

instance RemovesOwn.decidable : forall (plane : Plane) (exchanges : List VPPExchange),
    Decidable (plane.RemovesOwn exchanges)
  | _, [] => inferInstanceAs (Decidable True)
  | plane, exchange :: rest =>
      have := RemovesOwn.decidable (plane.next exchange) rest
      inferInstanceAs (Decidable (_ ∧ RemovesOwn (plane.next exchange) rest))

theorem follow_append (plane : Plane) (first second : List VPPExchange) :
    plane.follow (first ++ second) = (plane.follow first).follow second :=
  List.foldl_append

theorem lawful_append {plane : Plane} {first second : List VPPExchange} :
    plane.Lawful (first ++ second) ↔
      plane.Lawful first ∧ (plane.follow first).Lawful second := by
  induction first generalizing plane with
  | nil => exact ⟨fun lawful => ⟨trivial, lawful⟩, And.right⟩
  | cons exchange rest inductionHypothesis =>
      constructor
      · intro lawful
        have later := inductionHypothesis.mp lawful.2
        exact ⟨⟨lawful.1, later.1⟩, later.2⟩
      · intro lawful
        exact ⟨lawful.1.1, inductionHypothesis.mpr ⟨lawful.1.2, lawful.2⟩⟩

/-- What goes on after the deletion does not matter. -/
theorem destroyed_append {first : List VPPExchange} {owner : Nat} (second : List VPPExchange)
    (first_destroyed : destroyed first = some owner) :
    destroyed (first ++ second) = some owner := by
  induction first with
  | nil => cases first_destroyed
  | cons exchange rest inductionHypothesis =>
      rw [List.cons_append]
      unfold destroyed at first_destroyed ⊢
      split
      · rename_i removal
        rw [if_pos removal] at first_destroyed
        exact inductionHypothesis first_destroyed
      · rename_i other
        rw [if_neg other] at first_destroyed
        exact first_destroyed

theorem removesOwn_append {plane : Plane} {first second : List VPPExchange}
    (left : plane.RemovesOwn first) (right : (plane.follow first).RemovesOwn second) :
    plane.RemovesOwn (first ++ second) := by
  induction first generalizing plane with
  | nil => exact right
  | cons exchange rest inductionHypothesis =>
      refine ⟨fun unnumbered iface removal => ?_, inductionHypothesis left.2 right⟩
      rcases left.1 unnumbered iface removal with ⟨owner, isDestroyed, owned⟩
      exact ⟨owner, destroyed_append second isDestroyed, owned⟩

/-! ## Calls that concern no session -/

theorem interfaces_next_aside (plane : Plane) {exchange : VPPExchange}
    (aside : exchange.call.request.isAside = true ∨ exchange.call.request.isRemoval = true) :
    (plane.next exchange).interfaces = plane.interfaces := by
  unfold next
  split
  · rename_i request
    rw [request] at aside
    rcases aside with aside | aside <;> cases aside
  · rename_i request
    rw [request] at aside
    rcases aside with aside | aside <;> cases aside
  · split <;> rfl
  · split <;> rfl
  · rfl

theorem interfaces_follow_aside {plane : Plane} {exchanges : List VPPExchange}
    (aside : ∀ exchange ∈ exchanges,
      exchange.call.request.isAside = true ∨ exchange.call.request.isRemoval = true) :
    (plane.follow exchanges).interfaces = plane.interfaces := by
  induction exchanges generalizing plane with
  | nil => rfl
  | cons exchange rest inductionHypothesis =>
      have later : ((plane.next exchange).follow rest).interfaces = (plane.next exchange).interfaces :=
        inductionHypothesis (fun other member => aside other (List.mem_cons_of_mem _ member))
      exact later.trans (interfaces_next_aside plane (aside exchange List.mem_cons_self))

/-- Calls among which is no removal remove nothing of others. -/
theorem removesOwn_of_none {plane : Plane} {exchanges : List VPPExchange}
    (none : ∀ exchange ∈ exchanges, exchange.call.request.isRemoval = false) :
    plane.RemovesOwn exchanges := by
  induction exchanges generalizing plane with
  | nil => trivial
  | cons exchange rest inductionHypothesis =>
      refine ⟨fun unnumbered iface removal => ?_,
        inductionHypothesis (fun other member => none other (List.mem_cons_of_mem _ member))⟩
      have other := none exchange List.mem_cons_self
      rw [removal] at other
      cases other

/-- The removals in front of a deletion. -/
theorem removesOwn_of_owned {plane : Plane} {removals : List VPPExchange} {deletion : VPPExchange}
    {owner : Nat} (isDeletion : deletion.call.request.deletedFor = some owner)
    (owned : ∀ exchange ∈ removals, ∃ index iface,
      exchange.call.request = .setUnnumbered index iface false ∧ plane.Owned index owner) :
    plane.RemovesOwn (removals ++ [deletion]) := by
  have notRemoval : deletion.call.request.isRemoval = false := by
    cases request : deletion.call.request with
    | setUnnumbered =>
        rw [request] at isDeletion
        cases isDeletion
    | _ => rfl
  induction removals generalizing plane with
  | nil =>
      refine removesOwn_of_none (fun exchange member => ?_)
      rw [List.mem_singleton.mp member]
      exact notRemoval
  | cons exchange rest inductionHypothesis =>
      have isRemoval : ∀ other ∈ exchange :: rest, other.call.request.isRemoval = true := by
        intro other member
        rcases owned other member with ⟨_, _, removal, _⟩
        rw [removal]
        rfl
      have ends : forall removals : List VPPExchange,
          (∀ other ∈ removals, other.call.request.isRemoval = true) ->
            destroyed (removals ++ [deletion]) = some owner := by
        intro removals all
        induction removals with
        | nil =>
            rw [List.nil_append, destroyed, if_neg (by rw [notRemoval]; decide)]
            exact isDeletion
        | cons other others inner =>
            rw [List.cons_append, destroyed, if_pos (all other List.mem_cons_self)]
            exact inner (fun later member => all later (List.mem_cons_of_mem _ member))
      refine ⟨fun index iface removal => ?_, ?_⟩
      · rcases owned exchange List.mem_cons_self with ⟨own, other, same, isOwned⟩
        rw [same] at removal
        rw [← (VPPRequest.setUnnumbered.inj removal).1]
        exact ⟨owner, ends rest (fun other member => isRemoval other (List.mem_cons_of_mem _ member)),
          isOwned⟩
      · have same := interfaces_next_aside plane (.inr (isRemoval exchange List.mem_cons_self))
        refine inductionHypothesis (fun other member => ?_)
        rcases owned other (List.mem_cons_of_mem _ member) with ⟨index, iface, removal, isOwned⟩
        refine ⟨index, iface, removal, ?_⟩
        unfold Owned
        rw [same]
        exact isOwned

end Plane

end Pppcpd

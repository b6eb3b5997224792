import Pppcpd.Runtime.Atomicity

namespace Pppcpd

open Foundation Discovery

/-!
# Which services are given

A PADI should be answered, and a PADR should get a session, exactly when the
policy of its outer VLAN offers the service it asks for.  The PADI compares the
name, but takes the empty name for one that was not found.  The PADR compares
nothing.
-/

/-- The policy offers the service that is asked for with the tags. -/
def Acceptable (policy : PPPOEPolicy) (tags : Tags) : Prop :=
  tags.lookup PPPOETag.serviceName = none ∨ policy.ignoreServiceName = true ∨
    ∃ name ∈ policy.serviceName, tags.lookup PPPOETag.serviceName = some name

/-- The empty name is asked for and is one of the policy, which compares names. -/
def AsksNameless (policy : PPPOEPolicy) (tags : Tags) : Prop :=
  tags.lookup PPPOETag.serviceName = some [] ∧ [] ∈ policy.serviceName ∧
    policy.ignoreServiceName = false

/-- A name is selected when names are ignored, or when it is one of the policy
and not empty. -/
theorem exists_selectService_iff {policy : PPPOEPolicy} {requested : Bytes} :
    (∃ selected, selectService policy requested = .ok selected) ↔
      policy.ignoreServiceName = true ∨ requested ∈ policy.serviceName ∧ requested ≠ [] := by
  unfold selectService
  dsimp only
  by_cases ignores : policy.ignoreServiceName = true
  · refine ⟨fun _ => .inl ignores, fun _ => ?_⟩
    rw [if_pos ignores]
    by_cases missing : (if requested ∈ policy.serviceName then requested else []) = []
    · exact ⟨_, if_pos missing⟩
    · exact ⟨_, if_neg missing⟩
  · rw [if_neg ignores]
    by_cases member : requested ∈ policy.serviceName
    · by_cases empty : requested = []
      · simp [ignores, empty]
      · simp [member, empty]
    · simp [ignores, member]

/-- The request is acceptable when a name is selected for it, or is the empty
one. -/
theorem acceptable_iff_selects {policy : PPPOEPolicy} {tags : Tags} :
    Acceptable policy tags ∧ ¬ AsksNameless policy tags ↔
      forall requested, tags.lookup PPPOETag.serviceName = some requested ->
        ∃ selected, selectService policy requested = .ok selected := by
  unfold Acceptable AsksNameless
  constructor
  · rintro ⟨absent | ignores | ⟨name, member, asked⟩, named⟩ requested found
    · rw [absent] at found
      cases found
    · exact exists_selectService_iff.mpr (.inl ignores)
    · rw [asked] at found
      cases found
      refine exists_selectService_iff.mpr ?_
      by_cases ignores : policy.ignoreServiceName = true
      · exact .inl ignores
      · refine .inr ⟨member, fun empty => named ⟨empty ▸ asked, empty ▸ member, ?_⟩⟩
        exact Bool.eq_false_of_not_eq_true ignores
  · intro selects
    cases asked : tags.lookup PPPOETag.serviceName with
    | none => exact ⟨.inl rfl, fun nameless => nomatch nameless.1⟩
    | some requested =>
        rcases exists_selectService_iff.mp (selects requested asked) with ignores | ⟨member, named⟩
        · refine ⟨.inr (.inl ignores), fun nameless => ?_⟩
          exact absurd (ignores.symm.trans nameless.2.2) Bool.noConfusion
        · exact ⟨.inr (.inr ⟨requested, member, rfl⟩),
            fun nameless => named (Option.some.inj nameless.1)⟩

namespace Runtime

/-- The packet passes every check that is not about its service: its tags are
read, and a PADI pends no session yet, and a PADR is expected and finds an id. -/
def PassesOther (now : Runtime) (env : Env) (encap : Encapsulation) (packet : Packet)
    (tags : Tags) : Prop :=
  packet.pppoeCode = PPPOECode.padi ∧ tagsOf "PADI" packet = .ok tags ∧
      connOf encap (now.padoCookie env encap) ∉ now.store.pendingSession ∨
    packet.pppoeCode = PPPOECode.padr ∧ tagsOf "PADR" packet = .ok tags ∧
      connOf encap (padrCookie tags) ∈ now.store.pendingSession ∧ ¬ now.IdsExhausted

/-- The packet gets no error, and a reply to it is queued. -/
def Answered (now : Runtime) (env : Env) (encap : Encapsulation) (packet : Packet) : Prop :=
  ∃ after frame, now.processPPPOE env encap packet = some (after, none) ∧
    after.pppoeOutcoming = now.pppoeOutcoming ++ [frame]

/-- The packet brings a session of its link into use, under an id that was not. -/
def GetsSession (now : Runtime) (env : Env) (encap : Encapsulation) (packet : Packet) : Prop :=
  ∃ after err id, now.processPPPOE env encap packet = some (after, err) ∧
    id ∉ now.store.sessionSet ∧ id ∈ after.store.sessionSet ∧
      ∃ ref, after.store.activeSessions.lookup (.ofEncap encap id) = some ref

/-- What the service policy promises for a packet with the given tags. -/
structure ServiceLaw (now : Runtime) (env : Env) (encap : Encapsulation) (packet : Packet)
    (tags : Tags) : Prop where
  answered : now.Answered env encap packet ↔ Acceptable (now.policy encap.outerVlan) tags
  allocated : packet.pppoeCode = PPPOECode.padr ->
    (now.GetsSession env encap packet ↔ Acceptable (now.policy encap.outerVlan) tags)

/-- Where the handlers keep the service policy: a PADI does not ask for a
nameless service, and a PADR asks for one that is offered. -/
def KeepsPolicy (now : Runtime) (encap : Encapsulation) (packet : Packet) (tags : Tags) : Prop :=
  packet.pppoeCode = PPPOECode.padi ∧ ¬ AsksNameless (now.policy encap.outerVlan) tags ∨
    packet.pppoeCode = PPPOECode.padr ∧ Acceptable (now.policy encap.outerVlan) tags

section

variable {now : Runtime} {env : Env} {encap : Encapsulation} {packet : Packet} {tags : Tags}

/-- The tags of a PADO are made when every name asked for is selected. -/
theorem exists_padoTags_iff (parsed : tagsOf "PADI" packet = .ok tags) :
    (∃ made, now.padoTags env encap packet = .ok made) ↔
      Acceptable (now.policy encap.outerVlan) tags ∧
        ¬ AsksNameless (now.policy encap.outerVlan) tags := by
  rw [acceptable_iff_selects]
  unfold padoTags
  rw [parsed]
  cases asked : tags.lookup PPPOETag.serviceName with
  | none =>
      simp only [Except.bind, asked]
      exact iff_of_true ⟨_, rfl⟩ (fun _ found => nomatch found)
  | some requested =>
      simp only [Except.bind, asked]
      cases chosen : selectService (now.policy encap.outerVlan) requested with
      | error err =>
          refine ⟨fun ⟨_, made⟩ => (nomatch made), fun selects => ?_⟩
          rcases selects requested rfl with ⟨_, selected⟩
          rw [chosen] at selected
          cases selected
      | ok selected =>
          refine ⟨fun _ other same => ?_, fun _ => ⟨_, rfl⟩⟩
          exact ⟨selected, Option.some.inj same ▸ chosen⟩

@[simp] theorem pppoeOutcoming_pendeSession (runtime : Runtime) (conn : PPPOEConn) :
    (runtime.pendeSession conn).1.pppoeOutcoming = runtime.pppoeOutcoming := by
  unfold pendeSession
  split <;> rfl

/-- A PADI that passes the other checks is answered when its tags are made. -/
theorem answered_padi_iff (padi : packet.pppoeCode = PPPOECode.padi)
    (idle : connOf encap (now.padoCookie env encap) ∉ now.store.pendingSession) :
    now.Answered env encap packet ↔ ∃ made, now.padoTags env encap packet = .ok made := by
  have handled := @processPPPOE_of_padi now env encap packet padi
  constructor
  · rintro ⟨after, frame, processed, _⟩
    cases built : now.padoTags env encap packet with
    | ok made => exact ⟨made, rfl⟩
    | error err =>
        rw [handled, processPadi_of_error built] at processed
        exact nomatch (Prod.mk.inj (Option.some.inj processed)).2
  · rintro ⟨⟨made, cookie⟩, built⟩
    rcases padoTags_ok built with ⟨_, _, _, same⟩
    have pended := @processPadi_eq now env encap packet _ built
    rw [if_neg (same ▸ idle)] at pended
    rw [pended] at handled
    refine ⟨_, encap.generateHeader (now.pendeSession (connOf encap cookie)).1.hwaddr
      ethPppoeDiscovery ++ made.packet PPPOECode.pado 0, handled, ?_⟩
    exact congrArg (fun queue => queue ++ _) (pppoeOutcoming_pendeSession now _)

/-- A PADR that passes the other checks is answered and gets a session, whatever
service it asks for. -/
theorem padr_served (invariant : StoreInvariant now) (padr : packet.pppoeCode = PPPOECode.padr)
    (parsed : tagsOf "PADR" packet = .ok tags)
    (pends : connOf encap (padrCookie tags) ∈ now.store.pendingSession)
    (room : ¬ now.IdsExhausted) :
    now.Answered env encap packet ∧ now.GetsSession env encap packet := by
  cases free : now.freeId with
  | none => exact absurd ((freeId_eq_none_iff invariant).mp free) room
  | some id =>
      have handled := @processPPPOE_of_padr now env encap packet invariant padr
      rw [padrOutcome_registers parsed pends free] at handled
      refine ⟨⟨_, _, handled, rfl⟩, _, _, id, handled, not_mem_of_freeId free,
        Finset.mem_insert_self _ _, _, AList.lookup_insert _⟩

theorem serviceLaw_iff_of_invariant (invariant : StoreInvariant now)
    (passes : now.PassesOther env encap packet tags) :
    now.ServiceLaw env encap packet tags ↔ now.KeepsPolicy encap packet tags := by
  rcases passes with ⟨padi, parsed, idle⟩ | ⟨padr, parsed, pends, room⟩
  · have other : packet.pppoeCode ≠ PPPOECode.padr := by
      rw [padi]
      decide
    have answered := (answered_padi_iff padi idle).trans
      (@exists_padoTags_iff now env encap packet tags parsed)
    constructor
    · intro law
      refine .inl ⟨padi, fun nameless => ?_⟩
      have acceptable : Acceptable (now.policy encap.outerVlan) tags :=
        .inr (.inr ⟨[], nameless.2.1, nameless.1⟩)
      exact (answered.mp (law.answered.mpr acceptable)).2 nameless
    · rintro (⟨_, named⟩ | ⟨padr, _⟩)
      · refine ⟨?_, fun padr => absurd padr other⟩
        exact answered.trans ⟨And.left, fun acceptable => ⟨acceptable, named⟩⟩
      · exact absurd padr other
  · rcases @padr_served now env encap packet tags invariant padr parsed pends room with
      ⟨answered, allocates⟩
    constructor
    · intro law
      exact .inr ⟨padr, law.answered.mp answered⟩
    · rintro (⟨padi, _⟩ | ⟨_, acceptable⟩)
      · rw [padr] at padi
        exact absurd padi (by decide)
      · exact ⟨iff_of_true answered acceptable, fun _ => iff_of_true allocates acceptable⟩

end

/-- In every reachable state and for every packet that passes the other checks,
the service policy is kept exactly by the PADIs that do not ask for a nameless
service and by the PADRs that ask for one that is offered. -/
theorem serviceLaw_iff {start now : Runtime} (fresh : start.Fresh)
    (reached : Reachable happen start now) {env : Env} {encap : Encapsulation} {packet : Packet}
    {tags : Tags} (passes : now.PassesOther env encap packet tags) :
    now.ServiceLaw env encap packet tags ↔ now.KeepsPolicy encap packet tags :=
  serviceLaw_iff_of_invariant (referenceInvariant_of_reachable fresh reached).tables passes

/-- A discovery packet that asks for a service. -/
def servicePacket (code : UInt8) (name : Bytes) : Packet :=
  receivedPacket ([0x11, code, 0, 0, 0, 0] ++ tagBytes PPPOETag.serviceName name)

/-- The tags that are parsed from it. -/
def serviceTags (name : Bytes) : Tags := (∅ : Tags).insert PPPOETag.serviceName name

/-- The daemon whose only service is "internet", after an answered PADI. -/
def offering : Runtime :=
  Foundation.after happen (sampleDaemon [.none] papPolicy)
    [.event (discoveryEvent (sampleLink 1) PPPOECode.padi 0)] (by decide +kernel)

theorem offering_reachable : Reachable happen (sampleDaemon [.none] papPolicy) offering :=
  reachable_after _ _ _ _

/-- The PADR that asks for the service of the policy gets a session, and the PADI that
asks for another one gets no reply. -/
theorem serviceLaw_at_offering :
    offering.GetsSession {} (sampleLink 1) (servicePacket PPPOECode.padr (ascii "internet")) ∧
      ¬ offering.Answered {} (sampleLink 2) (servicePacket PPPOECode.padi [120]) := by
  have fresh := fresh_sampleDaemon [.none] papPolicy
  have expected : offering.PassesOther {} (sampleLink 1)
      (servicePacket PPPOECode.padr (ascii "internet")) (serviceTags (ascii "internet")) := by
    refine .inr ⟨rfl, rfl, by decide +kernel, fun exhausted => ?_⟩
    exact absurd (exhausted 1 (by decide)) (by decide +kernel)
  have opened : offering.PassesOther {} (sampleLink 2) (servicePacket PPPOECode.padi [120])
      (serviceTags [120]) := .inl ⟨rfl, rfl, by decide +kernel⟩
  have offered : Acceptable (offering.policy 0) (serviceTags (ascii "internet")) :=
    .inr (.inr ⟨ascii "internet", by decide +kernel, rfl⟩)
  have unknown : ¬ Acceptable (offering.policy 0) (serviceTags [120]) := by
    rintro (absent | ignores | ⟨name, member, asked⟩)
    · exact absurd absent (by decide)
    · exact absurd ignores (by decide +kernel)
    · have same : [120] = name := Option.some.inj asked
      exact absurd (same ▸ member) (by decide +kernel)
  have given := (serviceLaw_iff fresh offering_reachable expected).mpr (.inr ⟨rfl, offered⟩)
  have refused := (serviceLaw_iff fresh offering_reachable opened).mpr
    (.inl ⟨rfl, fun nameless => absurd nameless.1 (by decide)⟩)
  exact ⟨(given.allocated rfl).mpr offered, fun answered => unknown (refused.answered.mp answered)⟩

/-- A daemon whose only service has the empty name. -/
def namelessDaemon : Runtime :=
  boot { defaultPppoeConf := { serviceName := [[]] }, aaaConf := AAA.sampleConf [.none] } papPolicy
    AAA.sampleSecret ⟨2, 0, 0, 0, 0, 1⟩ MD5.digest (fun _ => {})

/-- A PADR that asks for another service than the one of its policy gets a
session, and a PADI that asks for the nameless service of its policy an error. -/
theorem other_service_is_given :
    (offering.PassesOther {} (sampleLink 1) (servicePacket PPPOECode.padr [120]) (serviceTags [120]) ∧
      ¬ offering.ServiceLaw {} (sampleLink 1) (servicePacket PPPOECode.padr [120])
        (serviceTags [120])) ∧
      namelessDaemon.PassesOther {} (sampleLink 1) (servicePacket PPPOECode.padi []) (serviceTags []) ∧
        ¬ namelessDaemon.ServiceLaw {} (sampleLink 1) (servicePacket PPPOECode.padi [])
          (serviceTags []) := by
  have tables := (referenceInvariant_of_reachable (fresh_sampleDaemon [.none] papPolicy)
    offering_reachable).tables
  have expected : offering.PassesOther {} (sampleLink 1) (servicePacket PPPOECode.padr [120])
      (serviceTags [120]) := by
    refine .inr ⟨rfl, rfl, ?_, fun exhausted => ?_⟩
    · decide +kernel
    · exact absurd (exhausted 1 (by decide)) (by decide +kernel)
  have opened : namelessDaemon.PassesOther {} (sampleLink 1) (servicePacket PPPOECode.padi [])
      (serviceTags []) := .inl ⟨rfl, rfl, Finset.notMem_empty _⟩
  refine ⟨⟨expected, fun law => ?_⟩, opened, fun law => ?_⟩
  · rcases (serviceLaw_iff_of_invariant tables expected).mp law with ⟨padi, _⟩ | ⟨_, acceptable⟩
    · exact absurd padi (by decide)
    · rcases acceptable with absent | ignores | ⟨name, member, asked⟩
      · exact absurd absent (by decide)
      · exact absurd ignores (by decide +kernel)
      · have same : [120] = name := Option.some.inj asked
        exact absurd (same ▸ member) (by decide +kernel)
  · have fresh : namelessDaemon.Fresh := fresh_boot (AAA.sampleConf_decoded _) _ _ _ _ _
    have tables := (referenceInvariant_of_reachable fresh (.refl happen _)).tables
    rcases (serviceLaw_iff_of_invariant tables opened).mp law with ⟨_, named⟩ | ⟨padr, _⟩
    · exact named ⟨rfl, List.mem_singleton.mpr rfl, rfl⟩
    · exact absurd padr (by decide)

end Runtime

end Pppcpd

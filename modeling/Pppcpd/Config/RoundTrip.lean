import Pppcpd.Config.Yaml

namespace Pppcpd
namespace Yaml

open Foundation

/-!
# What is read is what was written

Every pair of conversions is a round trip but one: `unnumbered` of a unit is
neither written nor read, so it is empty in a configuration that was loaded.
-/

variable (scalars : Scalars)

theorem PPPOEPolicy.decode_encode (policy : PPPOEPolicy) :
    decode scalars (encode scalars policy) = some policy := by
  have distinct : Node.Distinct ((fields scalars policy).map Prod.fst) := by
    show Node.Distinct ["ac_name", "service_name", "insert_cookie", "ignore_service_name"]
    decide
  unfold decode encode
  rw [Node.required_object distinct 0 rfl (Node.text_scalar _),
    Node.required_object distinct 1 rfl (Node.toList_ofList_self Node.text_scalar _),
    Node.required_object distinct 2 rfl (scalars.bool.decode_encode _),
    Node.required_object distinct 3 rfl (scalars.bool.decode_encode _)]
  rfl

theorem LCPPolicy.decode_encode (policy : LCPPolicy) :
    decode scalars (encode scalars policy) = some policy := by
  have distinct : Node.Distinct ((fields scalars policy).map Prod.fst) := by
    show Node.Distinct ["insert_magic_number", "mru", "auth_chap", "auth_pap"]
    decide
  unfold decode encode
  rw [Node.optional_object distinct 0 rfl (scalars.bool.decode_encode _),
    Node.optional_object distinct 1 rfl (scalars.uint16.decode_encode _),
    Node.optional_object distinct 2 rfl (scalars.bool.decode_encode _),
    Node.optional_object distinct 3 rfl (scalars.bool.decode_encode _)]
  rfl

/-- The addresses in use are not written. -/
theorem FramedPool.decode_encode (pool : FramedPool) :
    decode scalars (encode scalars pool) = some { pool with ips := ∅ } := by
  have distinct : Node.Distinct ((fields scalars pool).map Prod.fst) := by
    show Node.Distinct ["start_ip", "stop_ip"]
    decide
  unfold decode encode
  rw [Node.required_object distinct 0 rfl (scalars.address.decode_encode _),
    Node.required_object distinct 1 rfl (scalars.address.decode_encode _)]
  rfl

theorem AAAMethod.decode_encode (method : AAAMethod) : decode (encode method) = some method := by
  cases method <;> decide

theorem PPPOELocalTemplate.decode_encode (localTemplate : PPPOELocalTemplate) :
    decode scalars (encode scalars localTemplate) = some localTemplate := by
  have distinct : Node.Distinct ((fields scalars localTemplate).map Prod.fst) := by
    show Node.Distinct ["framed_pool", "dns1", "dns2", "vrf", "unnumbered"]
    decide
  unfold decode encode
  rw [Node.required_object distinct 0 rfl (Node.text_scalar _),
    Node.required_object distinct 1 rfl (scalars.address.decode_encode _),
    Node.required_object distinct 2 rfl (scalars.address.decode_encode _),
    Node.optional_textUnlessEmpty distinct 3 rfl, Node.optional_textUnlessEmpty distinct 4 rfl]
  rfl

theorem AAARadConf.decode_encode (conf : AAARadConf) :
    decode scalars (encode scalars conf) = some conf := by
  have distinct : Node.Distinct ((fields scalars conf).map Prod.fst) := by
    show Node.Distinct ["address", "port", "secret"]
    decide
  unfold decode encode
  rw [Node.required_object distinct 0 rfl (scalars.address.decode_encode _),
    Node.required_object distinct 1 rfl (scalars.uint16.decode_encode _),
    Node.required_object distinct 2 rfl (Node.text_scalar _)]
  rfl

theorem AAAConf.decode_encode (conf : AAAConf) :
    decode scalars (encode scalars conf) = some conf.configured := by
  have distinct : Node.Distinct ((fields scalars conf).map Prod.fst) := by
    show Node.Distinct ["pools", "method", "local_template", "dictionaries", "auth_servers",
      "acct_servers"]
    decide
  have servers := Node.toTable_ofTable_self (fun _ => rfl) (AAARadConf.decode_encode scalars)
  unfold decode encode
  rw [Node.required_object distinct 0 rfl
      (Node.toTable_ofTable (fun _ => rfl) (FramedPool.decode_encode scalars) _),
    Node.required_object distinct 1 rfl (Node.toList_ofList_self AAAMethod.decode_encode _),
    Node.optional_textUnlessEmpty distinct 2 rfl,
    Node.optional_object distinct 3 rfl (Node.toList_ofList_self Node.text_scalar _),
    Node.optional_object distinct 4 rfl (servers _), Node.optional_object distinct 5 rfl (servers _)]
  rfl

/-- A unit as it is loaded. -/
def InterfaceUnit.loaded (unit : InterfaceUnit) : InterfaceUnit := { unit with unnumbered := [] }

theorem InterfaceUnit.decode_encode (unit : InterfaceUnit) :
    decode scalars (encode scalars unit) = some unit.loaded := by
  have distinct : Node.Distinct ((fields scalars unit).map Prod.fst) := by
    show Node.Distinct ["admin_state", "address", "vlan", "vrf"]
    decide
  unfold decode encode
  rw [Node.optional_object distinct 0 rfl (scalars.bool.decode_encode _),
    Node.optional_map distinct 1 rfl scalars.network.decode_encode,
    Node.required_object distinct 2 rfl (scalars.uint16.decode_encode _),
    Node.optional_textUnlessEmpty distinct 3 rfl]
  rfl

/-- An interface as it is loaded. -/
def InterfaceConf.loaded (conf : InterfaceConf) : InterfaceConf :=
  { conf with units := conf.units.mapValues InterfaceUnit.loaded }

theorem InterfaceConf.decode_encode (conf : InterfaceConf) :
    decode scalars (encode scalars conf) = some conf.loaded := by
  have distinct : Node.Distinct ((fields scalars conf).map Prod.fst) := by
    show Node.Distinct ["device", "admin_state", "mtu", "units"]
    decide
  unfold decode encode
  rw [Node.required_object distinct 0 rfl (Node.text_scalar _),
    Node.required_object distinct 1 rfl (scalars.bool.decode_encode _),
    Node.optional_map distinct 2 rfl scalars.uint16.decode_encode,
    Node.required_object distinct 3 rfl
      (Node.toTable_ofTable scalars.uint16.lossless (InterfaceUnit.decode_encode scalars) _)]
  rfl

theorem StaticRIBEntry.decode_encode (entry : StaticRIBEntry) :
    decode scalars (encode scalars entry) = some entry := by
  have distinct : Node.Distinct ((fields scalars entry).map Prod.fst) := by
    show Node.Distinct ["destination", "nexthop", "description"]
    decide
  unfold decode encode
  rw [Node.required_object distinct 0 rfl (scalars.network.decode_encode _),
    Node.required_object distinct 1 rfl (scalars.address.decode_encode _),
    Node.optional_map distinct 2 rfl Node.text_scalar]
  rfl

theorem StaticRIB.decode_encode (rib : StaticRIB) :
    decode scalars (encode scalars rib) = some rib := by
  have distinct : Node.Distinct ((fields scalars rib).map Prod.fst) := by
    show Node.Distinct ["entries"]
    decide
  unfold decode encode
  rw [Node.required_object distinct 0 rfl
    (Node.toList_ofList_self (StaticRIBEntry.decode_encode scalars) _)]
  rfl

theorem VRFConf.decode_encode (conf : VRFConf) :
    decode scalars (encode scalars conf) = some conf := by
  have distinct : Node.Distinct ((fields scalars conf).map Prod.fst) := by
    show Node.Distinct ["name", "table_id", "rib"]
    decide
  unfold decode encode
  rw [Node.required_object distinct 0 rfl (Node.text_scalar _),
    Node.required_object distinct 1 rfl (scalars.uint32.decode_encode _),
    Node.required_object distinct 2 rfl (StaticRIB.decode_encode scalars _)]
  rfl

theorem LogLevel.decode_encode (level : LogLevel) : decode (encode level) = some level := by
  cases level <;> decide

/-- A configuration as it is loaded. -/
def PPPOEGlobalConf.loaded (conf : PPPOEGlobalConf) : PPPOEGlobalConf :=
  { conf.configured with interfaces := conf.interfaces.map InterfaceConf.loaded }

/-- Every configuration can be loaded, and what is loaded is known. -/
theorem PPPOEGlobalConf.decode_encode (conf : PPPOEGlobalConf) :
    decode scalars (encode scalars conf) = some conf.loaded := by
  have distinct : Node.Distinct ((fields scalars conf).map Prod.fst) := by
    show Node.Distinct ["tap_name", "log_level", "log_file", "interfaces", "default_pppoe_conf",
      "pppoe_confs", "pppoe_templates", "aaa_conf", "lcp_conf", "global_rib", "vrfs"]
    decide
  unfold decode encode
  rw [Node.required_object distinct 0 rfl (Node.text_scalar _),
    Node.optional_object distinct 1 rfl (LogLevel.decode_encode _),
    Node.optional_textUnlessEmpty distinct 2 rfl,
    Node.required_object distinct 3 rfl
      (Node.toList_ofList (InterfaceConf.decode_encode scalars) _),
    Node.required_object distinct 4 rfl (PPPOEPolicy.decode_encode scalars _),
    Node.required_object distinct 5 rfl
      (Node.toTable_ofTable_self scalars.uint16.lossless (PPPOEPolicy.decode_encode scalars) _),
    Node.required_object distinct 6 rfl
      (Node.toTable_ofTable_self (fun _ => rfl) (PPPOELocalTemplate.decode_encode scalars) _),
    Node.required_object distinct 7 rfl (AAAConf.decode_encode scalars _),
    Node.optional_object distinct 8 rfl (LCPPolicy.decode_encode scalars _),
    Node.required_object distinct 9 rfl (StaticRIB.decode_encode scalars _),
    Node.required_object distinct 10 rfl (Node.toList_ofList_self (VRFConf.decode_encode scalars) _)]
  rfl

/-! ## The law -/

namespace PPPOEGlobalConf

/-- The configuration is loaded from what was written for it, with every
configured field. -/
def Returns (conf : PPPOEGlobalConf) : Prop :=
  ∃ read, decode scalars (encode scalars conf) = some read ∧ read.configured = conf.configured

theorem configured_loaded (conf : PPPOEGlobalConf) :
    conf.loaded.configured =
      { conf.configured with interfaces := conf.interfaces.map InterfaceConf.loaded } := by
  have pools : conf.aaaConf.configured.configured = conf.aaaConf.configured := by
    unfold AAAConf.configured
    dsimp only
    rw [Table.mapValues_mapValues]
  unfold loaded configured
  dsimp only
  rw [pools]

theorem returns_iff_interfaces (conf : PPPOEGlobalConf) :
    conf.Returns scalars ↔ ∀ interface ∈ conf.interfaces, interface.loaded = interface := by
  constructor
  · rintro ⟨read, decoded, same⟩ interface member
    rw [decode_encode] at decoded
    rw [← Option.some.inj decoded, configured_loaded] at same
    have interfaces : conf.interfaces.map InterfaceConf.loaded = conf.interfaces.map id := by
      rw [List.map_id]
      exact congrArg PPPOEGlobalConf.interfaces same
    exact List.map_inj_left.mp interfaces interface member
  · intro kept
    refine ⟨conf.loaded, decode_encode scalars conf, ?_⟩
    have interfaces : conf.interfaces.map InterfaceConf.loaded = conf.interfaces :=
      (List.map_congr_left kept).trans (List.map_id _)
    rw [configured_loaded, interfaces]
    rfl

/-- A configuration returns if and only if no unit of an interface is unnumbered. -/
theorem returns_iff (conf : PPPOEGlobalConf) :
    conf.Returns scalars ↔ ∀ interface ∈ conf.interfaces, ∀ unit ∈ interface.units.values,
      unit.unnumbered = [] := by
  rw [returns_iff_interfaces]
  refine forall_congr' (fun interface => forall_congr' (fun _ => ?_))
  have units : interface.loaded = interface ↔
      interface.units.mapValues InterfaceUnit.loaded = interface.units :=
    ⟨fun same => congrArg InterfaceConf.units same, fun same => by
      rw [InterfaceConf.loaded, same]⟩
  rw [units, Table.mapValues_eq_self_iff]
  refine forall_congr' (fun unit => forall_congr' (fun _ => ?_))
  exact ⟨fun same => (congrArg InterfaceUnit.unnumbered same).symm, fun empty => by
    rw [InterfaceUnit.loaded, ← empty]⟩

/-! ## What the daemon runs with -/

/-- No address is in use in a configuration that was read, whatever was in the
file. -/
theorem decoded_of_decode {node : Node} {conf : PPPOEGlobalConf}
    (read : decode scalars node = some conf) : conf.running.aaaConf.Decoded := by
  have aaa : ∃ child, AAAConf.decode scalars child = some conf.aaaConf := by
    unfold decode at read
    simp only [Option.bind_eq_bind, Option.bind_eq_some_iff] at read
    rcases read with ⟨_, _, _, _, _, _, _, _, _, _, _, _, _, _, aaaConf, isAaa, _, _, _, _, _, _, equal⟩
    rcases Option.bind_eq_some_iff.mp isAaa with ⟨child, _, decoded⟩
    rw [← Option.some.inj equal]
    exact ⟨child, decoded⟩
  rcases aaa with ⟨child, decoded⟩
  unfold AAAConf.decode at decoded
  rcases Option.bind_eq_some_iff.mp decoded with ⟨pools, isPools, later⟩
  have same : conf.aaaConf.pools = pools := by
    simp only [Option.bind_eq_bind, Option.bind_eq_some_iff] at later
    rcases later with ⟨_, _, _, _, _, _, _, _, _, _, equal⟩
    rw [← Option.some.inj equal]
  rcases Option.bind_eq_some_iff.mp isPools with ⟨table, _, isTable⟩
  intro pool member
  change pool ∈ conf.aaaConf.pools.values at member
  rw [same] at member
  rcases Node.decode_of_mem_toTable isTable member with ⟨written, isPool⟩
  unfold FramedPool.decode at isPool
  simp only [Option.bind_eq_bind, Option.bind_eq_some_iff] at isPool
  rcases isPool with ⟨_, _, _, _, equal⟩
  rw [← Option.some.inj equal]
  rfl

/-- The part that the daemon reads after its start is loaded as it was written. -/
theorem running_loaded {conf : PPPOEGlobalConf} (decoded : conf.running.aaaConf.Decoded) :
    conf.loaded.running = conf.running := by
  have pools : conf.aaaConf.pools.mapValues (fun pool => { pool with ips := ∅ }) =
      conf.aaaConf.pools := by
    refine Table.mapValues_eq_self_iff.mpr (fun pool member => ?_)
    have empty : pool.ips = ∅ := decoded pool member
    rw [← empty]
  unfold running loaded configured AAAConf.configured
  dsimp only
  rw [pools]

end PPPOEGlobalConf

end Yaml
end Pppcpd

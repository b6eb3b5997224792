import Pppcpd.Aaa.Grants
import Pppcpd.Aaa.Reuse

namespace Pppcpd

open Foundation

/-!
# When AAA admits a subscriber

AAA admits a subscriber when a request to authenticate ends in a success, either
before it returns or with an answer of the server.  Both depend on what is left
of the pools, of the session ids and of the request identifiers.  A request
identifier is free again when the server has kept silent for long enough.
-/

namespace AAA

/-- The calls report a success to the callback. -/
def Grants (callback : AAACallback) (calls : List CallbackCall) : Prop :=
  ∃ call, call ∈ calls ∧ call.callback = callback ∧ call.err = none

/-- Some request by PAP ends in a success, now or after the requests that are in
the way have timed out. -/
inductive Admits (encap : Encapsulation) (callback : AAACallback) : AAA -> Prop
  | request {aaa : AAA} : (forall inputs, ∃ started calls,
      aaa.startSession inputs [] (.pap []) encap callback = some (started, calls) ∧
        (Grants callback calls ∨ ∃ datagram, forall later, ∃ answered calls,
          started.authDatagram later datagram = some (answered, calls) ∧ Grants callback calls)) ->
      Admits encap callback aaa
  | silence {aaa after : AAA} {calls : List CallbackCall} (id : UInt8) :
      (aaa.authExpires id).authTimer id = some (after, calls) -> Admits encap callback after ->
      Admits encap callback aaa

variable {aaa : AAA} {inputs : AAAInputs} {user : Bytes} {credential : Credential}
  {encap : Encapsulation} {callback : AAACallback}

/-- A usable NONE in front of RADIUS grants every request that returns. -/
theorem grants_of_none (usable : aaa.NoneUsable) (member : .none ∈ beforeRadius aaa.conf.method)
    {out : AAA × List CallbackCall}
    (returned : aaa.startSession inputs user credential encap callback = some out) :
    Grants callback out.2 := by
  rcases startSession_front returned with ⟨first, loop, calls, _⟩
  rcases startByMethods_usable (not_mem_beforeRadius _) usable member with ⟨sid, tail, _, _, _, runs⟩
  rw [runs] at loop
  rcases Option.bind_eq_some_iff.mp loop with ⟨made, _, continued⟩
  rcases Option.map_eq_some_iff.mp continued with ⟨later, _, equal⟩
  rw [calls, ← equal]
  exact ⟨_, List.mem_cons_self, rfl, rfl⟩

/-- The loop returns when it meets one NONE in front of RADIUS that is usable and
for which there is an address. -/
theorem startSession_returns (usable : aaa.NoneUsable)
    (single : (beforeRadius aaa.conf.method).count .none = 1)
    (address : (aaa.takeAddress
      ((aaa.templates.lookup aaa.conf.localTemplate).getD {}).framedPool).isSome = true) :
    ∃ out, aaa.startSession inputs user credential encap callback = some out := by
  have noRadius := not_mem_beforeRadius aaa.conf.method
  have member : .none ∈ beforeRadius aaa.conf.method :=
    List.count_pos_iff.mp (by rw [single]; decide)
  have front : ∃ first, startByMethods inputs user credential encap callback
      (beforeRadius aaa.conf.method) aaa = some first := by
    rcases startByMethods_usable noRadius usable member with ⟨sid, tail, _, clean, count, runs⟩
    rcases Option.isSome_iff_exists.mp address with ⟨taken, isTaken⟩
    have absent : .none ∉ tail := List.count_eq_zero.mp (by omega)
    rw [runs]
    unfold constructNone
    dsimp only
    rw [isTaken, Option.map_some, Option.bind_some,
      startByMethods_idle clean (fun both => absent both.2)]
    exact ⟨_, rfl⟩
  rcases front with ⟨first, loop⟩
  unfold startSession
  rcases beforeRadius_cases aaa.conf.method with ⟨_, whole⟩ | ⟨_, rest, parts⟩
  · rw [whole]
    exact ⟨first, loop⟩
  · rw [parts, startByMethods_append _ noRadius, loop, Option.bind_some]
    exact ⟨_, rfl⟩

/-- Such a NONE admits everybody. -/
theorem admits_of_none (usable : aaa.NoneUsable)
    (single : (beforeRadius aaa.conf.method).count .none = 1)
    (address : (aaa.takeAddress
      ((aaa.templates.lookup aaa.conf.localTemplate).getD {}).framedPool).isSome = true) :
    aaa.Admits encap callback := by
  have member : .none ∈ beforeRadius aaa.conf.method :=
    List.count_pos_iff.mp (by rw [single]; decide)
  refine .request (fun inputs => ?_)
  rcases startSession_returns usable single address with ⟨⟨started, calls⟩, returned⟩
  exact ⟨started, calls, returned, .inl (grants_of_none usable member returned)⟩

/-! ## RADIUS -/

/-- An Access-Accept without attributes, with the authenticator that it should
have. -/
def acceptance (md5 : Bytes -> Bytes) (id : UInt8) (auth secret : Bytes) : Bytes :=
  [RadiusCode.accessAccept, id, 0, 20] ++
    (md5 ([RadiusCode.accessAccept, id, 0, 20] ++ auth ++ secret)).take 16

section

variable {md5 : Bytes -> Bytes} (digests : forall text, (md5 text).length = 16) (id : UInt8)
  (auth secret : Bytes)

include digests

/-- It is a packet that fits the buffer. -/
theorem acceptance_eq : acceptance md5 id auth secret =
    AuthClient.packet RadiusCode.accessAccept id
      (md5 (AuthClient.packetStart RadiusCode.accessAccept id [] ++ auth ++ [] ++ secret)) [] := by
  unfold acceptance AuthClient.packet
  rw [List.take_of_length_le (Nat.le_of_eq (digests _)), List.append_nil, List.append_nil]
  rfl

theorem whole_acceptance : AuthClient.Whole (acceptance md5 id auth secret) := by
  rw [acceptance_eq digests]
  exact AuthClient.whole_packet (digests _) _ _ (by decide)

theorem read_acceptance :
    (AuthClient.arrivedPacket (acceptance md5 id auth secret)).read 1 = id := by
  rw [acceptance_eq digests]
  exact (AuthClient.read_packet (digests _) _ _ (by decide)).1

/-- A client takes it for the answer to its request. -/
theorem expected_acceptance {Request Handler : Type} {client : AuthClient Request Handler}
    {entry : Outstanding Handler} (found : client.callbacks.lookup id = some entry) :
    AuthClient.expected md5 client (acceptance md5 id entry.auth client.secret) =
      some { id := id, handler := entry.handler, code := RadiusCode.accessAccept, attributes := [] } := by
  rw [acceptance_eq digests]
  exact AuthClient.expected_packet (digests _) _ _ (by decide) found rfl

end

/-- The entry of a request whose identifier was free. -/
theorem register_unused {client : AuthClient RadiusRequest AuthHandler}
    (unused : client.lastId + 1 ∉ client.callbacks) (request : RadiusRequest)
    (handler : AuthHandler) (authenticator bytes : Bytes) :
    (client.register request handler authenticator bytes).callbacks.lookup (client.lastId + 1) =
        some { handler := handler, auth := authenticator, wait := .armed } ∧
      (client.register request handler authenticator bytes).receives = client.receives + 1 ∧
      (client.register request handler authenticator bytes).secret = client.secret := by
  unfold AuthClient.register Table.emplace
  dsimp only
  rw [if_neg unused]
  exact ⟨AList.lookup_insert _, rfl, rfl⟩

/-- The answer to such a request is handled, when its session can be made. -/
theorem authDatagram_of_acceptance {asked : AAA} {client : AuthClient RadiusRequest AuthHandler}
    {id : UInt8} {entry : Outstanding AuthHandler} {receives : Nat} (server : asked.auth = some client)
    (found : client.callbacks.lookup id = some entry) (waits : client.receives = receives + 1)
    (digests : forall text, (asked.md5 text).length = 16) (free : asked.firstFreeId ≠ none)
    (returns : forall auth, AnswerReturns inputs entry.handler.user [] { asked with auth := auth }) :
    ∃ answered calls, asked.authDatagram inputs (acceptance asked.md5 id entry.auth client.secret) =
      some (answered, calls) ∧ Grants entry.handler.callback calls := by
  have same : { client with buf := client.buf, receives := receives + 1 } = client := by
    rw [← waits]
  have isId := read_acceptance digests id entry.auth client.secret
  rcases AuthClient.onRcv_of_whole asked.md5 inputs.behind client.buf receives
    (whole_acceptance digests id entry.auth client.secret) (isId.symm ▸ found) with ⟨filled, received⟩
  rw [same, expected_acceptance digests id found] at received
  have handled : ∃ out, processRadiusAnswer inputs entry.handler RadiusCode.accessAccept []
      { asked with auth := some { client with buf := filled, receives := receives } } = some out :=
    answerReturns_iff.mpr (returns _)
  rcases handled with ⟨out, processed⟩
  unfold authDatagram
  rw [server, Option.bind_some, received, Option.bind_some]
  dsimp only
  rw [processed]
  refine ⟨_, _, rfl, ?_⟩
  rcases processRadiusAnswer_constructs processed with ⟨full, _⟩ | ⟨sid, made, response, _, _, _, same⟩
  · exact absurd full free
  · rw [same]
    exact ⟨_, List.mem_append_right _ List.mem_cons_self, rfl, rfl⟩

/-- A session without a setting of the server takes those of the template. -/
theorem constructRadius_plain (address : (aaa.takeAddress
      ((aaa.templates.lookup aaa.conf.localTemplate).getD {}).framedPool).isSome = true)
    (ifindex sid : UInt32) (user : Bytes) :
    (aaa.constructRadius ifindex sid user aaa.conf.localTemplate {}).isSome = true := by
  unfold constructRadius
  rw [Option.isSome_map]
  dsimp only
  rw [if_pos rfl, if_pos rfl]
  split
  · exact address
  · rfl

/-- A server that can be asked admits everybody, when no NONE in front of RADIUS
takes the request, an id is free, there is an accounting server, and there is an
address for an answer that brings none. -/
theorem admits_of_radius {client : AuthClient RadiusRequest AuthHandler}
    (listed : .radius ∈ aaa.conf.method)
    (unusable : ¬ (aaa.NoneUsable ∧ .none ∈ beforeRadius aaa.conf.method))
    (server : aaa.auth = some client) (unused : client.lastId + 1 ∉ client.callbacks)
    (digests : forall text, (aaa.md5 text).length = 16) (id : aaa.firstFreeId ≠ none)
    (acct : aaa.acct ≠ none)
    (address : (aaa.takeAddress
      ((aaa.templates.lookup aaa.conf.localTemplate).getD {}).framedPool).isSome = true) :
    aaa.Admits encap callback := by
  refine .request (fun inputs => ?_)
  have asked : aaa.startSession inputs [] (.pap []) encap callback =
      some (aaa.startSessionRadius inputs [] (.pap []) encap callback, []) := by
    unfold startSession
    rcases beforeRadius_cases aaa.conf.method with ⟨absent, _⟩ | ⟨_, rest, parts⟩
    · exact absurd listed absent
    · rw [parts, startByMethods_append _ (not_mem_beforeRadius _),
        startByMethods_idle (not_mem_beforeRadius _) unusable]
      rfl
  rcases register_unused unused (radiusRequest [] (.pap []) encap) { callback := callback, user := [] }
    inputs.authenticator (AuthClient.packet RadiusCode.accessRequest (client.lastId + 1)
      inputs.authenticator ((radiusRequest [] (.pap []) encap).serialize aaa.md5 aaa.dict
        inputs.authenticator client.secret)) with ⟨found, waits, _⟩
  have auth : (aaa.startSessionRadius inputs [] (.pap []) encap callback).auth =
      some (client.request aaa.md5 aaa.dict inputs.authenticator (radiusRequest [] (.pap []) encap)
        { callback := callback, user := [] }) := by
    unfold startSessionRadius
    rw [server]
    rfl
  refine ⟨_, _, asked, .inr ⟨_, fun later => authDatagram_of_acceptance auth found waits digests id ?_⟩⟩
  intro other
  refine ⟨{}, rfl, fun sid _ => ⟨acct, ?_⟩⟩
  refine @constructRadius_plain { aaa with auth := other } ?_ later.ifindex sid []
  rw [takeAddress_withAuth, Option.isSome_map]
  exact address

end AAA

end Pppcpd

import Pppcpd.Aaa.Aaa
import Pppcpd.Foundation.Md5
import Pppcpd.Foundation.Run

namespace Pppcpd

open Foundation

/-!
# The events of AAA

The calls that the rest of the daemon makes into AAA, and the completions of
its own asynchronous operations: datagrams, time-outs of requests and interim
timers.  They can come in any order.
-/

inductive AAAEvent
  | startSession (inputs : AAAInputs) (user : Bytes) (credential : Credential)
      (encap : Encapsulation) (callback : AAACallback)
  | stopSession (counters : Table UInt32 VPPIfaceCounters) (sid : UInt32)
  | stopAllSessions (counters : Table UInt32 VPPIfaceCounters)
  | mapIfaceToSession (sid ifindex : UInt32)
  | authDatagram (inputs : AAAInputs) (datagram : Bytes)
  | authExpires (id : UInt8)
  | authTimer (id : UInt8)
  | acctDatagram (inputs : AAAInputs) (datagram : Bytes)
  | acctExpires (id : UInt8)
  | acctTimer (id : UInt8)
  | interimExpires (session : Nat)
  | interimTimer (counters : Table UInt32 VPPIfaceCounters) (session index : Nat)
  | reload (conf : AAAConf) (templates : Table Bytes PPPOELocalTemplate)

/-- The events that belong to accounting, to time alone, or to a reload.  They
neither make nor stop a session and call nobody back. -/
def AAAEvent.Quiet : AAAEvent -> Prop
  | .authExpires _ | .acctDatagram _ _ | .acctExpires _ | .acctTimer _ | .interimExpires _
  | .interimTimer _ _ _ | .reload _ _ => True
  | _ => False

namespace AAA

/-- One event.  The callback calls it makes are left to the caller. -/
def step (aaa : AAA) : AAAEvent -> Option AAA
  | .startSession inputs user credential encap callback =>
      (aaa.startSession inputs user credential encap callback).map Prod.fst
  | .stopSession counters sid => some (aaa.stopSession counters sid)
  | .stopAllSessions counters => some (aaa.stopAllSessions counters)
  | .mapIfaceToSession sid ifindex => some (aaa.mapIfaceToSession sid ifindex)
  | .authDatagram inputs datagram => (aaa.authDatagram inputs datagram).map Prod.fst
  | .authExpires id => some (aaa.authExpires id)
  | .authTimer id => (aaa.authTimer id).map Prod.fst
  | .acctDatagram inputs datagram => aaa.acctDatagram inputs datagram
  | .acctExpires id => some (aaa.acctExpires id)
  | .acctTimer id => aaa.acctTimer id
  | .interimExpires ref => some (aaa.interimExpires ref)
  | .interimTimer counters ref index => aaa.interimTimer counters ref index
  | .reload conf templates => if conf.Decoded then some (aaa.reload conf templates) else none

/-- One event with the callback calls that it makes. -/
def serve (aaa : AAA) : AAAEvent -> Option (AAA × List CallbackCall)
  | .startSession inputs user credential encap callback =>
      aaa.startSession inputs user credential encap callback
  | .authDatagram inputs datagram => aaa.authDatagram inputs datagram
  | .authTimer id => aaa.authTimer id
  | event => (aaa.step event).map (·, [])

theorem step_of_serve {aaa : AAA} {event : AAAEvent} {outcome : AAA × List CallbackCall}
    (served : aaa.serve event = some outcome) : aaa.step event = some outcome.1 := by
  unfold serve at served
  split at served
  · rw [step, served, Option.map_some]
  · rw [step, served, Option.map_some]
  · rw [step, served, Option.map_some]
  · rcases Option.map_eq_some_iff.mp served with ⟨after, taken, equal⟩
    rw [taken, ← equal]

/-- The quiet events call nobody. -/
theorem calls_of_quiet {aaa : AAA} {event : AAAEvent} {outcome : AAA × List CallbackCall}
    (quiet : event.Quiet) (served : aaa.serve event = some outcome) : outcome.2 = [] := by
  unfold serve at served
  split at served
  · exact quiet.elim
  · exact quiet.elim
  · exact quiet.elim
  · rcases Option.map_eq_some_iff.mp served with ⟨after, _, equal⟩
    rw [← equal]

end AAA

/-! ## AAA of small runs -/

namespace AAA

/-- One pool of eleven addresses. -/
def sampleConf (method : List AAAMethod) : AAAConf where
  method := method
  localTemplate := ascii "t"
  pools := (∅ : Table Bytes FramedPool).insert (ascii "p") { startIp := 10, stopIp := 20 }

/-- One template that names the pool. -/
def sampleTemplates : Table Bytes PPPOELocalTemplate :=
  (∅ : Table Bytes PPPOELocalTemplate).insert (ascii "t") { framedPool := ascii "p" }

theorem sampleConf_decoded (method : List AAAMethod) : (sampleConf method).Decoded := by
  intro pool member
  rcases Table.mem_values_iff.mp member with ⟨key, found⟩
  rw [sampleConf, Table.lookup_insert_eq] at found
  split at found
  · rw [← Option.some.inj found]
    rfl
  · cases found

def sampleSecret : Bytes := ascii "secret"

/-- AAA with one server of each kind. -/
def sample (method : List AAAMethod) : AAA where
  conf := sampleConf method
  templates := sampleTemplates
  md5 := MD5.digest
  auth := some { secret := sampleSecret }
  acct := some { secret := sampleSecret }

/-- The answer of a server to a request, with the authenticator it should have. -/
def answerTo (request : Bytes) (code : UInt8) (attributes : Bytes) : Bytes :=
  let header := [code, request.getD 1 0] ++
    bytes16 (UInt16.ofNat (AuthClient.sizeofRadiusPacket + attributes.length))
  let digest := MD5.digest (header ++ (request.drop 4).take 16 ++ attributes ++ sampleSecret)
  header ++ digest ++ attributes

/-- The answer to a request that a client has sent, by its number. -/
def answerFor {Request Handler : Type} (client : Option (AuthClient Request Handler)) (number : Nat)
    (code : UInt8) : Bytes :=
  answerTo (((client.bind (fun client => client.sent[number]?)).map SentRequest.bytes).getD []) code []

/-- Inputs with a full authenticator. -/
def sampleInputs : AAAInputs := { authenticator := List.replicate 16 0 }

end AAA

end Pppcpd

import Pppcpd.Aaa.Methods
import Pppcpd.Aaa.Neighbours

namespace Pppcpd

open Foundation

/-!
# The address that a new session gets

Which address the constructor of an AAA session takes is settled before it runs:
the one in the answer of the server, or the next one of a pool.
-/

namespace AAA

/-- The next session of the pool gets the address. -/
def NextOf (aaa : AAA) (pool : Bytes) (address : UInt32) : Prop :=
  ∀ taken ∈ aaa.takeAddress pool, taken.1.1 = address

/-- A session that NONE makes gets the address. -/
def NoneGives (aaa : AAA) (address : UInt32) : Prop :=
  aaa.NextOf ((aaa.templates.lookup aaa.conf.localTemplate).getD {}).framedPool address

/-- A session that an answer of the server makes gets the address. -/
def RadiusGives (aaa : AAA) (response : RadiusResponse) (address : UInt32) : Prop :=
  let name := if response.pppoeTemplate = [] then aaa.conf.localTemplate else response.pppoeTemplate
  let template := (aaa.templates.lookup name).getD {}
  let pool := if response.framedPool = [] then template.framedPool else response.framedPool
  if response.framedIp = 0 ∧ pool ≠ [] then aaa.NextOf pool address else response.framedIp = address

instance (aaa : AAA) (pool : Bytes) (address : UInt32) : Decidable (aaa.NextOf pool address) :=
  inferInstanceAs (Decidable (∀ taken ∈ aaa.takeAddress pool, _))

instance (aaa : AAA) (address : UInt32) : Decidable (aaa.NoneGives address) :=
  inferInstanceAs (Decidable (aaa.NextOf _ address))

instance (aaa : AAA) (response : RadiusResponse) (address : UInt32) :
    Decidable (aaa.RadiusGives response address) := by
  unfold RadiusGives
  infer_instance

/-- The newest object has the address. -/
def Newest (aaa made : AAA) (address : UInt32) : Prop :=
  ∃ record, made.objects.deref aaa.objects.length = some record ∧ record.address = address

theorem objects_of_takeAddress {aaa : AAA} {pool : Bytes} {taken : (UInt32 × Bool) × AAA}
    (took : aaa.takeAddress pool = some taken) : taken.2.objects = aaa.objects := by
  unfold takeAddress at took
  split at took
  · rw [← Option.some.inj took]
  · rcases Option.map_eq_some_iff.mp took with ⟨_, _, equal⟩
    rw [← equal]

theorem newest_makeObject {aaa taken : AAA} (same : taken.objects = aaa.objects)
    (session : AAASession) : Newest aaa (taken.makeObject session) session.address := by
  refine ⟨session, ?_, rfl⟩
  unfold makeObject
  dsimp only
  rw [same, Heap.deref_make, if_pos rfl]

theorem constructNone_gives {aaa made : AAA} {ifindex sid address : UInt32} {user : Bytes}
    (gives : aaa.NoneGives address)
    (construction : aaa.constructNone ifindex sid user aaa.conf.localTemplate = some made) :
    Newest aaa made address := by
  rcases Option.map_eq_some_iff.mp construction with ⟨taken, took, equal⟩
  have same : taken.1.1 = address := gives taken took
  rw [← equal, ← same]
  exact newest_makeObject (objects_of_takeAddress took) _

theorem constructRadius_gives {aaa made : AAA} {ifindex sid address : UInt32} {user : Bytes}
    {response : RadiusResponse} (gives : aaa.RadiusGives response address)
    (construction : aaa.constructRadius ifindex sid user aaa.conf.localTemplate response =
      some made) : Newest aaa made address := by
  rcases Option.map_eq_some_iff.mp construction with ⟨taken, took, equal⟩
  have both : taken.1.1 = address ∧ taken.2.objects = aaa.objects := by
    unfold RadiusGives at gives
    by_cases fromPool : response.framedIp = 0 ∧
        (if response.framedPool = [] then
          ((aaa.templates.lookup
            (if response.pppoeTemplate = [] then aaa.conf.localTemplate
              else response.pppoeTemplate)).getD {}).framedPool
          else response.framedPool) ≠ []
    · rw [if_pos fromPool] at took
      dsimp only at gives
      rw [if_pos fromPool] at gives
      exact ⟨gives taken took, objects_of_takeAddress took⟩
    · rw [if_neg fromPool] at took
      dsimp only at gives
      rw [if_neg fromPool] at gives
      rw [← Option.some.inj took]
      exact ⟨gives, rfl⟩
  rw [← equal, ← both.1]
  exact newest_makeObject both.2 _

/-! ## What a start and an answer announce -/

theorem takeAddress_withAuth (aaa : AAA) (auth : Option (AuthClient RadiusRequest AuthHandler))
    (pool : Bytes) : takeAddress { aaa with auth := auth } pool =
      (aaa.takeAddress pool).map (fun taken => (taken.1, { taken.2 with auth := auth })) := by
  unfold takeAddress
  cases aaa.conf.pools.lookup pool with
  | none => rfl
  | some found =>
      rw [Option.map_map]
      rfl

theorem NextOf.withAuth {aaa : AAA} {pool : Bytes} {address : UInt32}
    (next : aaa.NextOf pool address) (auth : Option (AuthClient RadiusRequest AuthHandler)) :
    NextOf { aaa with auth := auth } pool address := by
  intro taken took
  rw [takeAddress_withAuth] at took
  rcases Option.map_eq_some_iff.mp took with ⟨same, earlier, equal⟩
  rw [← equal]
  exact next same earlier

theorem RadiusGives.withAuth {aaa : AAA} {response : RadiusResponse} {address : UInt32}
    (gives : aaa.RadiusGives response address)
    (auth : Option (AuthClient RadiusRequest AuthHandler)) :
    RadiusGives { aaa with auth := auth } response address := by
  have either : forall (fromPool : Prop) [Decidable fromPool] (pool : Bytes),
      (if fromPool then aaa.NextOf pool address else response.framedIp = address) ->
        if fromPool then NextOf { aaa with auth := auth } pool address
        else response.framedIp = address := by
    intro fromPool _ pool given
    split
    · rename_i isFrom
      rw [if_pos isFrom] at given
      exact given.withAuth auth
    · rename_i notFrom
      rw [if_neg notFrom] at given
      exact given
  exact either _ _ gives

theorem start_objects (aaa : AAA) (ref : Nat) : (aaa.start ref).objects = aaa.objects := by
  simp only [start]
  split
  · rfl
  · split <;> rfl

/-- The session that is announced is the newest object. -/
theorem getSession_newest {aaa after : AAA} {sid address : UInt32}
    (sessions : after.sessions.lookup sid = some aaa.objects.length)
    (newest : Newest aaa after address) :
    ∃ record, after.getSession sid = some record ∧ record.address = address := by
  rcases newest with ⟨record, found, equal⟩
  exact ⟨record, Option.bind_eq_some_iff.mpr ⟨_, sessions, found⟩, equal⟩

/-- The one session that a start makes gets the next address. -/
theorem startSession_gives {aaa : AAA} {inputs : AAAInputs} {user : Bytes} {credential : Credential}
    {encap : Encapsulation} {callback : AAACallback} {out : AAA × List CallbackCall}
    {address : UInt32}
    (gives : aaa.NoneUsable -> .none ∈ beforeRadius aaa.conf.method ->
      aaa.NoneGives address ∧ ((beforeRadius aaa.conf.method).count .none = 1 ∨ aaa.LastId))
    (started : aaa.startSession inputs user credential encap callback = some out) :
    forall call, call ∈ out.2 ->
      ∃ record, out.1.getSession call.sid = some record ∧ record.address = address := by
  intro call member
  rcases startSession_of_single (fun usable isNone => (gives usable isNone).2) started with
    ⟨silent, _⟩ | ⟨usable, isNone, sid, made, construction, single, sessions, objects⟩
  · rw [silent] at member
    cases member
  · rw [single] at member
    rw [List.mem_singleton.mp member]
    refine getSession_newest (by rw [sessions]; exact AList.lookup_insert _) ?_
    unfold Newest
    rw [objects]
    exact constructNone_gives (gives usable isNone).1 construction

theorem callback_of_processRadiusAnswer {aaa : AAA} {inputs : AAAInputs} {handler : AuthHandler}
    {code : UInt8} {attributes : Bytes} {out : AAA × List CallbackCall}
    (processed : aaa.processRadiusAnswer inputs handler code attributes = some out)
    {call : CallbackCall} (member : call ∈ out.2) : call.callback = handler.callback := by
  rcases processRadiusAnswer_constructs processed with ⟨_, full⟩ | ⟨_, _, _, _, _, _, same⟩
  · rw [full] at member
    rcases List.mem_append.mp member with refused | last
    · exact (callback_of_noAccept refused).1
    · rw [List.mem_singleton.mp last]
  · rw [same] at member
    rcases List.mem_append.mp member with refused | last
    · exact (callback_of_noAccept refused).1
    · rw [List.mem_singleton.mp last]

/-- The session that an answer makes gets the address of the answer, or the next
one of its pool. -/
theorem processRadiusAnswer_gives {aaa : AAA} {inputs : AAAInputs} {handler : AuthHandler}
    {code : UInt8} {attributes : Bytes} {out : AAA × List CallbackCall} {address : UInt32}
    (gives : aaa.firstFreeId ≠ none -> ∀ response ∈ RadiusResponse.deserialize aaa.dict
      { bytes := attributes, behind := inputs.behind } inputs.vendor,
        aaa.RadiusGives response address)
    (processed : aaa.processRadiusAnswer inputs handler code attributes = some out) :
    forall call, call ∈ out.2 -> call.err = none ->
      ∃ record, out.1.getSession call.sid = some record ∧ record.address = address := by
  intro call member success
  rcases processRadiusAnswer_constructs processed with
    ⟨_, full⟩ | ⟨sid, made, response, free, parsed, construction, same⟩
  · rw [full] at member
    rcases List.mem_append.mp member with refused | last
    · exact absurd success (callback_of_noAccept refused).2
    · rw [List.mem_singleton.mp last] at success
      cases success
  · rw [same] at member ⊢
    rcases List.mem_append.mp member with refused | last
    · exact absurd success (callback_of_noAccept refused).2
    · rw [List.mem_singleton.mp last]
      refine @getSession_newest aaa _ _ _ ?_ ?_
      · dsimp only
        rw [start_sessions]
        exact AList.lookup_insert _
      · have newest : Newest aaa made address := constructRadius_gives
          (gives (free ▸ Option.some_ne_none sid) response parsed) construction
        unfold Newest
        dsimp only
        rw [start_objects]
        exact newest

end AAA

end Pppcpd

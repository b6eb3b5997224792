import Pppcpd.Runtime.Step
import Pppcpd.Wire.Headers

namespace Pppcpd

open Foundation

/-!
# From a frame to its handler

`generic_receive` prints a frame, reads its Ethernet header and its tags, and
dispatches on the type behind them.  Only the length of the Ethernet header is
checked, and without it the constructor returns before it has set the type.
`touches` lists the bytes that are read, written or erased on the way to the
handler, counted from the start of the frame.
-/

namespace Encapsulation

/-- How many bytes the Ethernet header and the tags of a frame take. -/
def headersLength (frame : Buffer) : Nat := (parseHeaders 0 0 frame).1

/-- The type of what follows them. -/
def payloadType (frame : Buffer) : UInt16 := (parseHeaders 0 0 frame).2.2.2

/-- The type field, if the constructor sets it. -/
def setType (frame : Buffer) : Option UInt16 :=
  if frame.bytes.length < sizeofEthernetHdr then none else some (payloadType frame)

/-- The encapsulation of a frame with complete headers. -/
def linkOf (outer inner : UInt16) (frame : Buffer) : Encapsulation :=
  let found := parseHeaders outer inner frame
  ⟨macAt frame 6, macAt frame 0, found.2.1, found.2.2.1, found.2.2.2⟩

/-- The bytes that the constructor reads, and then erases. -/
def touches (frame : Buffer) : List Nat :=
  if frame.bytes.length < sizeofEthernetHdr then [] else List.range (headersLength frame)

/-- What `PacketPrint` reads of a PPPoE header. -/
def printPayloadTouches (start : Nat) (type : UInt16) : List Nat :=
  if type = ethPppoeDiscovery then [start + 1]
  else if type = ethPppoeSession then [start + 2, start + 3, start + 6, start + 7]
  else []

/-- The bytes that `PacketPrint` reads: it looks behind one tag, but not behind two. -/
def printTouches (frame : Buffer) : List Nat :=
  if frame.field16 12 = ethVlan then List.range 18 ++ printPayloadTouches 18 (frame.field16 16)
  else List.range 14 ++ printPayloadTouches 14 (frame.field16 12)

theorem parseHeaders_fst (outer inner : UInt16) (frame : Buffer) :
    (parseHeaders outer inner frame).1 = headersLength frame := by
  unfold headersLength parseHeaders
  split
  · split <;> rfl
  · rfl

theorem type_linkOf (outer inner : UInt16) (frame : Buffer) :
    (linkOf outer inner frame).type = payloadType frame := by
  unfold linkOf payloadType parseHeaders
  split
  · split <;> rfl
  · rfl

theorem construct_of_complete (type outer inner : UInt16) {frame : Buffer} (complete : Complete frame) :
    construct type outer inner frame =
      some (linkOf outer inner frame, frame.drop (headersLength frame)) := by
  have length := parseHeaders_fst outer inner frame
  have fits : (parseHeaders outer inner frame).1 ≤ frame.bytes.length := length ▸ complete.2
  rw [← length]
  unfold construct
  rw [if_neg (Nat.not_lt.mpr complete.1)]
  dsimp only
  rw [if_pos fits]
  rfl

/-- The frame has two tags. -/
def TwiceTagged (frame : Buffer) : Prop := frame.field16 12 = ethVlan ∧ frame.field16 16 = ethVlan

instance (frame : Buffer) : Decidable (TwiceTagged frame) := inferInstanceAs (Decidable (_ ∧ _))

theorem mem_printTouches_twice {frame : Buffer} (twice : TwiceTagged frame) {index : Nat}
    (member : index ∈ printTouches frame) : index < headersLength frame := by
  have length : headersLength frame = 22 := by
    unfold headersLength parseHeaders
    rw [if_pos twice.1, if_pos twice.2]
  unfold printTouches at member
  rw [if_pos twice.1, twice.2] at member
  rcases List.mem_append.mp member with within | beyond
  · have below := List.mem_range.mp within
    omega
  · cases beyond

/-- Up to one tag, the headers are printed and what comes first behind them. -/
theorem printTouches_of_not_twice {frame : Buffer} (once : ¬ TwiceTagged frame) :
    printTouches frame = List.range (headersLength frame) ++
      printPayloadTouches (headersLength frame) (payloadType frame) := by
  unfold printTouches headersLength payloadType parseHeaders
  by_cases tagged : frame.field16 12 = ethVlan
  · rw [if_pos tagged, if_pos tagged, if_neg (fun again => once ⟨tagged, again⟩)]
  · rw [if_neg tagged, if_neg tagged]

end Encapsulation

/-- What the checks of `processPPPOE` and `processPPP` hand a packet to. -/
inductive Handler
  | padi
  | padr
  | padt (sessionId : UInt16)
  | session (ref : Nat)
  deriving DecidableEq

namespace Discovery

/-- The handler of a discovery packet.  Only PADI and PADR have their length checked. -/
def handler (packet : Packet) : Option Handler :=
  if packet.pppoeCode = PPPOECode.padi then
    if packet.bytes.length < sizeofPPPOEDiscHdr then none else some .padi
  else if packet.pppoeCode = PPPOECode.padr then
    if packet.bytes.length < sizeofPPPOEDiscHdr then none else some .padr
  else if packet.pppoeCode = PPPOECode.padt then some (.padt packet.pppoeSessionId)
  else none

/-- The bytes of a discovery packet that are read, or erased before its tags. -/
def touches (packet : Packet) : List Nat :=
  1 :: if packet.pppoeCode = PPPOECode.padt then [2, 3]
    else if (packet.pppoeCode = PPPOECode.padi ∨ packet.pppoeCode = PPPOECode.padr) ∧
        sizeofPPPOEDiscHdr ≤ packet.bytes.length then List.range sizeofPPPOEDiscHdr
    else []

end Discovery

namespace Runtime

/-- The session that `processPPP` finds for a packet. -/
def activeOf (encap : Encapsulation) (packet : Packet) (runtime : Runtime) : Option Nat :=
  runtime.store.activeSessions.lookup (frameKey encap packet)

/-- The code of the PPP packet is read, or written by the default case.  An automaton
that is not started returns before. -/
def reachesCode (env : Env) (ref : Nat) (packet : Packet) (runtime : Runtime) : Bool :=
  match (runtime.ensureStarted env ref).sessions.deref ref with
  | none => false
  | some session =>
      if packet.pppProtocol = PPPProto.lcp then
        session.lcp.state ≠ .initial ∧ session.lcp.state ≠ .starting
      else if packet.pppProtocol = PPPProto.ipcp then
        session.ipcp.state ≠ .initial ∧ session.ipcp.state ≠ .starting
      else true

/-- The bytes of a session packet that are read, or written, up to the PPP header. -/
def sessionTouches (env : Env) (encap : Encapsulation) (packet : Packet) (runtime : Runtime) :
    List Nat :=
  [2, 3] ++
    match runtime.activeOf encap packet with
    | none => []
    | some ref => [6, 7] ++ if runtime.reachesCode env ref packet then [8] else []

/-- `generic_receive`.  An error is logged only. -/
def genericReceive (env : Env) (type outer inner : UInt16) (frame : Buffer) (runtime : Runtime) :
    Option (Runtime × Option String) :=
  (Encapsulation.construct type outer inner frame).bind (fun received =>
    if received.1.type = ethPppoeDiscovery then runtime.processPPPOE env received.1 received.2
    else if received.1.type = ethPppoeSession then runtime.processPPP env received.1 received.2
    else some (runtime, none))

/-- The handler that a frame is handed to, if the checks before it let it through. -/
def handler (type outer inner : UInt16) (frame : Buffer) (runtime : Runtime) : Option Handler :=
  (Encapsulation.construct type outer inner frame).bind (fun received =>
    if received.1.type = ethPppoeDiscovery then Discovery.handler received.2
    else if received.1.type = ethPppoeSession then
      (runtime.activeOf received.1 received.2).map .session
    else none)

/-- The bytes behind the erased ones that are touched. -/
def packetTouches (env : Env) (encap : Encapsulation) (packet : Packet) (runtime : Runtime) :
    List Nat :=
  if encap.type = ethPppoeDiscovery then Discovery.touches packet
  else if encap.type = ethPppoeSession then runtime.sessionTouches env encap packet
  else []

/-- All bytes of a frame that are touched on the way to its handler. -/
def touches (printed : Bool) (env : Env) (type outer inner : UInt16) (frame : Buffer)
    (runtime : Runtime) : List Nat :=
  (if printed then Encapsulation.printTouches frame else []) ++ Encapsulation.touches frame ++
    match Encapsulation.construct type outer inner frame with
    | none => []
    | some (encap, packet) =>
        (runtime.packetTouches env encap packet).map (frame.bytes.length - packet.bytes.length + ·)

/-- The size of the headers that a frame announces: Ethernet, tags, and behind them
PPPoE or PPPoE and PPP. -/
def announced (frame : Buffer) : Nat :=
  if frame.bytes.length < sizeofEthernetHdr then sizeofEthernetHdr
  else Encapsulation.headersLength frame +
    if Encapsulation.payloadType frame = ethPppoeDiscovery then sizeofPPPOEDiscHdr
    else if Encapsulation.payloadType frame = ethPppoeSession then
      sizeofPPPOESessionHdr + sizeofPPPLcp
    else 0

/-- Only bytes of the frame are touched, the type that is dispatched on was set, and
a frame without the headers that it announces gets to no handler. -/
structure ReceptionLaw (printed : Bool) (env : Env) (type outer inner : UInt16) (frame : Buffer)
    (runtime : Runtime) : Prop where
  inside : ∀ index ∈ runtime.touches printed env type outer inner frame, index < frame.bytes.length
  typed : Encapsulation.setType frame ≠ none
  dropped : frame.bytes.length < announced frame -> runtime.handler type outer inner frame = none

/-- A packet of a discovery frame has its code, and a PADT the whole header. -/
def DiscoverySized (packet : Packet) : Prop :=
  2 ≤ packet.bytes.length ∧
    (packet.pppoeCode = PPPOECode.padt -> sizeofPPPOEDiscHdr ≤ packet.bytes.length)

/-- A packet of a session frame has its session id, and both headers when the session
is there. -/
def SessionSized (encap : Encapsulation) (packet : Packet) (runtime : Runtime) : Prop :=
  4 ≤ packet.bytes.length ∧
    (runtime.activeOf encap packet ≠ none ->
      sizeofPPPOESessionHdr + sizeofPPPLcp ≤ packet.bytes.length)

/-- The frame is long enough for what is done with it. -/
structure Sized (printed : Bool) (outer inner : UInt16) (frame : Buffer) (runtime : Runtime) :
    Prop where
  complete : Encapsulation.Complete frame
  discovery : Encapsulation.payloadType frame = ethPppoeDiscovery ->
    DiscoverySized (frame.drop (Encapsulation.headersLength frame))
  session : Encapsulation.payloadType frame = ethPppoeSession ->
    runtime.SessionSized (Encapsulation.linkOf outer inner frame)
      (frame.drop (Encapsulation.headersLength frame))
  print : printed = true -> ¬ Encapsulation.TwiceTagged frame ->
    Encapsulation.payloadType frame = ethPppoeSession ->
      Encapsulation.headersLength frame + sizeofPPPOESessionHdr ≤ frame.bytes.length

/-- A frame that gets to no handler leaves the daemon as it is. -/
theorem genericReceive_of_dropped {env : Env} {type outer inner : UInt16} {frame : Buffer}
    {runtime : Runtime} {received : Encapsulation × Buffer}
    (constructed : Encapsulation.construct type outer inner frame = some received)
    (dropped : runtime.handler type outer inner frame = none) :
    ∃ err, runtime.genericReceive env type outer inner frame = some (runtime, err) := by
  unfold handler at dropped
  unfold genericReceive
  rw [constructed, Option.bind_some] at dropped
  rw [constructed, Option.bind_some]
  split at dropped
  · rename_i discovery
    rw [if_pos discovery]
    unfold Discovery.handler at dropped
    unfold processPPPOE
    split at dropped
    · rename_i isPadi
      rw [if_pos isPadi]
      split at dropped
      · rename_i short
        refine ⟨some "Too small packet", ?_⟩
        unfold processPadi padoTags Discovery.tagsOf Discovery.payload
        rw [if_pos short]
        rfl
      · cases dropped
    · rename_i notPadi
      rw [if_neg notPadi]
      split at dropped
      · rename_i isPadr
        rw [if_pos isPadr]
        split at dropped
        · rename_i short
          refine ⟨some "Too small packet", ?_⟩
          unfold processPadr Discovery.tagsOf Discovery.payload
          rw [if_pos short]
          rfl
        · cases dropped
      · rename_i notPadr
        split at dropped
        · cases dropped
        · rename_i notPadt
          rw [if_neg notPadr, if_neg notPadt]
          exact ⟨_, rfl⟩
  · rename_i other
    rw [if_neg other]
    split at dropped
    · rename_i session
      rw [if_pos session]
      have missing := Option.map_eq_none_iff.mp dropped
      unfold activeOf at missing
      unfold processPPP
      rw [missing]
      exact ⟨none, rfl⟩
    · rename_i unknown
      rw [if_neg unknown]
      exact ⟨none, rfl⟩

/-! ## Which frames stay inside -/

theorem length_drop (frame : Buffer) (count : Nat) :
    (frame.drop count).bytes.length = frame.bytes.length - count := List.length_drop

theorem discoverySized_iff (packet : Packet) :
    (∀ index ∈ Discovery.touches packet, index < packet.bytes.length) ∧
        (packet.bytes.length < sizeofPPPOEDiscHdr -> Discovery.handler packet = none) ↔
      DiscoverySized packet := by
  constructor
  · rintro ⟨inside, dropped⟩
    refine ⟨inside 1 List.mem_cons_self, fun isPadt => ?_⟩
    refine Nat.le_of_not_lt (fun short => ?_)
    have none := dropped short
    unfold Discovery.handler at none
    rw [isPadt, if_neg (by decide), if_neg (by decide), if_pos rfl] at none
    cases none
  · rintro ⟨code, padt⟩
    constructor
    · intro index member
      unfold Discovery.touches at member
      rcases List.mem_cons.mp member with first | more
      · omega
      · split at more
        · rename_i isPadt
          have whole : 6 ≤ packet.bytes.length := padt isPadt
          simp only [List.mem_cons, List.not_mem_nil, or_false] at more
          omega
        · split at more
          · rename_i erased
            exact Nat.lt_of_lt_of_le (List.mem_range.mp more) erased.2
          · cases more
    · intro short
      unfold Discovery.handler
      rw [if_pos short, if_neg (fun isPadt => Nat.not_lt.mpr (padt isPadt) short)]
      split
      · rfl
      · exact ite_self none

theorem sessionSized_iff (env : Env) (encap : Encapsulation) (packet : Packet) (runtime : Runtime) :
    (∀ index ∈ runtime.sessionTouches env encap packet, index < packet.bytes.length) ∧
        (packet.bytes.length < sizeofPPPOESessionHdr + sizeofPPPLcp ->
          (runtime.activeOf encap packet).map Handler.session = none) ↔
      runtime.SessionSized encap packet := by
  constructor
  · rintro ⟨inside, dropped⟩
    have id := inside 3 (List.mem_append_left _ (by decide))
    refine ⟨id, fun active => Nat.le_of_not_lt (fun short => ?_)⟩
    exact active (Option.map_eq_none_iff.mp (dropped short))
  · rintro ⟨id, whole⟩
    constructor
    · intro index member
      unfold sessionTouches at member
      rcases List.mem_append.mp member with key | more
      · simp only [List.mem_cons, List.not_mem_nil, or_false] at key
        omega
      · split at more
        · cases more
        · rename_i ref found
          have headers : 8 + 4 ≤ packet.bytes.length := whole (found ▸ Option.some_ne_none ref)
          rcases List.mem_append.mp more with proto | code
          · simp only [List.mem_cons, List.not_mem_nil, or_false] at proto
            omega
          · split at code
            · have isCode := List.mem_singleton.mp code
              omega
            · cases code
    · intro short
      refine Option.map_eq_none_iff.mpr (of_not_not (fun active => ?_))
      exact Nat.not_lt.mpr (whole active) short

/-- Behind complete headers, what is touched lies inside when the printed bytes and
those of the packet do. -/
theorem inside_touches_iff (printed : Bool) (env : Env) (type outer inner : UInt16) {frame : Buffer}
    (runtime : Runtime) (complete : Encapsulation.Complete frame) :
    (∀ index ∈ runtime.touches printed env type outer inner frame, index < frame.bytes.length) ↔
      (printed = true -> ∀ index ∈ Encapsulation.printTouches frame, index < frame.bytes.length) ∧
        let packet := frame.drop (Encapsulation.headersLength frame)
        ∀ index ∈ runtime.packetTouches env (Encapsulation.linkOf outer inner frame) packet,
          index < packet.bytes.length := by
  have size := length_drop frame (Encapsulation.headersLength frame)
  have fits : Encapsulation.headersLength frame ≤ frame.bytes.length := complete.2
  unfold touches
  rw [Encapsulation.construct_of_complete type outer inner complete]
  dsimp only
  rw [List.forall_mem_append, List.forall_mem_append, size, Nat.sub_sub_self fits,
    List.forall_mem_map]
  have headers : ∀ index ∈ Encapsulation.touches frame, index < frame.bytes.length := by
    intro index member
    unfold Encapsulation.touches at member
    rw [if_neg (Nat.not_lt.mpr complete.1)] at member
    exact Nat.lt_of_lt_of_le (List.mem_range.mp member) fits
  constructor
  · rintro ⟨⟨print, _⟩, packet⟩
    refine ⟨fun on => ?_, fun index member => ?_⟩
    · rw [if_pos on] at print
      exact print
    · have moved := packet index member
      omega
  · rintro ⟨print, packet⟩
    refine ⟨⟨?_, headers⟩, fun index member => ?_⟩
    · split
      · rename_i on
        exact print on
      · exact fun _ member => absurd member List.not_mem_nil
    · have within := packet index member
      omega

/-- Printing stays inside too, unless the PPPoE header of a session packet is cut. -/
theorem inside_printTouches_iff {frame : Buffer} (complete : Encapsulation.Complete frame)
    (discovery : Encapsulation.payloadType frame = ethPppoeDiscovery ->
      Encapsulation.headersLength frame + 2 ≤ frame.bytes.length) :
    (∀ index ∈ Encapsulation.printTouches frame, index < frame.bytes.length) ↔
      (¬ Encapsulation.TwiceTagged frame -> Encapsulation.payloadType frame = ethPppoeSession ->
        Encapsulation.headersLength frame + sizeofPPPOESessionHdr ≤ frame.bytes.length) := by
  have fits : Encapsulation.headersLength frame ≤ frame.bytes.length := complete.2
  by_cases twice : Encapsulation.TwiceTagged frame
  · exact iff_of_true
      (fun _ member => Nat.lt_of_lt_of_le (Encapsulation.mem_printTouches_twice twice member) fits)
      (fun once => absurd twice once)
  · rw [Encapsulation.printTouches_of_not_twice twice]
    unfold Encapsulation.printPayloadTouches
    constructor
    · intro inside _ session
      rw [session, if_neg (by decide), if_pos rfl] at inside
      exact inside _ (List.mem_append_right _ (by simp))
    · intro whole index member
      rcases List.mem_append.mp member with within | behind
      · exact Nat.lt_of_lt_of_le (List.mem_range.mp within) fits
      · split at behind
        · rename_i isDiscovery
          have code := discovery isDiscovery
          have isCode := List.mem_singleton.mp behind
          omega
        · split at behind
          · rename_i isSession
            have header : Encapsulation.headersLength frame + 8 ≤ frame.bytes.length :=
              whole twice isSession
            simp only [List.mem_cons, List.not_mem_nil, or_false] at behind
            omega
          · cases behind

/-- Behind complete headers the type of the payload says which handler it gets to. -/
theorem handler_of_complete (type outer inner : UInt16) {frame : Buffer} (runtime : Runtime)
    (complete : Encapsulation.Complete frame) :
    runtime.handler type outer inner frame =
      if Encapsulation.payloadType frame = ethPppoeDiscovery then
        Discovery.handler (frame.drop (Encapsulation.headersLength frame))
      else if Encapsulation.payloadType frame = ethPppoeSession then
        (runtime.activeOf (Encapsulation.linkOf outer inner frame)
          (frame.drop (Encapsulation.headersLength frame))).map .session
      else none := by
  unfold handler
  rw [Encapsulation.construct_of_complete type outer inner complete, Option.bind_some]
  dsimp only
  rw [Encapsulation.type_linkOf]

/-- A frame is cut short when its payload is. -/
theorem lt_announced_iff {frame : Buffer} (complete : Encapsulation.Complete frame) :
    frame.bytes.length < announced frame ↔
      (frame.drop (Encapsulation.headersLength frame)).bytes.length <
        if Encapsulation.payloadType frame = ethPppoeDiscovery then sizeofPPPOEDiscHdr
        else if Encapsulation.payloadType frame = ethPppoeSession then
          sizeofPPPOESessionHdr + sizeofPPPLcp
        else 0 := by
  have size := length_drop frame (Encapsulation.headersLength frame)
  have fits : Encapsulation.headersLength frame ≤ frame.bytes.length := complete.2
  unfold announced
  rw [if_neg (Nat.not_lt.mpr complete.1), size]
  omega

/-- The law behind complete headers, for what follows them. -/
theorem receptionLaw_of_complete (printed : Bool) (env : Env) (type outer inner : UInt16)
    {frame : Buffer} (runtime : Runtime) (complete : Encapsulation.Complete frame) :
    ReceptionLaw printed env type outer inner frame runtime ↔
      Sized printed outer inner frame runtime := by
  have size := length_drop frame (Encapsulation.headersLength frame)
  have fits : Encapsulation.headersLength frame ≤ frame.bytes.length := complete.2
  have typed : Encapsulation.setType frame ≠ none := by
    unfold Encapsulation.setType
    rw [if_neg (Nat.not_lt.mpr complete.1)]
    exact Option.some_ne_none _
  have inside := inside_touches_iff printed env type outer inner runtime complete
  have kind := Encapsulation.type_linkOf outer inner frame
  have parts : ReceptionLaw printed env type outer inner frame runtime ↔
      (∀ index ∈ runtime.touches printed env type outer inner frame, index < frame.bytes.length) ∧
        (frame.bytes.length < announced frame -> runtime.handler type outer inner frame = none) :=
    ⟨fun law => ⟨law.inside, law.dropped⟩, fun both => ⟨both.1, typed, both.2⟩⟩
  rw [parts, inside, handler_of_complete type outer inner runtime complete, lt_announced_iff complete]
  dsimp only
  unfold packetTouches
  rw [kind]
  by_cases discovery : Encapsulation.payloadType frame = ethPppoeDiscovery
  · simp only [if_pos discovery]
    have other : Encapsulation.payloadType frame ≠ ethPppoeSession := by
      rw [discovery]
      decide
    have sized := discoverySized_iff (frame.drop (Encapsulation.headersLength frame))
    constructor
    · rintro ⟨⟨_, touched⟩, dropped⟩
      exact ⟨complete, fun _ => sized.mp ⟨touched, dropped⟩, fun session => absurd session other,
        fun _ _ session => absurd session other⟩
    · intro law
      have packet := sized.mpr (law.discovery discovery)
      have code := (law.discovery discovery).1
      refine ⟨⟨fun _ => ?_, packet.1⟩, packet.2⟩
      exact (inside_printTouches_iff complete (fun _ => by omega)).mpr
        (fun _ session => absurd session other)
  · have print := inside_printTouches_iff complete (fun isDiscovery => absurd isDiscovery discovery)
    rw [print]
    simp only [if_neg discovery]
    by_cases session : Encapsulation.payloadType frame = ethPppoeSession
    · simp only [if_pos session]
      have sized := sessionSized_iff env (Encapsulation.linkOf outer inner frame)
        (frame.drop (Encapsulation.headersLength frame)) runtime
      constructor
      · rintro ⟨⟨printing, touched⟩, dropped⟩
        exact ⟨complete, fun isDiscovery => absurd isDiscovery discovery,
          fun _ => sized.mp ⟨touched, dropped⟩, printing⟩
      · intro law
        have packet := sized.mpr (law.session session)
        exact ⟨⟨law.print, packet.1⟩, packet.2⟩
    · simp only [if_neg session]
      constructor
      · intro _
        exact ⟨complete, fun isDiscovery => absurd isDiscovery discovery,
          fun isSession => absurd isSession session, fun _ _ isSession => absurd isSession session⟩
      · intro law
        exact ⟨⟨law.print, fun _ member => absurd member List.not_mem_nil⟩, fun _ => trivial⟩

/-- A frame gets to its handler the right way if and only if it is long enough. -/
theorem receptionLaw_iff (printed : Bool) (env : Env) (type outer inner : UInt16) (frame : Buffer)
    (runtime : Runtime) :
    ReceptionLaw printed env type outer inner frame runtime ↔
      Sized printed outer inner frame runtime := by
  by_cases complete : Encapsulation.Complete frame
  · exact receptionLaw_of_complete printed env type outer inner runtime complete
  · refine iff_of_false (fun law => complete ?_) (fun sized => complete sized.complete)
    have ethernet : ¬ frame.bytes.length < sizeofEthernetHdr := by
      intro short
      have unset : Encapsulation.setType frame = none := if_pos short
      exact law.typed unset
    refine ⟨Nat.le_of_not_lt ethernet, Nat.le_of_not_lt (fun cut => ?_)⟩
    -- The constructor erases up to the end of the headers, which is behind the frame.
    have erased : frame.bytes.length ∈ Encapsulation.touches frame := by
      unfold Encapsulation.touches
      rw [if_neg ethernet]
      exact List.mem_range.mpr cut
    have touched := law.inside frame.bytes.length
      (List.mem_append_left _ (List.mem_append_right _ erased))
    exact Nat.lt_irrefl _ touched

/-! ## What lies behind the frame -/

section

variable {bytes : Bytes} {behind : Nat -> UInt8} (other : Nat -> UInt8)

theorem parseHeaders_eq (outer inner : UInt16)
    (complete : Encapsulation.Complete ⟨bytes, behind⟩) :
    Encapsulation.parseHeaders outer inner ⟨bytes, behind⟩ =
      Encapsulation.parseHeaders outer inner ⟨bytes, other⟩ := by
  have ethernet : 14 ≤ bytes.length := complete.1
  have fits := complete.2
  have fields := fun index => @Buffer.field16_eq bytes behind other index
  unfold Encapsulation.parseHeaders at fits
  unfold Encapsulation.parseHeaders Encapsulation.vlanId
  rw [← fields 12 (by omega)]
  split
  · rename_i tagged
    rw [if_pos tagged] at fits
    have tag : 18 ≤ bytes.length := by
      split at fits
      · exact Nat.le_trans (by decide : 18 ≤ 22) fits
      · exact fits
    rw [← fields 16 (by omega), ← fields 14 (by omega)]
    split
    · rename_i again
      rw [if_pos again] at fits
      have tags : 22 ≤ bytes.length := fits
      rw [← fields 18 (by omega), ← fields 20 (by omega)]
    · rfl
  · rfl

theorem payloadType_eq (complete : Encapsulation.Complete ⟨bytes, behind⟩) :
    Encapsulation.payloadType ⟨bytes, behind⟩ = Encapsulation.payloadType ⟨bytes, other⟩ := by
  have headers := parseHeaders_eq other 0 0 complete
  unfold Encapsulation.payloadType
  rw [headers]

theorem linkOf_eq (outer inner : UInt16) (complete : Encapsulation.Complete ⟨bytes, behind⟩) :
    Encapsulation.linkOf outer inner ⟨bytes, behind⟩ =
      Encapsulation.linkOf outer inner ⟨bytes, other⟩ := by
  have ethernet : 14 ≤ bytes.length := complete.1
  have reads := fun index => @Buffer.read_eq bytes behind other index
  have address : forall index, index + 5 < bytes.length ->
      Encapsulation.macAt ⟨bytes, behind⟩ index = Encapsulation.macAt ⟨bytes, other⟩ index := by
    intro index inside
    unfold Encapsulation.macAt
    rw [reads index (by omega), reads (index + 1) (by omega), reads (index + 2) (by omega),
      reads (index + 3) (by omega), reads (index + 4) (by omega), reads (index + 5) inside]
  unfold Encapsulation.linkOf
  rw [parseHeaders_eq other outer inner complete, address 6 (by omega), address 0 (by omega)]

/-- A frame that is long enough gets to the same handler whatever lies behind it. -/
theorem handler_eq {printed : Bool} (type : UInt16) {outer inner : UInt16} {runtime : Runtime}
    (sized : Sized printed outer inner ⟨bytes, behind⟩ runtime) :
    runtime.handler type outer inner ⟨bytes, behind⟩ =
      runtime.handler type outer inner ⟨bytes, other⟩ := by
  have complete := sized.complete
  have headers : Encapsulation.headersLength ⟨bytes, other⟩ =
      Encapsulation.headersLength ⟨bytes, behind⟩ :=
    congrArg Prod.fst (parseHeaders_eq other 0 0 complete).symm
  have same : Encapsulation.Complete ⟨bytes, other⟩ := ⟨complete.1, headers.trans_le complete.2⟩
  rw [handler_of_complete type outer inner runtime complete,
    handler_of_complete type outer inner runtime same, headers,
    ← linkOf_eq other outer inner complete, ← payloadType_eq other complete]
  have reads := fun index => @Buffer.read_eq
    (bytes.drop (Encapsulation.headersLength ⟨bytes, behind⟩)) behind other index
  split
  · rename_i discovery
    rcases sized.discovery discovery with ⟨code, padt⟩
    unfold Discovery.handler
    have isCode : Packet.pppoeCode ⟨bytes.drop (Encapsulation.headersLength ⟨bytes, behind⟩), behind⟩ =
        Packet.pppoeCode ⟨bytes.drop (Encapsulation.headersLength ⟨bytes, behind⟩), other⟩ :=
      reads 1 code
    unfold Buffer.drop
    unfold Buffer.drop at padt
    dsimp only
    rw [← isCode]
    by_cases isPadt :
        Packet.pppoeCode ⟨bytes.drop (Encapsulation.headersLength ⟨bytes, behind⟩), behind⟩ =
          PPPOECode.padt
    · have whole : 6 ≤ (bytes.drop (Encapsulation.headersLength ⟨bytes, behind⟩)).length := padt isPadt
      have id : Packet.pppoeSessionId
          ⟨bytes.drop (Encapsulation.headersLength ⟨bytes, behind⟩), behind⟩ =
          Packet.pppoeSessionId ⟨bytes.drop (Encapsulation.headersLength ⟨bytes, behind⟩), other⟩ :=
        Buffer.field16_eq _ behind other (Nat.lt_of_lt_of_le (by decide : 3 < 6) whole)
      rw [id]
    · rw [if_neg isPadt, if_neg isPadt]
  · split
    · rename_i session
      rcases sized.session session with ⟨room, _⟩
      have id : Packet.pppoeSessionId
          ⟨bytes.drop (Encapsulation.headersLength ⟨bytes, behind⟩), behind⟩ =
          Packet.pppoeSessionId ⟨bytes.drop (Encapsulation.headersLength ⟨bytes, behind⟩), other⟩ :=
        Buffer.field16_eq _ behind other (Nat.lt_of_lt_of_le (by decide : 3 < 4) room)
      unfold activeOf frameKey Buffer.drop
      rw [id]
    · rfl

end

/-- A frame that ends behind its Ethernet header. -/
def bareFrame (ethertype : UInt16) : Buffer where
  bytes := Encapsulation.addresses ⟨2, 0, 0, 0, 1, 1⟩ ⟨2, 0, 0, 0, 0, 1⟩ ++ bytes16 ethertype
  behind := fun _ => 0

/-- The code of a discovery packet is read behind such a frame. -/
theorem bareFrame_left :
    ¬ forall printed env type outer inner frame runtime, frame.bytes.length ≤ 1500 ->
      ReceptionLaw printed env type outer inner frame runtime := by
  intro claim
  have law := claim false {} 0 0 0 (bareFrame ethPppoeDiscovery) (sampleDaemon [.none] papPolicy)
    (by decide)
  exact absurd (law.inside 15 (by decide +kernel)) (by decide)

end Runtime

end Pppcpd

import Pppcpd.Cli.Messages
import Pppcpd.Foundation.Framing
import Pppcpd.Runtime.Step

namespace Pppcpd

open Foundation

/-!
# Exchanges over the command line connection

The control utility writes a request and reads a response, and both end with a
text delimiter.  The daemon reads requests from a buffer that keeps what lies
behind the delimiter.  It writes a response once, and what the socket does not
accept of it is never sent.  The utility reads into a buffer of its own for each
response, in pieces of any size, and deserializes whatever it has read.
-/

/-- The delimiter of requests and responses. -/
def cliDelimiter : Bytes := [13, 10, 13, 10]

/-- A command, the state of the daemon when it is run, and the number of bytes of
the response that the socket accepts. -/
structure CLIExchange where
  cmd : UInt8
  runtime : Runtime
  ifaces : List VPPInterface := []
  accepted : Nat

/-- The bytes that were sent and not read, to the daemon and to the utility. -/
structure CLIConnection where
  toDaemon : Bytes := []
  toClient : Bytes := []
  deriving DecidableEq, Repr

namespace CLIExchange

variable (archives : Archives) (exchange : CLIExchange)

/-- `get_version` and the other callbacks of `pppctl`. -/
def request : CLIMsg := { type := CLICmdType.request, cmd := exchange.cmd }

def response : CLIMsg := exchange.runtime.runCmd archives exchange.ifaces exchange.request

/-- The bytes of a message with the delimiter. -/
def framed (msg : CLIMsg) : Bytes := archives.message.put msg ++ cliDelimiter

/-- `do_read`: the bytes in front of the first delimiter, and those behind it. -/
def readRequest (buffer : Bytes) : Option (Bytes × Bytes) :=
  (frameEnd cliDelimiter buffer).map (fun length =>
    (buffer.take (length - cliDelimiter.length), buffer.drop length))

/-- One exchange, with the sizes of the pieces that the utility reads: what the
utility deserializes, and what stays in the connection.  `none` means that one
side waits, or fails to deserialize. -/
def run (connection : CLIConnection) (sizes : List Nat) : Option (CLIMsg × CLIConnection) := do
  let (cmd, toDaemon) <- readRequest (connection.toDaemon ++ framed archives exchange.request)
  let (inMsg, _) <- archives.message.get cmd
  let outMsg := exchange.runtime.runCmd archives exchange.ifaces inMsg
  let written := (framed archives outMsg).take exchange.accepted
  let (buf, toClient) <- readUntil cliDelimiter sizes [] (connection.toClient ++ written)
  let (result, _) <- archives.message.get buf
  return (result, { toDaemon := toDaemon, toClient := toClient })

/-- What the socket accepts of the response. -/
def written : Bytes := (framed archives (exchange.response archives)).take exchange.accepted

/-- The first delimiter ends where the message and its delimiter do. -/
def Delimited (msg : CLIMsg) : Prop :=
  frameEnd cliDelimiter (framed archives msg) = some (framed archives msg).length

instance (msg : CLIMsg) : Decidable (Delimited archives msg) := inferInstanceAs (Decidable (_ = _))

/-- The request ends with its first delimiter.  What the socket accepts of the
response ends with its first delimiter too, and has the whole message. -/
structure Clean : Prop where
  request : Delimited archives exchange.request
  response : frameEnd cliDelimiter (exchange.written archives) =
    some (exchange.written archives).length
  whole : (archives.message.put (exchange.response archives)).length ≤ exchange.accepted

/-- The messages of the exchange are lossless. -/
structure Serializable : Prop where
  request : archives.message.Lossless exchange.request
  response : archives.message.Lossless (exchange.response archives)

variable {archives exchange}

theorem frameEnd_framed (msg : CLIMsg) : ∃ length,
    frameEnd cliDelimiter (framed archives msg) = some length ∧
      length ≤ (framed archives msg).length := by
  rcases @frameEnd_append_delimiter _ _ cliDelimiter (archives.message.put msg) with
    ⟨length, found, inside⟩
  exact ⟨length, found, (frameEnd_eq_some_iff.mp found).1⟩

/-- A request that ends with its first delimiter is run, and leaves nothing behind. -/
theorem run_of_delimited (lossless : archives.message.Lossless exchange.request)
    (delimited : Delimited archives exchange.request) (sizes : List Nat) :
    exchange.run archives {} sizes =
      (readUntil cliDelimiter sizes [] (exchange.written archives)).bind (fun (buf, toClient) =>
        (archives.message.get buf).map (fun (result, _) => (result, { toClient := toClient }))) := by
  have request : readRequest (framed archives exchange.request) =
      some (archives.message.put exchange.request, []) := by
    unfold readRequest
    rw [delimited, Option.map_some]
    unfold framed
    rw [List.drop_length, List.length_append, Nat.add_sub_cancel, List.take_left]
  have read := lossless.reads []
  rw [List.append_nil] at read
  unfold run
  rw [List.nil_append, request]
  dsimp only [Option.bind_eq_bind, Option.bind_some]
  rw [read]
  dsimp only [Option.bind_some]
  rw [List.nil_append]
  refine congrArg (Option.bind (readUntil cliDelimiter sizes [] (exchange.written archives)))
    (funext (fun taken => ?_))
  rw [Option.map_eq_bind]
  rfl

/-- Another request is cut where its first delimiter is, and cannot be read. -/
theorem run_of_not_delimited (lossless : archives.message.Lossless exchange.request)
    (undelimited : ¬ Delimited archives exchange.request) (sizes : List Nat) :
    exchange.run archives {} sizes = none := by
  rcases frameEnd_framed exchange.request with ⟨length, found, inside⟩
  have less : length < (framed archives exchange.request).length :=
    Nat.lt_of_le_of_ne inside (fun same => undelimited (found.trans (congrArg some same)))
  have short : length - cliDelimiter.length < (archives.message.put exchange.request).length := by
    have ends := (frameEnd_eq_some_iff.mp found).2.1.length_le
    rw [List.length_take, Nat.min_eq_left inside] at ends
    rw [framed, List.length_append] at less
    omega
  have unread := lossless.whole _ short
  unfold run readRequest
  rw [List.nil_append, found, Option.map_some, framed,
    List.take_append_of_le_length (Nat.le_of_lt short)]
  dsimp only [Option.bind_eq_bind, Option.bind_some]
  rw [unread]
  rfl

/-- However the utility's reads are cut, it deserializes the response, and nothing
stays in the connection. -/
def Answered (archives : Archives) (exchange : CLIExchange) : Prop :=
  forall sizes, Enough sizes (exchange.written archives).length ->
    exchange.run archives {} sizes = some (exchange.response archives, {})

theorem answered_iff (serializable : exchange.Serializable archives) :
    exchange.Answered archives ↔ exchange.Clean archives := by
  have reads := @readUntil_whole_iff _ _ cliDelimiter (exchange.written archives) (by decide)
    (fun taken => (archives.message.get taken).map Prod.fst = some (exchange.response archives))
  have whole : ((archives.message.get (exchange.written archives)).map Prod.fst =
      some (exchange.response archives)) ↔
        (archives.message.put (exchange.response archives)).length ≤ exchange.accepted :=
    serializable.response.get_take_iff cliDelimiter exchange.accepted
  by_cases delimited : Delimited archives exchange.request
  · have same : exchange.Answered archives ↔ forall sizes,
        Enough sizes (exchange.written archives).length -> ∃ taken,
          readUntil cliDelimiter sizes [] (exchange.written archives) = some (taken, []) ∧
            (archives.message.get taken).map Prod.fst = some (exchange.response archives) := by
      refine forall_congr' (fun sizes => forall_congr' (fun _ => ?_))
      rw [run_of_delimited serializable.request delimited]
      constructor
      · intro answered
        rcases Option.bind_eq_some_iff.mp answered with ⟨⟨buf, toClient⟩, read, mapped⟩
        rcases Option.map_eq_some_iff.mp mapped with ⟨⟨result, rest⟩, got, equal⟩
        have parts := Prod.mk.inj equal
        have nothing : toClient = [] := congrArg CLIConnection.toClient parts.2
        rw [nothing] at read
        refine ⟨buf, read, ?_⟩
        rw [got, ← parts.1]
        rfl
      · rintro ⟨taken, read, got⟩
        rcases Option.map_eq_some_iff.mp got with ⟨⟨result, rest⟩, isResult, equal⟩
        rw [read, Option.bind_some]
        dsimp only
        rw [isResult, ← equal]
        rfl
    rw [same, reads, whole]
    exact ⟨fun clean => ⟨delimited, clean.1, clean.2⟩, fun clean => ⟨clean.response, clean.whole⟩⟩
  · refine iff_of_false (fun answered => ?_) (fun clean => delimited clean.request)
    have nothing := answered [(exchange.written archives).length] (by simp [Enough])
    rw [run_of_not_delimited serializable.request delimited] at nothing
    cases nothing

/-! ## Any number of exchanges -/

/-- Exchanges one after the other.  Before each of them nothing is left in the
connection, and each gives the utility its response. -/
def AllAnswered (archives : Archives) : CLIConnection -> List CLIExchange -> Prop
  | connection, [] => connection = {}
  | connection, exchange :: exchanges => connection = {} ∧
      forall sizes, Enough sizes (exchange.written archives).length -> ∃ result after,
        exchange.run archives connection sizes = some (result, after) ∧
          result = exchange.response archives ∧ AllAnswered archives after exchanges

theorem AllAnswered.connection {connection : CLIConnection} {exchanges : List CLIExchange}
    (answered : AllAnswered archives connection exchanges) : connection = {} := by
  cases exchanges with
  | nil => exact answered
  | cons exchange exchanges => exact answered.1

/-- All exchanges of a connection are answered exactly when each is clean. -/
theorem allAnswered_iff {exchanges : List CLIExchange}
    (serializable : ∀ exchange ∈ exchanges, exchange.Serializable archives) :
    AllAnswered archives {} exchanges ↔ ∀ exchange ∈ exchanges, exchange.Clean archives := by
  induction exchanges with
  | nil => exact iff_of_true rfl (fun _ member => absurd member List.not_mem_nil)
  | cons exchange exchanges inductionHypothesis =>
      have later := inductionHypothesis (fun other member =>
        serializable other (List.mem_cons_of_mem _ member))
      have first := answered_iff (serializable exchange List.mem_cons_self)
      rw [List.forall_mem_cons, ← first, ← later]
      constructor
      · rintro ⟨_, runs⟩
        refine ⟨fun sizes enough => ?_, ?_⟩
        · rcases runs sizes enough with ⟨result, after, ran, same, rest⟩
          rw [ran, same, rest.connection]
        · rcases runs [(exchange.written archives).length] (by simp [Enough]) with
            ⟨result, after, _, _, rest⟩
          rw [rest.connection] at rest
          exact rest
      · rintro ⟨answered, rest⟩
        exact ⟨rfl, fun sizes enough => ⟨_, {}, answered sizes enough, rfl, rest⟩⟩

/-! ## Two sessions -/

/-- The list of the sessions of a daemon, of which the socket accepts some bytes. -/
def sampleExchange (runtime : Runtime) (accepted : Nat) : CLIExchange where
  cmd := CLICmd.getPppoeSessions
  runtime := runtime
  accepted := accepted

/-- The list of one session has no delimiter, so it is answered each time. -/
theorem allAnswered_sample : AllAnswered binaryArchives {}
    [sampleExchange Runtime.established 101, sampleExchange Runtime.established 101] := by
  have lossless : (sampleExchange Runtime.established 101).Serializable binaryArchives :=
    ⟨BinaryArchive.lossless_message (by decide) (by decide),
      BinaryArchive.lossless_message (by decide +kernel) (by decide +kernel)⟩
  have clean : (sampleExchange Runtime.established 101).Clean binaryArchives :=
    ⟨by decide +kernel, by decide +kernel, by decide +kernel⟩
  refine (allAnswered_iff (fun exchange member => ?_)).mpr (fun exchange member => ?_)
  · rcases List.mem_pair.mp member with first | second
    · rw [first]
      exact lossless
    · rw [second]
      exact lossless
  · rcases List.mem_pair.mp member with first | second
    · rw [first]
      exact clean
    · rw [second]
      exact clean

/-- A subscriber whose name is the delimiter. -/
def delimiterName : List Event :=
  connect (sampleLink 1) ++ openLcp (sampleLink 1) 1 ++
    [{ env := { aaa := AAA.sampleInputs }
       input := .session (sampleLink 1) (sessionPacket 1 PPPProto.pap
        (pppHdr PAPCode.authenticateReq 1 10 ++ [4] ++ cliDelimiter ++ [0])) }]

def delimiterNamed : Runtime :=
  Foundation.after Runtime.step (Runtime.sampleDaemon [.none] papPolicy) delimiterName
    (by decide +kernel)

/-- The name ends the first read of the utility early, and the rest stays for the
next response.  And of a response that is cut by the socket nothing is read. -/
theorem notAnswered_sample :
    ¬ AllAnswered binaryArchives {} [sampleExchange delimiterNamed 105] ∧
      ¬ AllAnswered binaryArchives {} [sampleExchange Runtime.established 100] := by
  constructor
  · intro answered
    rcases answered.2 [68, 36] (by decide +kernel) with ⟨result, after, ran, _, rest⟩
    have left : (run binaryArchives (sampleExchange delimiterNamed 105) {} [68, 36]).any (fun out =>
        decide (out.2 = {})) = false := by decide +kernel
    have nothing : after = {} := rest
    rw [ran, nothing] at left
    cases left
  · intro answered
    rcases answered.2 [99] (by decide +kernel) with ⟨result, after, ran, _, _⟩
    have waits : (run binaryArchives (sampleExchange Runtime.established 100) {} [99]).isNone = true := by
      decide +kernel
    rw [ran] at waits
    cases waits

end CLIExchange

end Pppcpd

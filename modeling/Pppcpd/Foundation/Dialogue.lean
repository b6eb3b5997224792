import Mathlib.Data.List.Basic

namespace Pppcpd
namespace Foundation

/-!
# Programs that ask a server

A program asks one request after another, and each reply decides how it goes on.
A server is given by the replies it may give in a state and by the state it is in
afterwards, so it may choose among several replies.  `Meets` is the weakest
precondition of a program: whatever the server replies, the program ends with a
result and a state that have a property.

The states of a server that somebody else has written are not known, and only a view
of them is.  `Shows` is the precondition in terms of the view.  Its rules follow the
program, with one rule for loops, and `Shows.of_runs` reads it off the runs again.
-/

/-- A program that makes requests and ends with a result. -/
inductive Dialogue (Request Reply Result : Type)
  | done (result : Result)
  | ask (request : Request) (next : Reply -> Dialogue Request Reply Result)

namespace Dialogue

variable {Request Reply Result Other Item : Type}

/-- A program, and what follows its result. -/
def bind : Dialogue Request Reply Result -> (Result -> Dialogue Request Reply Other) ->
    Dialogue Request Reply Other
  | done result, rest => rest result
  | ask request next, rest => ask request (fun reply => (next reply).bind rest)

instance : Monad (Dialogue Request Reply) where
  pure := done
  bind := bind

/-- One request, and what is read off its reply. -/
def call (request : Request) (read : Reply -> Result) : Dialogue Request Reply Result :=
  ask request (fun reply => done (read reply))

/-- A loop over items that hands a value from round to round. -/
def loop (body : Result -> Item -> Dialogue Request Reply Result) :
    Result -> List Item -> Dialogue Request Reply Result
  | value, [] => done value
  | value, item :: rest => (body value item).bind (fun later => loop body later rest)

/-- A loop over items for its requests alone. -/
def each (body : Item -> Dialogue Request Reply Result) (items : List Item) :
    Dialogue Request Reply Unit :=
  loop (fun _ item => (body item).bind (fun _ => done ())) () items

/-- Every request that the program can make has the property. -/
def Asks (property : Request -> Prop) : Dialogue Request Reply Result -> Prop
  | done _ => True
  | ask request next => property request ∧ forall reply, Asks property (next reply)

variable {property : Request -> Prop}

theorem Asks.bind {program : Dialogue Request Reply Result}
    {rest : Result -> Dialogue Request Reply Other} (first : program.Asks property)
    (second : forall result, (rest result).Asks property) : (program.bind rest).Asks property := by
  induction program with
  | done result => exact second result
  | ask request next inductionHypothesis =>
      exact ⟨first.1, fun reply => inductionHypothesis reply (first.2 reply)⟩

theorem Asks.loop {body : Result -> Item -> Dialogue Request Reply Result}
    (round : forall value item, (body value item).Asks property) (value : Result)
    (items : List Item) : (Dialogue.loop body value items).Asks property := by
  induction items generalizing value with
  | nil => exact trivial
  | cons item rest inductionHypothesis =>
      exact (round value item).bind inductionHypothesis

theorem Asks.each {body : Item -> Dialogue Request Reply Result}
    (round : forall item, (body item).Asks property) (items : List Item) :
    (Dialogue.each body items).Asks property := by
  refine .loop (fun _ item => (round item).bind (fun _ => ?_)) () items
  exact trivial

end Dialogue

/-- A server: the replies that it may give to a request in a state, and the state
after the exchange. -/
structure Server (Request Reply State : Type) where
  permits : State -> Request -> Reply -> Prop
  next : State -> Request -> Reply -> State

namespace Server

variable {Request Reply State Seen Result Other Item : Type} (server : Server Request Reply State)

/-- Whatever the server replies, the program reaches the goal. -/
def Meets : Dialogue Request Reply Result -> (Result -> State -> Prop) -> State -> Prop
  | .done result, goal, state => goal result state
  | .ask request next, goal, state =>
      forall reply, server.permits state request reply ->
        Meets (next reply) goal (server.next state request reply)

/-- The runs of a program from a state, with the exchanges in their order. -/
inductive Runs : State -> Dialogue Request Reply Result -> List (Request × Reply) -> Result ->
    State -> Prop
  | done {state : State} (result : Result) : Runs state (.done result) [] result state
  | ask {state after : State} {request : Request} {reply : Reply} {result : Result}
      {next : Reply -> Dialogue Request Reply Result} {exchanges : List (Request × Reply)} :
      server.permits state request reply ->
      Runs (server.next state request reply) (next reply) exchanges result after ->
      Runs state (.ask request next) ((request, reply) :: exchanges) result after

variable {server} {state : State}

/-! ## Rules -/

theorem Meets.mono {program : Dialogue Request Reply Result} {goal other : Result -> State -> Prop}
    (meets : server.Meets program goal state)
    (implies : forall result after, goal result after -> other result after) :
    server.Meets program other state := by
  induction program generalizing state with
  | done result => exact implies result state meets
  | ask request next inductionHypothesis =>
      exact fun reply permitted => inductionHypothesis reply (meets reply permitted)

theorem Meets.and {program : Dialogue Request Reply Result} {goal other : Result -> State -> Prop}
    (first : server.Meets program goal state) (second : server.Meets program other state) :
    server.Meets program (fun result after => goal result after ∧ other result after) state := by
  induction program generalizing state with
  | done result => exact ⟨first, second⟩
  | ask request next inductionHypothesis =>
      exact fun reply permitted =>
        inductionHypothesis reply (first reply permitted) (second reply permitted)

theorem meets_bind {program : Dialogue Request Reply Result}
    {rest : Result -> Dialogue Request Reply Other} {goal : Other -> State -> Prop} :
    server.Meets (program.bind rest) goal state ↔
      server.Meets program (fun result after => server.Meets (rest result) goal after) state := by
  induction program generalizing state with
  | done result => exact Iff.rfl
  | ask request next inductionHypothesis =>
      exact forall₂_congr (fun reply _ => inductionHypothesis reply)

/-! ## Seen through a view -/

/-- The goal is about what is seen of the states, and the program starts in any state
that looks as given. -/
def Shows (server : Server Request Reply State) (view : State -> Seen)
    (program : Dialogue Request Reply Result) (goal : Result -> Seen -> Prop) (seen : Seen) : Prop :=
  forall state, view state = seen ->
    server.Meets program (fun result after => goal result (view after)) state

variable {view : State -> Seen} {seen : Seen}

theorem shows_done {goal : Result -> Seen -> Prop} {result : Result} (reached : goal result seen) :
    server.Shows view (.done result) goal seen := by
  intro state looks
  show goal result (view state)
  rw [looks]
  exact reached

theorem shows_call {goal : Result -> Seen -> Prop} {request : Request} {read : Reply -> Result}
    (reached : forall state reply, view state = seen -> server.permits state request reply ->
      goal (read reply) (view (server.next state request reply))) :
    server.Shows view (.call request read) goal seen :=
  fun state looks reply permitted => reached state reply looks permitted

theorem Shows.mono {program : Dialogue Request Reply Result} {goal other : Result -> Seen -> Prop}
    (shows : server.Shows view program goal seen)
    (implies : forall result after, goal result after -> other result after) :
    server.Shows view program other seen :=
  fun state looks => (shows state looks).mono (fun result after => implies result (view after))

/-- Two goals that a program reaches each are reached together. -/
theorem Shows.and {program : Dialogue Request Reply Result} {goal other : Result -> Seen -> Prop}
    (first : server.Shows view program goal seen) (second : server.Shows view program other seen) :
    server.Shows view program (fun result after => goal result after ∧ other result after) seen :=
  fun state looks => (first state looks).and (second state looks)

theorem shows_bind {program : Dialogue Request Reply Result}
    {rest : Result -> Dialogue Request Reply Other} {goal : Other -> Seen -> Prop}
    (shows : server.Shows view program
      (fun result after => server.Shows view (rest result) goal after) seen) :
    server.Shows view (program.bind rest) goal seen :=
  fun state looks => meets_bind.mpr ((shows state looks).mono (fun _ after later => later after rfl))

/-- A program, and a program that starts from what the first one reaches. -/
theorem Shows.bind {program : Dialogue Request Reply Result} {middle : Result -> Seen -> Prop}
    {rest : Result -> Dialogue Request Reply Other} {goal : Other -> Seen -> Prop}
    (first : server.Shows view program middle seen)
    (second : forall result after, middle result after ->
      server.Shows view (rest result) goal after) :
    server.Shows view (program.bind rest) goal seen :=
  shows_bind (first.mono second)

/-- The loop rule.  The invariant speaks about the items that are left. -/
theorem Shows.loop {body : Result -> Item -> Dialogue Request Reply Result}
    (invariant : List Item -> Result -> Seen -> Prop)
    (round : forall item rest value seen, invariant (item :: rest) value seen ->
      server.Shows view (body value item) (invariant rest) seen)
    {items : List Item} {value : Result} (start : invariant items value seen) :
    server.Shows view (.loop body value items) (invariant []) seen := by
  induction items generalizing value seen with
  | nil => exact shows_done start
  | cons item rest inductionHypothesis =>
      exact (round item rest value seen start).bind
        (fun later after kept => inductionHypothesis kept)

/-- The loop rule for a loop without a value. -/
theorem Shows.each {body : Item -> Dialogue Request Reply Result}
    (invariant : List Item -> Seen -> Prop)
    (round : forall item rest seen, invariant (item :: rest) seen ->
      server.Shows view (body item) (fun _ => invariant rest) seen)
    {items : List Item} (start : invariant items seen) :
    server.Shows view (.each body items) (fun _ => invariant []) seen := by
  refine Shows.loop (fun rest _ => invariant rest) (fun item rest _ seen kept => ?_) start
  exact (round item rest seen kept).bind (fun _ after later => shows_done later)

/-- The loop rule with an invariant about the items that are done. -/
theorem Shows.loop_along {body : Result -> Item -> Dialogue Request Reply Result} {items : List Item}
    (invariant : List Item -> Result -> Seen -> Prop)
    (round : forall done item value seen, item ∈ items -> invariant done value seen ->
      server.Shows view (body value item) (invariant (done ++ [item])) seen)
    {value : Result} (start : invariant [] value seen) :
    server.Shows view (.loop body value items) (invariant items) seen := by
  refine (Shows.loop (fun rest value seen => ∃ done, done ++ rest = items ∧ invariant done value seen)
    ?_ ⟨[], rfl, start⟩).mono (fun value after left => ?_)
  · rintro item rest value seen ⟨done, split, kept⟩
    have member : item ∈ items := by
      rw [← split]
      exact List.mem_append_right done List.mem_cons_self
    refine (round done item value seen member kept).mono (fun later after kept => ?_)
    exact ⟨done ++ [item], by rw [← split, List.append_assoc, List.singleton_append], kept⟩
  · rcases left with ⟨done, whole, kept⟩
    rw [List.append_nil] at whole
    rw [← whole]
    exact kept

theorem Shows.each_along {body : Item -> Dialogue Request Reply Result} {items : List Item}
    (invariant : List Item -> Seen -> Prop)
    (round : forall done item seen, item ∈ items -> invariant done seen ->
      server.Shows view (body item) (fun _ => invariant (done ++ [item])) seen)
    (start : invariant [] seen) :
    server.Shows view (.each body items) (fun _ => invariant items) seen := by
  refine Shows.loop_along (fun done _ => invariant done) (fun done item _ seen member kept => ?_) start
  exact (round done item seen member kept).bind (fun _ after later => shows_done later)

/-- What every request with a property keeps is kept by a program of such requests. -/
theorem Shows.of_asks {property : Request -> Prop} {invariant : Seen -> Prop}
    (keeps : forall state request reply, property request -> server.permits state request reply ->
      invariant (view state) -> invariant (view (server.next state request reply)))
    {program : Dialogue Request Reply Result} (asks : program.Asks property)
    (start : invariant seen) : server.Shows view program (fun _ => invariant) seen := by
  induction program generalizing seen with
  | done result => exact shows_done start
  | ask request next inductionHypothesis =>
      intro state looks reply permitted
      have kept := keeps state request reply asks.1 permitted (looks ▸ start)
      exact inductionHypothesis reply (asks.2 reply) kept _ rfl

/-! ## Runs -/

/-- A program meets a goal exactly when all its runs end in it. -/
theorem meets_iff {program : Dialogue Request Reply Result} {goal : Result -> State -> Prop} :
    server.Meets program goal state ↔
      forall exchanges result after, server.Runs state program exchanges result after ->
        goal result after := by
  constructor
  · intro meets exchanges result after runs
    induction runs with
    | done result => exact meets
    | ask permitted _ inductionHypothesis => exact inductionHypothesis (meets _ permitted)
  · intro runs
    induction program generalizing state with
    | done result => exact runs [] result state (.done result)
    | ask request next inductionHypothesis =>
        intro reply permitted
        exact inductionHypothesis reply
          (fun exchanges result after later => runs _ result after (.ask permitted later))

theorem Shows.of_runs {program : Dialogue Request Reply Result} {goal : Result -> Seen -> Prop}
    {before after : State} {exchanges : List (Request × Reply)} {result : Result}
    (shows : server.Shows view program goal (view before))
    (runs : server.Runs before program exchanges result after) : goal result (view after) :=
  meets_iff.mp (shows before rfl) exchanges result after runs

/-- The server, where its replies have a property. -/
def only (server : Server Request Reply State) (property : State -> Request -> Reply -> Prop) :
    Server Request Reply State where
  permits := fun state request reply =>
    server.permits state request reply ∧ property state request reply
  next := server.next

/-- The run of a program whose requests all get the reply of one function. -/
def play (server : Server Request Reply State) (respond : State -> Request -> Reply) :
    Dialogue Request Reply Result -> State -> List (Request × Reply) × Result × State
  | .done result, state => ([], result, state)
  | .ask request next, state =>
      let reply := respond state request
      let rest := play server respond (next reply) (server.next state request reply)
      ((request, reply) :: rest.1, rest.2)

theorem play_only {property : State -> Request -> Reply -> Prop} {respond : State -> Request -> Reply}
    (program : Dialogue Request Reply Result) (state : State) :
    (server.only property).play respond program state = server.play respond program state := by
  induction program generalizing state with
  | done result => rfl
  | ask request next inductionHypothesis =>
      have rest := inductionHypothesis (respond state request)
        (server.next state request (respond state request))
      exact congrArg (fun played => ((request, respond state request) :: played.1, played.2)) rest

/-- It is a run of the server where the replies are permitted for as long as it takes. -/
theorem runs_play {respond : State -> Request -> Reply} (good : Nat -> State -> Prop)
    (step : forall left state request, good (left + 1) state ->
      server.permits state request (respond state request) ∧
        good left (server.next state request (respond state request)))
    (program : Dialogue Request Reply Result)
    (enough : good (server.play respond program state).1.length state) :
    server.Runs state program (server.play respond program state).1
      (server.play respond program state).2.1 (server.play respond program state).2.2 := by
  induction program generalizing state with
  | done result => exact .done result
  | ask request next inductionHypothesis =>
      rcases step _ state request enough with ⟨permitted, later⟩
      exact .ask permitted (inductionHypothesis (respond state request) later)

end Server

end Foundation
end Pppcpd

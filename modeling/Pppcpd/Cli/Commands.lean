import Pppcpd.Foundation.Bytes
import Pppcpd.Foundation.Prefixes
import Pppcpd.Foundation.Words

namespace Pppcpd

open Foundation

/-!
# Commands of the control utility

`CLICMD` keeps the registered commands in a tree: a word node for each token, and
behind the last token an end node with the callback.  `call_cmd` goes from word to
word, passes over a token that no word node carries, and calls the callback when
the node it comes to has the end node as its only one.
-/

/-- `CLINodeType`. -/
inductive CLINodeType
  | begin
  | static
  | argument
  | ending
  deriving DecidableEq, Repr

/-- `CLINode`.  An end node has the empty token, a word node no callback. -/
inductive CLINode (Callback : Type)
  | mk (type : CLINodeType) (token : Bytes) (callback : Option Callback)
      (nextNodes : List (CLINode Callback))

variable {Callback : Type}

namespace CLINode

def type : CLINode Callback -> CLINodeType
  | mk type _ _ _ => type

def token : CLINode Callback -> Bytes
  | mk _ token _ _ => token

def callback : CLINode Callback -> Option Callback
  | mk _ _ callback _ => callback

def nextNodes : CLINode Callback -> List (CLINode Callback)
  | mk _ _ _ nextNodes => nextNodes

def setNext (node : CLINode Callback) (nextNodes : List (CLINode Callback)) : CLINode Callback :=
  mk node.type node.token node.callback nextNodes

/-- The first node behind this one with a token. -/
def find (token : Bytes) (node : CLINode Callback) : Option (CLINode Callback) :=
  node.nextNodes.find? (fun next => next.token == token)

/-- The loop of `add_cmd` and what follows it. -/
def add (callback : Callback) : List Bytes -> CLINode Callback -> CLINode Callback
  | [], node => node.setNext (node.nextNodes ++ [mk .ending [] (some callback) []])
  | token :: rest, node =>
      if (node.find token).isSome then
        node.setNext (modifyFirst (fun next => next.token == token) (add callback rest) node.nextNodes)
      else node.setNext (node.nextNodes ++ [add callback rest (mk .static token none [])])

/-- The loop of `call_cmd`. -/
def walk : List Bytes -> CLINode Callback -> CLINode Callback
  | [], node => node
  | token :: rest, node =>
      match node.find token with
      | some next => walk rest next
      | none => walk rest node

/-- The step from a node to the only node behind it. -/
def forward (node : CLINode Callback) : CLINode Callback :=
  match node.nextNodes with
  | [next] => next
  | _ => node

/-- What follows the loop of `call_cmd`: the callback that is called, with no arguments,
or the text that is thrown.  A `std::function` without a target throws as well. -/
def call (node : CLINode Callback) : Except String Callback :=
  let node := node.forward
  if node.type ≠ .ending then .error "Wrong command"
  else
    match node.callback with
    | some callback => .ok callback
    | none => .error "bad_function_call"

end CLINode

/-- `CLICMD`. -/
structure CLICMD (Callback : Type) where
  startNode : CLINode Callback := .mk .begin [] none []

namespace CLICMD

/-- `split`. -/
def split (input : Bytes) : List Bytes := wordsOf (fun letter => letter == 32) input

/-- `add_cmd`. -/
def addCmd (fullCommand : Bytes) (callback : Callback) (commands : CLICMD Callback) :
    CLICMD Callback where
  startNode := commands.startNode.add callback (split fullCommand)

/-- `call_cmd`. -/
def callCmd (cmd : Bytes) (commands : CLICMD Callback) : Except String Callback :=
  (commands.startNode.walk (split cmd)).call

/-- The commands registered in a list, from the first on. -/
def register (list : List (Bytes × Callback)) : CLICMD Callback :=
  list.foldl (fun commands command => commands.addCmd command.1 command.2) {}

/-- The tokens of the commands with their callbacks. -/
def entries (list : List (Bytes × Callback)) : List (List Bytes × Callback) :=
  list.map (fun command => (split command.1, command.2))

theorem ne_nil_of_mem_split {input token : Bytes} (member : token ∈ split input) : token ≠ [] := by
  have kept := (List.mem_filter.mp member).2
  intro empty
  rw [empty] at kept
  cases kept

end CLICMD

namespace CLINode

/-- The callbacks of the end nodes behind a node. -/
def endings (node : CLINode Callback) : List (Option Callback) :=
  (node.nextNodes.filter (fun next => next.type = .ending)).map callback

/-- Every node behind this one is an end node with a callback, or a word node with a
token. -/
def Sorted (node : CLINode Callback) : Prop :=
  ∀ next ∈ node.nextNodes, next.type = .ending ∧ next.token = [] ∧ next.nextNodes = [] ∨
    next.type = .static ∧ next.token ≠ []

/-- The tree below a node stands for the entries: behind a token it stands for the
entries under it, and the entries of the node itself are its end nodes. -/
inductive Represents : CLINode Callback -> List (List Bytes × Callback) -> Prop
  | mk {node : CLINode Callback} {entries : List (List Bytes × Callback)} : node.Sorted ->
      node.endings = (entries.filter (fun entry => entry.1 = [])).map (fun entry => some entry.2) ->
      (forall token, token ≠ [] -> node.find token = none -> under [token] entries = []) ->
      (forall token next, token ≠ [] -> node.find token = some next ->
        under [token] entries ≠ []) ->
      (forall token next, token ≠ [] -> node.find token = some next ->
        Represents next (under [token] entries)) ->
      Represents node entries

variable {node : CLINode Callback} {entries : List (List Bytes × Callback)}

theorem type_add (callback : Callback) (tokens : List Bytes) (node : CLINode Callback) :
    (node.add callback tokens).type = node.type := by
  cases tokens with
  | nil => rfl
  | cons token rest =>
      unfold add
      split <;> rfl

theorem token_add (callback : Callback) (tokens : List Bytes) (node : CLINode Callback) :
    (node.add callback tokens).token = node.token := by
  cases tokens with
  | nil => rfl
  | cons token rest =>
      unfold add
      split <;> rfl

theorem mem_of_find {token : Bytes} {next : CLINode Callback} (found : node.find token = some next) :
    next ∈ node.nextNodes ∧ next.token = token := by
  unfold find at found
  have carries := List.find?_some found
  exact ⟨List.mem_of_find?_eq_some found, beq_iff_eq.mp carries⟩

theorem find_append (node last : CLINode Callback) (token : Bytes) :
    (node.setNext (node.nextNodes ++ [last])).find token =
      (node.find token).or (if last.token = token then some last else none) := by
  have single : [last].find? (fun next => next.token == token) =
      if last.token = token then some last else none := by
    by_cases same : last.token = token
    · simp [same]
    · simp [same]
  unfold find
  rw [← single]
  exact List.find?_append

theorem find_modifyFirst (node : CLINode Callback) (token other : Bytes)
    {change : CLINode Callback -> CLINode Callback}
    (keeps : forall next, (change next).token = next.token) :
    (node.setNext (modifyFirst (fun next => next.token == token) change node.nextNodes)).find other =
      if other = token then (node.find token).map change else node.find other := by
  unfold find
  by_cases same : other = token
  · rw [if_pos same, same]
    exact find?_modifyFirst (fun next => congrArg (fun text => text == token) (keeps next)) _
  · rw [if_neg same]
    refine find?_modifyFirst_of_ne (fun next carries => ?_) _
    have isToken := beq_iff_eq.mp carries
    rw [keeps, isToken]
    exact ⟨beq_eq_false_iff_ne.mpr (Ne.symm same), beq_eq_false_iff_ne.mpr (Ne.symm same)⟩

/-- A node with nothing behind it stands for no entry. -/
theorem represents_bare (type : CLINodeType) (token : Bytes) (callback : Option Callback) :
    Represents (mk type token callback []) [] := by
  refine .mk ?_ rfl ?_ ?_ ?_
  · exact fun next member => absurd member List.not_mem_nil
  · exact fun _ _ _ => rfl
  · exact fun _ _ _ found => nomatch found
  · exact fun _ _ _ found => nomatch found

/-- The parts of what a node stands for, token by token. -/
theorem represents_of_tokens (sorted : node.Sorted)
    (endings : node.endings =
      (entries.filter (fun entry => entry.1 = [])).map (fun entry => some entry.2))
    (tokens : forall token, token ≠ [] ->
      node.find token = none ∧ under [token] entries = [] ∨
        ∃ next, node.find token = some next ∧ under [token] entries ≠ [] ∧
          Represents next (under [token] entries)) : node.Represents entries := by
  refine .mk sorted endings ?_ ?_ ?_
  · intro token isWord none
    rcases tokens token isWord with ⟨_, nothing⟩ | ⟨next, found, _⟩
    · exact nothing
    · cases none.symm.trans found
  · intro token next isWord found
    rcases tokens token isWord with ⟨none, _⟩ | ⟨other, _, something, _⟩
    · cases none.symm.trans found
    · exact something
  · intro token next isWord found
    rcases tokens token isWord with ⟨none, _⟩ | ⟨other, isOther, _, represents⟩
    · cases none.symm.trans found
    · exact Option.some.inj (isOther.symm.trans found) ▸ represents

theorem Represents.token (represents : node.Represents entries) {token : Bytes}
    (isWord : token ≠ []) :
    node.find token = none ∧ under [token] entries = [] ∨
      ∃ next, node.find token = some next ∧ under [token] entries ≠ [] ∧
        Represents next (under [token] entries) := by
  rcases represents with ⟨_, _, absent, present, behind⟩
  cases found : node.find token with
  | none => exact .inl ⟨rfl, absent token isWord found⟩
  | some next => exact .inr ⟨next, rfl, present token next isWord found, behind token next isWord found⟩

theorem Represents.sorted (represents : node.Represents entries) : node.Sorted := by
  rcases represents with ⟨sorted, _, _, _, _⟩
  exact sorted

theorem Represents.endings_eq (represents : node.Represents entries) : node.endings =
    (entries.filter (fun entry => entry.1 = [])).map (fun entry => some entry.2) := by
  rcases represents with ⟨_, endings, _, _, _⟩
  exact endings

/-- An end node behind a node adds an entry with no token. -/
theorem Represents.add_ending (represents : node.Represents entries) (callback : Callback) :
    Represents (node.add callback []) (entries ++ [([], callback)]) := by
  refine represents_of_tokens ?_ ?_ (fun token isWord => ?_)
  · intro next member
    rcases List.mem_append.mp member with old | new
    · exact represents.sorted next old
    · rw [List.mem_singleton.mp new]
      exact .inl ⟨rfl, rfl, rfl⟩
  · have endings := represents.endings_eq
    unfold CLINode.endings at endings ⊢
    show List.map _ (List.filter _ (node.nextNodes ++ [_])) = _
    rw [List.filter_append, List.map_append, endings, List.filter_append, List.map_append]
    rfl
  · have found : (node.add callback []).find token = node.find token := by
      refine (find_append node _ token).trans ?_
      rw [if_neg (fun same => isWord same.symm), Option.or_none]
    rw [found, under_append, under_empty_word, List.append_nil]
    exact represents.token isWord

theorem filter_append_word (entries : List (List Bytes × Callback)) (first : Bytes)
    (rest : List Bytes) (callback : Callback) :
    (entries ++ [(first :: rest, callback)]).filter (fun entry => entry.1 = []) =
      entries.filter (fun entry => entry.1 = []) := by
  rw [List.filter_append]
  exact List.append_nil _

theorem under_append_word (entries : List (List Bytes × Callback)) (first : Bytes)
    (rest : List Bytes) (callback : Callback) (token : Bytes) :
    under [token] (entries ++ [(first :: rest, callback)]) =
      under [token] entries ++ if first = token then [(rest, callback)] else [] := by
  rw [under_append, under_word]

/-- Behind a token that is known there stands what the tree below it stands for. -/
theorem Represents.add_known {first : Bytes} {rest : List Bytes} {next : CLINode Callback}
    (represents : node.Represents entries) (isWord : first ≠ []) (callback : Callback)
    (isNext : node.find first = some next)
    (below : next.Represents (under [first] entries) ->
      Represents (next.add callback rest) (under [first] entries ++ [(rest, callback)])) :
    Represents (node.add callback (first :: rest)) (entries ++ [(first :: rest, callback)]) := by
  have static (old : CLINode Callback) (isOld : old ∈ node.nextNodes)
      (carries : (old.token == first) = true) : old.type = .static ∧ old.token ≠ [] := by
    refine (represents.sorted old isOld).resolve_left (fun ending => ?_)
    exact isWord ((beq_iff_eq.mp carries).symm.trans ending.2.1)
  unfold add
  rw [if_pos (Option.isSome_iff_exists.mpr ⟨next, isNext⟩)]
  refine represents_of_tokens ?_ ?_ (fun token isToken => ?_)
  · intro changed member
    rcases mem_modifyFirst member with old | ⟨old, isOld, carries, same⟩
    · exact represents.sorted changed old
    · rw [same, type_add, token_add]
      exact .inr (static old isOld carries)
  · rw [filter_append_word, ← represents.endings_eq]
    refine congrArg (List.map CLINode.callback) (filter_modifyFirst (fun old isOld carries => ?_))
    rw [type_add, (static old isOld carries).1]
    exact ⟨rfl, rfl⟩
  · rw [find_modifyFirst node first token (token_add callback rest), under_append_word]
    by_cases same : token = first
    · rw [if_pos same, if_pos same.symm, same, isNext]
      rcases represents.token isWord with ⟨none, _⟩ | ⟨other, isOther, _, inner⟩
      · cases none.symm.trans isNext
      · cases Option.some.inj (isOther.symm.trans isNext)
        exact .inr ⟨_, rfl, List.append_ne_nil_of_right_ne_nil _ (List.cons_ne_nil _ _),
          below inner⟩
    · rw [if_neg same, if_neg (Ne.symm same), List.append_nil]
      exact represents.token isToken

/-- A token that is new begins a tree of its own. -/
theorem Represents.add_new {first : Bytes} {rest : List Bytes}
    (represents : node.Represents entries) (isWord : first ≠ []) (callback : Callback)
    (absent : node.find first = none)
    (below : Represents (CLINode.add callback rest (CLINode.mk .static first none []))
      [(rest, callback)]) :
    Represents (node.add callback (first :: rest)) (entries ++ [(first :: rest, callback)]) := by
  have carries : (CLINode.add callback rest (CLINode.mk .static first none [])).token = first :=
    token_add _ _ _
  unfold add
  rw [if_neg (Option.not_isSome_iff_eq_none.mpr absent)]
  refine represents_of_tokens ?_ ?_ (fun token isToken => ?_)
  · intro next member
    rcases List.mem_append.mp member with old | new
    · exact represents.sorted next old
    · rw [List.mem_singleton.mp new, type_add, carries]
      exact .inr ⟨rfl, isWord⟩
  · rw [filter_append_word, ← represents.endings_eq]
    unfold CLINode.endings
    show List.map _ (List.filter _ (node.nextNodes ++ [_])) = _
    rw [List.filter_append, List.filter_cons_of_neg, List.filter_nil, List.append_nil]
    rw [type_add]
    exact of_decide_eq_false rfl
  · rw [find_append, carries, under_append_word]
    by_cases same : first = token
    · rw [← same, absent, if_pos rfl, if_pos rfl]
      rcases represents.token isWord with ⟨_, nothing⟩ | ⟨other, isOther, _⟩
      · rw [nothing]
        exact .inr ⟨_, rfl, List.cons_ne_nil _ _, below⟩
      · cases absent.symm.trans isOther
    · rw [if_neg same, if_neg same, List.append_nil, Option.or_none]
      exact represents.token isToken

/-- A command is added to the entries a tree stands for. -/
theorem Represents.add {tokens : List Bytes} (represents : node.Represents entries)
    (words : ∀ token ∈ tokens, token ≠ []) (callback : Callback) :
    Represents (node.add callback tokens) (entries ++ [(tokens, callback)]) := by
  induction tokens generalizing node entries with
  | nil => exact represents.add_ending callback
  | cons first rest inductionHypothesis =>
      have isWord := words first List.mem_cons_self
      have others := fun token member => words token (List.mem_cons_of_mem first member)
      cases found : node.find first with
      | none =>
          exact represents.add_new isWord callback found
            (inductionHypothesis (represents_bare .static first none) others)
      | some next =>
          exact represents.add_known isWord callback found
            (fun inner => inductionHypothesis inner others)

/-- The walk leads to a tree for the entries that are left, and never to an end node. -/
theorem Represents.walk {tokens : List Bytes} (represents : node.Represents entries)
    (inner : node.type ≠ .ending) (words : ∀ token ∈ tokens, token ≠ []) :
    Represents (node.walk tokens) (reach tokens entries) ∧ (node.walk tokens).type ≠ .ending := by
  induction tokens generalizing node entries with
  | nil => exact ⟨represents, inner⟩
  | cons token rest inductionHypothesis =>
      have others := fun other member => words other (List.mem_cons_of_mem token member)
      have isWord := words token List.mem_cons_self
      unfold CLINode.walk reach
      rcases represents.token isWord with ⟨none, nothing⟩ | ⟨next, found, something, behind⟩
      · rw [none, if_pos (List.isEmpty_iff.mpr nothing)]
        exact inductionHypothesis represents inner others
      · rw [found, if_neg (fun empty => something (List.isEmpty_iff.mp empty))]
        refine inductionHypothesis behind ?_ others
        rcases mem_of_find found with ⟨member, carries⟩
        have kind := represents.sorted next member
        rw [(kind.resolve_left (fun ending => isWord (carries.symm.trans ending.2.1))).1]
        decide

/-- A word node behind a node leads to an entry that has a token. -/
theorem Represents.not_static (represents : node.Represents entries) {next : CLINode Callback}
    (member : next ∈ node.nextNodes) (none : ∀ entry ∈ entries, entry.1 = []) :
    next.type = .ending := by
  rcases represents.sorted next member with ⟨ending, _⟩ | ⟨_, isWord⟩
  · exact ending
  · have found : (node.find next.token).isSome = true :=
      List.find?_isSome.mpr ⟨next, member, beq_self_eq_true _⟩
    rcases represents.token isWord with ⟨absent, _⟩ | ⟨_, _, something, _⟩
    · rw [absent] at found
      cases found
    · refine absurd (under_eq_nil_iff.mpr (fun entry isEntry begins => ?_)) something
      rw [none entry isEntry] at begins
      exact absurd (List.prefix_nil.mp begins) (List.cons_ne_nil _ _)

/-- A single entry with no token is called. -/
theorem Represents.call_single {callback : Callback}
    (represents : node.Represents [([], callback)]) : node.call = .ok callback := by
  have none : ∀ entry ∈ [(([] : List Bytes), callback)], entry.1 = [] := by
    intro entry member
    rw [List.mem_singleton.mp member]
  have endings : node.nextNodes.map CLINode.callback = [some callback] := by
    have all : node.nextNodes.filter (fun next => next.type = .ending) = node.nextNodes :=
      List.filter_eq_self.mpr (fun next member => decide_eq_true (represents.not_static member none))
    have listed := represents.endings_eq
    unfold CLINode.endings at listed
    rw [all] at listed
    exact listed
  rcases List.map_eq_singleton_iff.mp endings with ⟨next, only, isCallback⟩
  have ending := represents.not_static (only ▸ List.mem_singleton_self next) none
  have forward : node.forward = next := by
    unfold CLINode.forward
    rw [only]
  unfold CLINode.call
  dsimp only
  rw [forward, if_neg (not_not.mpr ending), isCallback]

/-- Other entries are not called. -/
theorem Represents.call_other (represents : node.Represents entries) (inner : node.type ≠ .ending)
    (words : ∀ entry ∈ entries, ∀ token ∈ entry.1, token ≠ [])
    (other : forall callback, entries ≠ [([], callback)]) : node.call = .error "Wrong command" := by
  refine if_pos ?_
  unfold CLINode.forward
  split
  · rename_i next only
    rcases represents.sorted next (only ▸ List.mem_singleton_self next) with ⟨ending, empty, _⟩ | ⟨static, _⟩
    · -- The end node alone leaves no entry with a token.
      have none : ∀ entry ∈ entries, entry.1 = [] := by
        intro entry member
        cases word : entry.1 with
        | nil => rfl
        | cons token rest =>
            have isWord := words entry member token (word ▸ List.mem_cons_self)
            have absent : node.find token = none := by
              unfold find
              refine List.find?_eq_none.mpr (fun single member => ?_)
              rw [only] at member
              rw [List.mem_singleton.mp member, empty, beq_iff_eq]
              exact Ne.symm isWord
            rcases represents.token isWord with ⟨_, nothing⟩ | ⟨_, found, _⟩
            · refine absurd ?_ (under_eq_nil_iff.mp nothing entry member)
              rw [word]
              exact List.prefix_append [token] rest
            · cases absent.symm.trans found
      have listed := represents.endings_eq
      rw [List.filter_eq_self.mpr (fun entry member => decide_eq_true (none entry member))] at listed
      unfold CLINode.endings at listed
      rw [only, List.filter_eq_self.mpr (fun single member =>
        List.mem_singleton.mp member ▸ decide_eq_true ending)] at listed
      rcases List.map_eq_singleton_iff.mp listed.symm with ⟨entry, single, _⟩
      have isEmpty := none entry (single ▸ List.mem_singleton_self entry)
      exact absurd (single.trans (congrArg (fun word => [(word, entry.2)]) isEmpty)) (other entry.2)
    · rw [static]
      decide
  · exact inner

end CLINode

namespace CLICMD

/-- The tree of registered commands stands for them. -/
theorem register_represents (list : List (Bytes × Callback)) :
    (register list).startNode.Represents (entries list) ∧
      (register list).startNode.type ≠ .ending := by
  induction list using List.reverseRecOn with
  | nil => exact ⟨CLINode.represents_bare _ _ _, nofun⟩
  | append_singleton list command inductionHypothesis =>
      rcases inductionHypothesis with ⟨represents, inner⟩
      have isAdded : register (list ++ [command]) = (register list).addCmd command.1 command.2 := by
        unfold register
        rw [List.foldl_append]
        rfl
      have isEntries : entries (list ++ [command]) =
          entries list ++ [(split command.1, command.2)] := List.map_append
      rw [isAdded, isEntries]
      unfold addCmd
      rw [CLINode.type_add]
      exact ⟨represents.add (fun _ member => ne_nil_of_mem_split member) command.2, inner⟩

/-- The callback that a line calls is the only entry that is left below its tokens. -/
theorem callCmd_register (list : List (Bytes × Callback)) (line : Bytes) :
    (forall callback, reach (split line) (entries list) = [([], callback)] ->
        (register list).callCmd line = .ok callback) ∧
      ((forall callback, reach (split line) (entries list) ≠ [([], callback)]) ->
        (register list).callCmd line = .error "Wrong command") := by
  rcases register_represents list with ⟨represents, inner⟩
  rcases represents.walk inner (fun token member => ne_nil_of_mem_split member) with ⟨walked, stays⟩
  refine ⟨fun callback single => ?_, fun other => walked.call_other stays ?_ other⟩
  · rw [single] at walked
    exact walked.call_single
  · intro entry member token isToken
    rcases exists_strays (entries list) [] (split line) with ⟨word, _, reached⟩
    rw [under_nil, List.nil_append] at reached
    rw [reached] at member
    have whole := mem_under_iff.mp member
    rcases List.mem_map.mp whole with ⟨command, _, same⟩
    have isWord : split command.1 = word ++ entry.1 := congrArg Prod.fst same
    exact ne_nil_of_mem_split (isWord ▸ List.mem_append_right word isToken)

/-- A line calls the command whose tokens it has, and is refused when no command has
them. -/
structure Obeys (list : List (Bytes × Callback)) (line : Bytes) : Prop where
  calls : ∀ command ∈ list, split command.1 = split line ->
    (register list).callCmd line = .ok command.2
  refuses : (∀ command ∈ list, split command.1 ≠ split line) ->
    (register list).callCmd line = .error "Wrong command"

/-- A command with the tokens of the line begins no other command, and no command that
begins no other is left of the line when the tokens that continue no command are taken
out of it, unless none is. -/
structure Plain (list : List (Bytes × Callback)) (line : Bytes) : Prop where
  whole : ∀ entry ∈ entries list, entry.1 = split line -> Leaf (entries list) entry
  unstrayed : ∀ entry ∈ entries list, Leaf (entries list) entry ->
    Strays (entries list) [] entry.1 (split line) -> entry.1 = split line

theorem nodup_words {list : List (Bytes × Callback)}
    (distinct : (list.map (fun command => split command.1)).Nodup) :
    ((entries list).map Prod.fst).Nodup := by
  unfold entries
  rw [List.map_map]
  exact distinct

/-- What is left below a line that calls something is that callback and no more. -/
theorem reach_of_called {list : List (Bytes × Callback)} {line : Bytes} {callback : Callback}
    (isOk : (register list).callCmd line = .ok callback) :
    reach (split line) (entries list) = [([], callback)] := by
  rcases callCmd_register list line with ⟨single, other⟩
  by_contra apart
  by_cases left : ∃ another, reach (split line) (entries list) = [([], another)]
  · rcases left with ⟨another, reached⟩
    have same := Except.ok.inj ((single another reached).symm.trans isOk)
    exact apart (same ▸ reached)
  · have refused := other (fun another reached => left ⟨another, reached⟩)
    cases refused.symm.trans isOk

theorem plain_of_obeys {list : List (Bytes × Callback)}
    (distinct : (list.map (fun command => split command.1)).Nodup) {line : Bytes}
    (obeys : Obeys list line) : Plain list line := by
  have words := nodup_words distinct
  constructor
  · intro entry member isLine
    rcases List.mem_map.mp member with ⟨command, isCommand, isEntry⟩
    have isTokens : split command.1 = split line := by
      rw [← isLine, ← isEntry]
    have reached := reach_of_called (obeys.calls command isCommand isTokens)
    have strays : Strays (entries list) [] (split line) (split line) :=
      strays_self ⟨entry, member, isLine ▸ List.prefix_refl _⟩
    rw [strays.reach_eq] at reached
    have leaf := ((under_eq_singleton_iff words).mp reached).2
    rw [← isEntry]
    exact isTokens ▸ leaf
  · intro entry member leaf strays
    by_contra different
    have reached : reach (split line) (entries list) = [([], entry.2)] :=
      strays.reach_eq.trans ((under_eq_singleton_iff words).mpr ⟨member, leaf⟩)
    have isOk := (callCmd_register list line).1 entry.2 reached
    by_cases known : ∃ command ∈ list, split command.1 = split line
    · rcases known with ⟨command, isCommand, isLine⟩
      have self : Strays (entries list) [] (split line) (split line) :=
        strays_self ⟨_, List.mem_map_of_mem isCommand, isLine ▸ List.prefix_refl _⟩
      exact different (strays.unique self)
    · have refused := obeys.refuses (fun command isCommand isLine =>
        known ⟨command, isCommand, isLine⟩)
      cases refused.symm.trans isOk

theorem obeys_of_plain {list : List (Bytes × Callback)}
    (distinct : (list.map (fun command => split command.1)).Nodup) {line : Bytes}
    (plain : Plain list line) : Obeys list line := by
  have words := nodup_words distinct
  rcases callCmd_register list line with ⟨single, other⟩
  constructor
  · intro command isCommand isLine
    have member : (split command.1, command.2) ∈ entries list := List.mem_map_of_mem isCommand
    have self : Strays (entries list) [] (split command.1) (split line) := by
      rw [isLine]
      exact strays_self ⟨_, member, isLine ▸ List.prefix_refl _⟩
    exact single command.2 (self.reach_eq.trans
      ((under_eq_singleton_iff words).mpr ⟨member, plain.whole _ member isLine⟩))
  · intro unknown
    refine other (fun callback reached => ?_)
    rcases exists_strays (entries list) [] (split line) with ⟨word, strays, isReached⟩
    rw [under_nil, List.nil_append, reached] at isReached
    rcases (under_eq_singleton_iff words).mp isReached.symm with ⟨member, leaf⟩
    have isLine := plain.unstrayed _ member leaf strays
    rcases List.mem_map.mp member with ⟨command, isCommand, isEntry⟩
    exact unknown command isCommand ((congrArg Prod.fst isEntry).trans isLine)

/-- A line is obeyed exactly when it is plain. -/
theorem obeys_iff (list : List (Bytes × Callback))
    (distinct : (list.map (fun command => split command.1)).Nodup) (line : Bytes) :
    Obeys list line ↔ Plain list line :=
  ⟨plain_of_obeys distinct, obeys_of_plain distinct⟩

/-! ## The commands of the utility -/

/-- The callbacks that the constructor registers. -/
inductive Builtin
  | getVersion
  | getInterfaces
  | getPppoeSessions
  | getAaaSessions
  | exitCb
  deriving DecidableEq, Repr

/-- The commands that the constructor registers. -/
def builtins : List (Bytes × Builtin) :=
  [(ascii "show version", .getVersion), (ascii "show interfaces", .getInterfaces),
    (ascii "show pppoe sessions", .getPppoeSessions), (ascii "show aaa sessions", .getAaaSessions),
    (ascii "exit", .exitCb)]

theorem distinct_builtins : (builtins.map (fun command => split command.1)).Nodup := by
  decide +kernel

theorem leaf_builtins : ∀ entry ∈ entries builtins, Leaf (entries builtins) entry := by
  unfold Leaf
  decide +kernel

theorem plain_builtins : ∀ command ∈ builtins, Plain builtins command.1 := by
  intro command isCommand
  refine ⟨fun entry member _ => leaf_builtins entry member, fun entry member _ strays => ?_⟩
  exact strays.unique (strays_self ⟨_, List.mem_map_of_mem isCommand, List.prefix_refl _⟩)

/-- Every command of the utility is obeyed when it is given as it was registered. -/
theorem obeys_builtins : ∀ command ∈ builtins, Obeys builtins command.1 :=
  fun command isCommand => obeys_of_plain distinct_builtins (plain_builtins command isCommand)

theorem obeys_show_version : Obeys builtins (ascii "show version") :=
  (obeys_iff builtins distinct_builtins (ascii "show version")).mpr
    (plain_builtins (ascii "show version", .getVersion) List.mem_cons_self)

/-- An unknown word is passed over, and a command that begins another one is refused. -/
theorem strayed_and_cut :
    ¬ Obeys builtins (ascii "show bogus version") ∧
      ¬ Obeys [(ascii "show", 1), (ascii "show version", 2)] (ascii "show") := by
  constructor
  · intro obeys
    have refused := obeys.refuses (by decide +kernel)
    have called : (register builtins).callCmd (ascii "show bogus version") = .ok .getVersion := by
      rfl
    cases refused.symm.trans called
  · intro obeys
    have called := obeys.calls (ascii "show", 1) List.mem_cons_self rfl
    have refused : (register [(ascii "show", 1), (ascii "show version", 2)]).callCmd (ascii "show") =
        .error "Wrong command" := by
      rfl
    cases refused.symm.trans called

end CLICMD

end Pppcpd

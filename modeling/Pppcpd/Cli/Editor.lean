import Pppcpd.Cli.Commands
import Pppcpd.Foundation.Completion

namespace Pppcpd

open Foundation

/-!
# The line editor of the control utility

`append_cmd` goes through the tree of commands as `call_cmd` does, and for a token that
no word node carries it offers the nodes that begin with it.  The tabulator completes
the line when there is one offer.  The backspace key erases a byte and falls through to
the tabulator, which may put the byte back.
-/

variable {Callback : Type}

namespace CLINode

/-- The loop of `append_cmd` and what follows it. -/
def append : List Bytes -> CLINode Callback -> Bytes -> List Bytes -> List Bytes
  | [], node, commonPart, ret =>
      if ret.isEmpty then node.nextNodes.map (fun next => commonPart ++ next.token) else ret
  | token :: rest, node, commonPart, ret =>
      match node.find token with
      | some next => append rest next (commonPart ++ (next.token ++ [32])) ret
      | none =>
          append rest node commonPart (ret ++
            (node.nextNodes.filter (fun next => token.isPrefixOf next.token)).map
              (fun next => commonPart ++ next.token))

end CLINode

/-- `append_cmd`. -/
def CLICMD.appendCmd (cmd : Bytes) (commands : CLICMD Callback) : List Bytes :=
  commands.startNode.append (split cmd) [] []

/-- `std::isalnum` in the C locale. -/
def isalnum (ch : UInt8) : Bool :=
  (48 ≤ ch && ch ≤ 57) || (65 ≤ ch && ch ≤ 90) || (97 ≤ ch && ch ≤ 122)

/-- What the utility does about a key besides changing the line. -/
inductive Reaction (Callback : Type)
  | prints (lines : List Bytes)
  | calls (called : Except String Callback)

/-- `CLIClient`: the commands and the line. -/
structure CLIClient (Callback : Type) where
  cmd : CLICMD Callback
  currentCmd : Bytes := []

namespace CLIClient

/-- The tabulator in `process_char`. -/
def tab (client : CLIClient Callback) : CLIClient Callback × Option (Reaction Callback) :=
  match client.cmd.appendCmd client.currentCmd with
  | [only] => ({ client with currentCmd := only ++ [32] }, none)
  | append => (client, some (.prints append))

/-- `process_char`. -/
def processChar (client : CLIClient Callback) (ch : UInt8) :
    CLIClient Callback × Option (Reaction Callback) :=
  if ch = 63 then (client, some (.prints (client.cmd.appendCmd client.currentCmd)))
  else if ch = 8 then { client with currentCmd := client.currentCmd.dropLast }.tab
  else if ch = 9 then client.tab
  else if ch = 10 then
    if client.currentCmd.isEmpty then (client, none)
    else ({ client with currentCmd := [] }, some (.calls (client.cmd.callCmd client.currentCmd)))
  else if isalnum ch || ch == 32 then ({ client with currentCmd := client.currentCmd ++ [ch] }, none)
  else (client, none)

/-- The utility after some keys. -/
def typed (keys : List UInt8) (client : CLIClient Callback) : CLIClient Callback :=
  keys.foldl (fun client ch => (client.processChar ch).1) client

end CLIClient

/-! ## Offers of the tree and of the list -/

/-- The words of a path, each with a space behind it. -/
def spoken (path : List Bytes) : Bytes := path.flatMap (fun word => word ++ [32])

theorem spoken_append (path : List Bytes) (word : Bytes) :
    spoken (path ++ [word]) = spoken path ++ (word ++ [32]) := by
  unfold spoken
  rw [List.flatMap_append, List.flatMap_singleton]

/-- An offer as it is printed.  An end is the empty token. -/
def printed (offer : List Bytes × Option Bytes) : Bytes := spoken offer.1 ++ offer.2.getD []

/-- What comes next begins with a token. -/
def beginsWith (token : Bytes) (head : Option Bytes) : Bool := token.isPrefixOf (head.getD [])

namespace CLINode

/-- The nodes behind a node, and behind those, carry what comes next in the entries. -/
inductive Lists : CLINode Callback -> List (List Bytes × Callback) -> Prop
  | mk {node : CLINode Callback} {entries : List (List Bytes × Callback)} :
      node.nextNodes.map token = (heads entries).map (fun head => head.getD []) ->
      (forall token next, token ≠ [] -> node.find token = some next ->
        Lists next (under [token] entries)) ->
      Lists node entries

variable {node : CLINode Callback} {entries : List (List Bytes × Callback)}

theorem Lists.tokens (lists : node.Lists entries) :
    node.nextNodes.map token = (heads entries).map (fun head => head.getD []) := by
  rcases lists with ⟨tokens, _⟩
  exact tokens

theorem Lists.behind (lists : node.Lists entries) {token : Bytes} {next : CLINode Callback}
    (isWord : token ≠ []) (found : node.find token = some next) :
    Lists next (under [token] entries) := by
  rcases lists with ⟨_, behind⟩
  exact behind token next isWord found

theorem find_isSome_iff (token : Bytes) :
    (node.find token).isSome = true ↔ token ∈ node.nextNodes.map CLINode.token := by
  unfold find
  rw [List.find?_isSome, List.mem_map]
  exact exists_congr (fun next => and_congr Iff.rfl beq_iff_eq)

/-- A word node carries a token just when an entry goes on with it. -/
theorem Lists.find_isSome_iff (lists : node.Lists entries) {token : Bytes} (isWord : token ≠ []) :
    (node.find token).isSome = true ↔ some token ∈ heads entries := by
  rw [CLINode.find_isSome_iff, lists.tokens, List.mem_map]
  constructor
  · rintro ⟨head, member, same⟩
    cases head with
    | none => exact absurd same.symm isWord
    | some other => exact (show other = token from same) ▸ member
  · exact fun member => ⟨some token, member, rfl⟩

theorem lists_bare (type : CLINodeType) (token : Bytes) (callback : Option Callback) :
    Lists (mk type token callback []) [] :=
  .mk rfl (fun _ _ _ found => nomatch found)

theorem Lists.add_ending (lists : node.Lists entries) (callback : Callback) :
    Lists (node.add callback []) (entries ++ [([], callback)]) := by
  refine .mk ?_ (fun token next isWord found => ?_)
  · rw [heads_append_end]
    show List.map _ (node.nextNodes ++ [_]) = _
    rw [List.map_append, List.map_append, lists.tokens]
    rfl
  · have same : (node.add callback []).find token = node.find token := by
      refine (find_append node _ token).trans ?_
      rw [if_neg (fun empty => isWord empty.symm), Option.or_none]
    rw [under_append, under_empty_word, List.append_nil]
    exact lists.behind isWord (same.symm.trans found)

theorem Lists.add_known {first : Bytes} {rest : List Bytes} {next : CLINode Callback}
    (lists : node.Lists entries) (isWord : first ≠ []) (callback : Callback)
    (isNext : node.find first = some next)
    (below : Lists (next.add callback rest) (under [first] entries ++ [(rest, callback)])) :
    Lists (node.add callback (first :: rest)) (entries ++ [(first :: rest, callback)]) := by
  have known := Option.isSome_iff_exists.mpr ⟨next, isNext⟩
  have listed := (lists.find_isSome_iff isWord).mp known
  unfold CLINode.add
  rw [if_pos known]
  refine .mk ?_ (fun token other isToken found => ?_)
  · rw [heads_append_known listed, ← lists.tokens]
    exact map_modifyFirst (fun item => token_add callback rest item) node.nextNodes
  · rw [find_modifyFirst node first token (token_add callback rest)] at found
    rw [under_append_word]
    split at found
    · rename_i same
      rw [isNext] at found
      rw [if_pos same.symm, same, ← Option.some.inj found]
      exact below
    · rename_i different
      rw [if_neg (Ne.symm different), List.append_nil]
      exact lists.behind isToken found

theorem Lists.add_new {first : Bytes} {rest : List Bytes} (lists : node.Lists entries)
    (isWord : first ≠ []) (callback : Callback) (absent : node.find first = none)
    (below : Lists (CLINode.add callback rest (CLINode.mk .static first none [])) [(rest, callback)]) :
    Lists (node.add callback (first :: rest)) (entries ++ [(first :: rest, callback)]) := by
  have unknown : ¬ (node.find first).isSome = true := Option.not_isSome_iff_eq_none.mpr absent
  have unlisted := mt (lists.find_isSome_iff isWord).mpr unknown
  have carries : (CLINode.add callback rest (CLINode.mk .static first none [])).token = first :=
    token_add _ _ _
  unfold CLINode.add
  rw [if_neg unknown]
  refine .mk ?_ (fun token other isToken found => ?_)
  · rw [heads_append_new unlisted]
    show List.map _ (node.nextNodes ++ [_]) = _
    rw [List.map_append, List.map_append, lists.tokens, List.map_singleton, carries]
    rfl
  · rw [find_append, carries] at found
    rw [under_append_word]
    by_cases same : first = token
    · have nothing : under [token] entries = [] := by
        by_contra something
        exact unlisted (mem_heads_some.mpr (same ▸ something))
      rw [← same, absent, if_pos rfl] at found
      rw [if_pos same, nothing, ← Option.some.inj found]
      exact below
    · rw [if_neg same, Option.or_none] at found
      rw [if_neg same, List.append_nil]
      exact lists.behind isToken found

theorem Lists.add {tokens : List Bytes} (lists : node.Lists entries)
    (words : ∀ token ∈ tokens, token ≠ []) (callback : Callback) :
    Lists (node.add callback tokens) (entries ++ [(tokens, callback)]) := by
  induction tokens generalizing node entries with
  | nil => exact lists.add_ending callback
  | cons first rest inductionHypothesis =>
      have isWord := words first List.mem_cons_self
      have others := fun token member => words token (List.mem_cons_of_mem first member)
      cases found : node.find first with
      | none =>
          exact lists.add_new isWord callback found
            (inductionHypothesis (lists_bare .static first none) others)
      | some next =>
          exact lists.add_known isWord callback found
            (inductionHypothesis (lists.behind isWord found) others)

/-- The offers of the tree are those of the entries it lists. -/
theorem append_eq {path tokens : List Bytes} {offered : List (List Bytes × Option Bytes)}
    (lists : node.Lists (under path entries)) (words : ∀ token ∈ tokens, token ≠ []) :
    node.append tokens (spoken path) (offered.map printed) =
      (complete beginsWith entries path tokens offered).map printed := by
  induction tokens generalizing node path offered with
  | nil =>
      unfold append complete
      rw [List.isEmpty_map]
      split
      · have printing : (fun next : CLINode Callback => spoken path ++ next.token) =
            (fun token => spoken path ++ token) ∘ CLINode.token := rfl
        rw [printing, ← List.map_map, lists.tokens, List.map_map, List.map_map]
        rfl
      · rfl
  | cons token rest inductionHypothesis =>
      have isWord := words token List.mem_cons_self
      have others := fun other member => words other (List.mem_cons_of_mem token member)
      have goes : (node.find token).isSome = true ↔ Continues entries path token :=
        (lists.find_isSome_iff isWord).trans mem_heads_iff
      unfold append
      cases found : node.find token with
      | some next =>
          rw [complete_keep (goes.mp (Option.isSome_iff_exists.mpr ⟨next, found⟩))]
          dsimp only
          rw [(mem_of_find found).2, ← spoken_append]
          exact inductionHypothesis (under_under path token entries ▸ lists.behind isWord found) others
      | none =>
          have stops : ¬ Continues entries path token := by
            rw [← goes, found]
            exact Bool.false_ne_true
          rw [complete_stray stops]
          refine Eq.trans ?_ (inductionHypothesis lists others)
          refine congrArg (append rest node (spoken path)) ?_
          have printing : (fun next : CLINode Callback => spoken path ++ next.token) =
              (fun token => spoken path ++ token) ∘ CLINode.token := rfl
          have filtering : (fun next : CLINode Callback => token.isPrefixOf next.token) =
              (fun other => token.isPrefixOf other) ∘ CLINode.token := rfl
          rw [List.map_append, printing, filtering, ← List.map_map, ← List.filter_map, lists.tokens,
            List.filter_map, List.map_map, List.map_map]
          rfl

end CLINode

namespace CLICMD

theorem register_lists (list : List (Bytes × Callback)) :
    (register list).startNode.Lists (entries list) := by
  induction list using List.reverseRecOn with
  | nil => exact CLINode.lists_bare .begin [] none
  | append_singleton list command inductionHypothesis =>
      unfold register entries at inductionHypothesis ⊢
      rw [List.foldl_append, List.map_append]
      exact inductionHypothesis.add (fun token => ne_nil_of_mem_split) command.2

theorem appendCmd_register (list : List (Bytes × Callback)) (line : Bytes) :
    (register list).appendCmd line =
      (complete beginsWith (entries list) [] (split line) []).map printed := by
  have lists := register_lists list
  rw [← under_nil (entries list)] at lists
  exact @CLINode.append_eq _ _ (entries list) [] (split line) [] lists (fun _ => ne_nil_of_mem_split)

/-- What is printed for a line, whatever commands are registered: for each word that
continues no command, all that comes next there and begins with the word, and when that is
nothing, all that comes next behind the words that continue one. -/
theorem mem_appendCmd_iff (list : List (Bytes × Callback)) (line suggestion : Bytes) :
    suggestion ∈ (register list).appendCmd line ↔ ∃ path head,
      suggestion = spoken path ++ head.getD [] ∧
        (Offers beginsWith (entries list) [] (split line) (path, head) ∨
          (forall other, ¬ Offers beginsWith (entries list) [] (split line) other) ∧
            Strays (entries list) [] path (split line) ∧ Follows (entries list) path head) := by
  rw [appendCmd_register, List.mem_map]
  constructor
  · rintro ⟨⟨path, head⟩, member, same⟩
    refine ⟨path, head, same.symm, ?_⟩
    rcases mem_complete_iff.mp member with nothing | offers | ⟨_, silent, word, strays, isPath, follows⟩
    · exact absurd nothing List.not_mem_nil
    · exact .inl offers
    · rw [show path = word from isPath] at follows ⊢
      exact .inr ⟨silent, strays, follows⟩
  · rintro ⟨path, head, same, completes⟩
    refine ⟨(path, head), mem_complete_iff.mpr ?_, same.symm⟩
    rcases completes with offers | ⟨silent, strays, follows⟩
    · exact .inr (.inl offers)
    · exact .inr (.inr ⟨rfl, silent, path, strays, rfl, follows⟩)

/-! ## Lines that no key erases -/

/-- The word is the only one that comes next behind a path and begins with the word less its
last byte. -/
def Firm (entries : List (List Bytes × Callback)) (path : List Bytes) (last : Bytes) : Prop :=
  forall head, Follows entries path head -> beginsWith last.dropLast head = true -> head = some last

/-- The words that are left when the last byte is erased. -/
def erased (path : List Bytes) (last : Bytes) : List Bytes :=
  path ++ if last.dropLast = [] then [] else [last.dropLast]

theorem split_space (line : Bytes) : split (line ++ [32]) = split line := by
  refine (wordsOf_append line rfl []).trans ?_
  exact List.append_nil _

theorem plain_of_mem_split {line word : Bytes} (member : word ∈ split line) :
    ∀ letter ∈ word, (letter == 32) = false := (spaced_wordsOf line).plain word member

/-- Words that are spoken are read again. -/
theorem split_spoken {path : List Bytes} (words : ∀ word ∈ path, word ≠ [])
    (plain : ∀ word ∈ path, ∀ letter ∈ word, (letter == 32) = false) (rest : Bytes) :
    split (spoken path ++ rest) = path ++ split rest := by
  induction path with
  | nil => rfl
  | cons word path inductionHypothesis =>
      have later := inductionHypothesis (fun other member => words other (List.mem_cons_of_mem _ member))
        (fun other member => plain other (List.mem_cons_of_mem _ member))
      have parts : spoken (word :: path) ++ rest = word ++ 32 :: (spoken path ++ rest) := by
        unfold spoken
        simp
      rw [parts]
      refine (wordsOf_append word rfl _).trans ?_
      rw [wordsOf_word (words word List.mem_cons_self) (plain word List.mem_cons_self)]
      exact congrArg (List.cons word) later

variable {list : List (Bytes × Callback)} {path : List Bytes} {last line : Bytes} {callback : Callback}

theorem split_spoken_of_split (isLine : split line = path ++ [last]) (rest : Bytes) :
    split (spoken (path ++ [last]) ++ rest) = path ++ [last] ++ split rest :=
  split_spoken (fun _ member => ne_nil_of_mem_split (isLine ▸ member))
    (fun _ member => plain_of_mem_split (isLine ▸ member)) rest

/-- The last byte of a line that does not end in a space is that of its last word. -/
theorem split_dropLast (isLine : split line = path ++ [last]) (ends : line.getLast? ≠ some 32) :
    split line.dropLast = erased path last := by
  rcases List.eq_nil_or_concat line with empty | ⟨front, letter, parts⟩
  · rw [empty] at isLine
    exact absurd isLine.symm (List.append_ne_nil_of_right_ne_nil _ (List.cons_ne_nil _ _))
  · rw [List.concat_eq_append] at parts
    rw [parts, List.getLast?_concat] at ends
    have isLetter : (letter == 32) = false := beq_eq_false_iff_ne.mpr (fun same => ends (same ▸ rfl))
    rcases @exists_last_word _ (fun letter => letter == 32) front with ⟨words, tail, bare, goes⟩
    have read := goes [letter] (fun other member => List.mem_singleton.mp member ▸ isLetter) (by simp)
    rw [parts] at isLine
    have both := List.append_inj' (isLine.symm.trans read) rfl
    have isTail : last.dropLast = tail := by
      rw [(List.cons.inj both.2).1, List.dropLast_concat]
    rw [parts, List.dropLast_concat, both.1]
    unfold erased
    rw [isTail]
    by_cases nothing : tail = []
    · rw [if_pos nothing, List.append_nil]
      exact bare nothing
    · have whole := goes [] (fun _ member => absurd member List.not_mem_nil)
        (by rw [List.append_nil]; exact nothing)
      rw [List.append_nil, List.append_nil] at whole
      rw [if_neg nothing]
      exact whole

theorem tab_of_single {offer : List Bytes × Option Bytes}
    (only : complete beginsWith (entries list) [] (split line) [] = [offer]) :
    (CLIClient.mk (register list) line).tab.1 = ⟨register list, printed offer ++ [32]⟩ := by
  unfold CLIClient.tab
  rw [appendCmd_register, only]
  rfl

theorem tab_of_other
    (many : forall offer, complete beginsWith (entries list) [] (split line) [] ≠ [offer]) :
    (CLIClient.mk (register list) line).tab.1 = ⟨register list, line⟩ := by
  unfold CLIClient.tab
  dsimp only
  rw [appendCmd_register]
  split
  · rename_i only single
    rcases List.map_eq_singleton_iff.mp single with ⟨offer, isOffer, _⟩
    exact absurd isOffer (many offer)
  · rfl

/-- A command that begins no other one is completed with its end. -/
theorem tab_of_command (only : under (path ++ [last]) (entries list) = [([], callback)])
    (isLine : split line = path ++ [last]) :
    (CLIClient.mk (register list) line).tab.1 =
      ⟨register list, spoken (path ++ [last]) ++ [32]⟩ := by
  have member : (path ++ [last], callback) ∈ entries list := by
    have here : ([], callback) ∈ under (path ++ [last]) (entries list) :=
      only ▸ List.mem_singleton_self _
    rw [mem_under_iff, List.append_nil] at here
    exact here
  have follows : complete beginsWith (entries list) [] (split line) [] = [(path ++ [last], none)] := by
    have led := @complete_of_leads _ _ _ beginsWith (entries list) [] [] [] (path ++ [last])
      ⟨_, member, List.prefix_refl _⟩
    rw [isLine]
    rw [List.append_nil, List.nil_append] at led
    rw [led]
    unfold complete
    rw [only]
    rfl
  rw [tab_of_single follows]
  unfold printed
  rw [Option.getD_none, List.append_nil]

/-- The completions of what is left of a command, when it is no other path. -/
theorem complete_erased (leads : ∃ entry ∈ entries list, path ++ [last] <+: entry.1)
    (stops : last.dropLast ≠ [] -> ¬ Continues (entries list) path last.dropLast) :
    complete beginsWith (entries list) [] (erased path last) [] =
      ((heads (under path (entries list))).filter (beginsWith last.dropLast)).map
        (fun head => (path, head)) := by
  rcases leads with ⟨entry, member, begins⟩
  have along := @complete_of_leads _ _ _ beginsWith (entries list) []
    (if last.dropLast = [] then [] else [last.dropLast]) [] path
    ⟨entry, member, (List.prefix_append path [last]).trans begins⟩
  unfold erased
  rw [along, List.nil_append]
  by_cases nothing : last.dropLast = []
  · rw [if_pos nothing, nothing]
    unfold complete
    have all : (heads (under path (entries list))).filter (beginsWith []) =
        heads (under path (entries list)) := List.filter_eq_self.mpr (fun _ _ => rfl)
    rw [if_pos List.isEmpty_nil, all]
  · rw [if_neg nothing, complete_stray (stops nothing), List.nil_append]
    unfold complete
    rw [if_neg]
    intro empty
    have comes : some last ∈ (heads (under path (entries list))).filter (beginsWith last.dropLast) := by
      refine List.mem_filter.mpr ⟨mem_heads_iff.mpr ⟨entry, member, begins⟩, ?_⟩
      exact List.isPrefixOf_iff_prefix.mpr last.dropLast_prefix
    rw [List.isEmpty_iff, List.map_eq_nil_iff] at empty
    rw [empty] at comes
    exact absurd comes List.not_mem_nil

theorem dropLast_ne (isWord : last ≠ []) : last.dropLast ≠ last := by
  intro same
  have shorter := congrArg List.length same
  rw [List.length_dropLast] at shorter
  have some_letter := List.length_pos_of_ne_nil isWord
  omega

/-- The tabulator puts the last byte back when the word is firm. -/
theorem tab_erased_of_firm (leads : ∃ entry ∈ entries list, path ++ [last] <+: entry.1)
    (isWord : last ≠ []) (firm : Firm (entries list) path last)
    (isLine : split line = erased path last) :
    (CLIClient.mk (register list) line).tab.1 = ⟨register list, spoken (path ++ [last])⟩ := by
  have next : some last ∈ heads (under path (entries list)) := mem_heads_iff.mpr leads
  have begins : beginsWith last.dropLast (some last) = true :=
    List.isPrefixOf_iff_prefix.mpr last.dropLast_prefix
  have stops : last.dropLast ≠ [] -> ¬ Continues (entries list) path last.dropLast := by
    intro _ continues
    have same := firm (some last.dropLast) continues (List.isPrefixOf_iff_prefix.mpr (List.prefix_refl _))
    exact dropLast_ne isWord (Option.some.inj same)
  have single := (filter_heads_eq_singleton_iff next begins).mpr
    (fun head isHead => firm head (mem_heads_iff.mp isHead))
  have only : complete beginsWith (entries list) [] (split line) [] = [(path, some last)] := by
    rw [isLine, complete_erased leads stops, single]
    rfl
  rw [tab_of_single only, spoken_append]
  unfold printed
  rw [Option.getD_some, List.append_assoc]

/-- Otherwise the byte is lost. -/
theorem split_tab_erased_ne (leads : ∃ entry ∈ entries list, path ++ [last] <+: entry.1)
    (isCommand : forall word, word ∈ path ++ [last] -> word ≠ [] ∧ ∀ letter ∈ word, (letter == 32) = false)
    (loose : ¬ Firm (entries list) path last) (isLine : split line = erased path last) :
    split (CLIClient.mk (register list) line).tab.1.currentCmd ≠ path ++ [last] := by
  have isWord := (isCommand last (List.mem_append_right _ (List.mem_singleton_self _))).1
  have shorter : erased path last ≠ path ++ [last] := by
    intro same
    have ends := List.append_cancel_left same
    split at ends
    · cases ends
    · exact dropLast_ne isWord (List.cons.inj ends).1
  by_cases other : last.dropLast ≠ [] ∧ Continues (entries list) path last.dropLast
  · -- What is left is a path of its own, and the line stays on it.
    rcases other with ⟨something, entry, member, begins⟩
    have isErased : erased path last = path ++ [last.dropLast] := by
      unfold erased
      rw [if_neg something]
    by_cases single : ∃ offer, complete beginsWith (entries list) [] (split line) [] = [offer]
    · rcases single with ⟨offer, only⟩
      rw [tab_of_single only]
      have along := @complete_of_leads _ _ _ beginsWith (entries list) [] [] []
        (path ++ [last.dropLast]) ⟨entry, member, begins⟩
      rw [List.append_nil, List.nil_append, ← isErased, ← isLine, only] at along
      unfold complete at along
      rw [if_pos List.isEmpty_nil] at along
      rcases List.map_eq_singleton_iff.mp along.symm with ⟨head, _, isOffer⟩
      rw [← isOffer, isLine, isErased]
      have plain : ∀ word ∈ path ++ [last.dropLast], word ≠ [] ∧ ∀ letter ∈ word, (letter == 32) = false := by
        intro word isPart
        rcases List.mem_append.mp isPart with front | back
        · exact isCommand word (List.mem_append_left _ front)
        · rw [List.mem_singleton.mp back]
          exact ⟨something, fun letter inside => (isCommand last
            (List.mem_append_right _ (List.mem_singleton_self _))).2 letter (List.mem_of_mem_dropLast inside)⟩
      unfold printed
      rw [List.append_assoc, split_spoken (fun word isPart => (plain word isPart).1)
        (fun word isPart => (plain word isPart).2), List.append_assoc]
      intro same
      exact dropLast_ne isWord (List.cons.inj (List.append_cancel_left same)).1
    · rw [tab_of_other (fun offer only => single ⟨offer, only⟩)]
      exact isLine ▸ shorter
  · have stops : last.dropLast ≠ [] -> ¬ Continues (entries list) path last.dropLast :=
      fun something continues => other ⟨something, continues⟩
    have next : some last ∈ heads (under path (entries list)) := mem_heads_iff.mpr leads
    have begins : beginsWith last.dropLast (some last) = true :=
      List.isPrefixOf_iff_prefix.mpr last.dropLast_prefix
    rw [tab_of_other]
    · exact isLine ▸ shorter
    · intro offer only
      rw [isLine, complete_erased leads stops] at only
      rcases List.map_eq_singleton_iff.mp only with ⟨head, single, _⟩
      have isHead : some last = head :=
        List.mem_singleton.mp (single ▸ List.mem_filter.mpr ⟨next, begins⟩)
      rw [← isHead] at single
      exact loose (fun head follows =>
        (filter_heads_eq_singleton_iff next begins).mp single head (mem_heads_iff.mpr follows))

end CLICMD

namespace CLIClient

open CLICMD

/-- The keys that add no letter and end no line. -/
def Quiet (ch : UInt8) : Prop := isalnum ch = false ∧ ch ≠ 10

variable {list : List (Bytes × Callback)} {path : List Bytes} {last line : Bytes} {callback : Callback}

/-- The line has the words of a command, and no quiet key takes one of them away. -/
structure Holds (list : List (Bytes × Callback)) (path : List Bytes) (last line : Bytes) : Prop where
  words : split line = path ++ [last]
  held : line.getLast? = some 32 ∨ Firm (entries list) path last

theorem holds_spoken (isLine : split line = path ++ [last]) :
    Holds list path last (spoken (path ++ [last]) ++ [32]) where
  words := (split_spoken_of_split isLine [32]).trans (List.append_nil _)
  held := .inl List.getLast?_concat

/-- A quiet key keeps the words. -/
theorem Holds.processChar {ch : UInt8}
    (only : under (path ++ [last]) (entries list) = [([], callback)])
    (leads : ∃ entry ∈ entries list, path ++ [last] <+: entry.1)
    (holds : Holds list path last line) (quiet : Quiet ch) :
    ∃ later, ((CLIClient.mk (register list) line).processChar ch).1 = ⟨register list, later⟩ ∧
      Holds list path last later := by
  unfold CLIClient.processChar
  dsimp only
  split
  · exact ⟨line, rfl, holds⟩
  · split
    · by_cases spaced : line.getLast? = some 32
      · have parts : line = line.dropLast ++ [32] := (List.dropLast_append_getLast? 32 spaced).symm
        have words : split line.dropLast = path ++ [last] := by
          rw [← split_space line.dropLast, ← parts]
          exact holds.words
        exact ⟨_, tab_of_command only words, holds_spoken words⟩
      · have firm := holds.held.resolve_left spaced
        have isWord : last ≠ [] :=
          ne_nil_of_mem_split (holds.words ▸ List.mem_append_right _ (List.mem_singleton_self _))
        have read := split_spoken_of_split holds.words []
        rw [List.append_nil] at read
        exact ⟨_, tab_erased_of_firm leads isWord firm (split_dropLast holds.words spaced),
          read.trans (List.append_nil _), .inr firm⟩
    · split
      · exact ⟨_, tab_of_command only holds.words, holds_spoken holds.words⟩
      · rw [if_neg quiet.2, quiet.1, Bool.false_or]
        split
        · rename_i space
          rw [beq_iff_eq.mp space]
          exact ⟨_, rfl, (split_space line).trans holds.words, .inl List.getLast?_concat⟩
        · exact ⟨line, rfl, holds⟩

theorem Holds.typed {keys : List UInt8}
    (only : under (path ++ [last]) (entries list) = [([], callback)])
    (leads : ∃ entry ∈ entries list, path ++ [last] <+: entry.1)
    (holds : Holds list path last line) (quiet : ∀ key ∈ keys, Quiet key) :
    ∃ later, (CLIClient.mk (register list) line).typed keys = ⟨register list, later⟩ ∧
      Holds list path last later := by
  induction keys generalizing line with
  | nil => exact ⟨line, rfl, holds⟩
  | cons key keys inductionHypothesis =>
      rcases holds.processChar only leads (quiet key List.mem_cons_self) with ⟨middle, first, held⟩
      rcases inductionHypothesis held (fun other member => quiet other (List.mem_cons_of_mem _ member)) with
        ⟨later, rest, heldLater⟩
      refine ⟨later, ?_, heldLater⟩
      unfold CLIClient.typed at rest ⊢
      rw [List.foldl_cons, first]
      exact rest

/-- When the words of the line are a command that begins no other one, no keys but letters,
digits and the end of the line change them, however often the backspace key is pressed:
just when the line ends in a space, or the command is firm. -/
theorem keys_keep_command_iff
    (distinct : (list.map (fun command => split command.1)).Nodup)
    (isEntry : (path ++ [last], callback) ∈ entries list)
    (leaf : Leaf (entries list) (path ++ [last], callback)) (isLine : split line = path ++ [last]) :
    (forall keys, (∀ key ∈ keys, Quiet key) ->
        split ((CLIClient.mk (register list) line).typed keys).currentCmd = path ++ [last]) ↔
      line.getLast? = some 32 ∨ Firm (entries list) path last := by
  have only := (under_eq_singleton_iff (nodup_words distinct)).mpr ⟨isEntry, leaf⟩
  have leads : ∃ entry ∈ entries list, path ++ [last] <+: entry.1 := ⟨_, isEntry, List.prefix_refl _⟩
  constructor
  · intro keeps
    by_contra neither
    have ends : line.getLast? ≠ some 32 := fun spaced => neither (.inl spaced)
    have loose : ¬ Firm (entries list) path last := fun firm => neither (.inr firm)
    refine split_tab_erased_ne leads (fun word member => ?_) loose (split_dropLast isLine ends)
      (keeps [8] (fun key member => ?_))
    · exact ⟨ne_nil_of_mem_split (isLine ▸ member), plain_of_mem_split (isLine ▸ member)⟩
    · rw [List.mem_singleton.mp member]
      exact ⟨rfl, by decide⟩
  · intro held keys quiet
    rcases Holds.typed only leads ⟨isLine, held⟩ quiet with ⟨later, same, holds⟩
    rw [same]
    exact holds.words

/-- A command of the utility cannot be erased, although no space ends the line. -/
theorem keys_keep_show_version :
    (ascii "show version").getLast? ≠ some 32 ∧ forall keys, (∀ key ∈ keys, Quiet key) ->
      split ((CLIClient.mk (register builtins) (ascii "show version")).typed keys).currentCmd =
        [ascii "show", ascii "version"] := by
  have isEntry : ([ascii "show"] ++ [ascii "version"], Builtin.getVersion) ∈ entries builtins := by
    decide +kernel
  refine ⟨by decide +kernel,
    (keys_keep_command_iff distinct_builtins isEntry (leaf_builtins _ isEntry) rfl).mpr (.inr ?_)⟩
  have firm : ∀ head ∈ heads (under [ascii "show"] (entries builtins)),
      beginsWith (ascii "version").dropLast head = true -> head = some (ascii "version") := by
    decide +kernel
  exact fun head follows => firm head (mem_heads_iff.mpr follows)

end CLIClient

end Pppcpd

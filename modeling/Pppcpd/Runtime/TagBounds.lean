import Pppcpd.Runtime.Tags

namespace Pppcpd

open Foundation

/-!
# Bytes that `parseTags` reads

The loop of `parseTags` ends on every vector, but it looks for the end of the
vector only after it has read a tag.  What it reads lies in the vector exactly
when every tag up to the one it stops at is complete.
-/

namespace Discovery

/-- The bytes that a round of `parseTags` reads: the type, the length and, unless
it is the end of the list, the value. -/
def tagReads (packet : Buffer) (offset : Nat) : List Nat :=
  List.range' offset (4 +
    if packet.field16 offset = PPPOETag.endOfList then 0 else (packet.field16 (offset + 2)).toNat)

/-- The bytes that the loop of `parseTags` reads, or `none` when it still runs
after the given number of rounds. -/
def readsFrom (packet : Buffer) : Nat -> Nat -> Tags -> Option (List Nat)
  | 0, _, _ => none
  | rounds + 1, offset, tags =>
      let tag := packet.field16 offset
      let len := (packet.field16 (offset + 2)).toNat
      if tag = PPPOETag.endOfList then some (tagReads packet offset)
      else
        let emplaced := Table.emplace tag (packet.slice (offset + 4) len) tags
        if emplaced.2 then
          let next := offset + 4 + len
          if packet.bytes.length ≤ next then some (tagReads packet offset)
          else (readsFrom packet rounds next emplaced.1).map (tagReads packet offset ++ ·)
        else some (tagReads packet offset)

/-- The vector is a sequence of complete tags, up to the end of the list if there
is one. -/
inductive CompleteTags : Bytes -> Prop
  | nil : CompleteTags []
  | ended {t0 t1 l0 l1 : UInt8} {rest : Bytes} : be16 t0 t1 = PPPOETag.endOfList ->
      CompleteTags (t0 :: t1 :: l0 :: l1 :: rest)
  | tag {t0 t1 l0 l1 : UInt8} {rest : Bytes} : (be16 l0 l1).toNat ≤ rest.length ->
      CompleteTags (rest.drop (be16 l0 l1).toNat) -> CompleteTags (t0 :: t1 :: l0 :: l1 :: rest)

/-- The vector starts with complete tags up to the end of the list, the end of the
vector or a type that was seen before, whichever comes first. -/
inductive Readable : List UInt16 -> Bytes -> Prop
  | ended {seen : List UInt16} {t0 t1 l0 l1 : UInt8} {rest : Bytes} :
      be16 t0 t1 = PPPOETag.endOfList -> Readable seen (t0 :: t1 :: l0 :: l1 :: rest)
  | repeated {seen : List UInt16} {t0 t1 l0 l1 : UInt8} {rest : Bytes} : be16 t0 t1 ∈ seen ->
      be16 t0 t1 ≠ PPPOETag.endOfList -> (be16 l0 l1).toNat ≤ rest.length ->
      Readable seen (t0 :: t1 :: l0 :: l1 :: rest)
  | last {seen : List UInt16} {t0 t1 l0 l1 : UInt8} {rest : Bytes} :
      (be16 l0 l1).toNat = rest.length -> Readable seen (t0 :: t1 :: l0 :: l1 :: rest)
  | more {seen : List UInt16} {t0 t1 l0 l1 : UInt8} {rest : Bytes} :
      (be16 l0 l1).toNat < rest.length ->
      Readable (be16 t0 t1 :: seen) (rest.drop (be16 l0 l1).toNat) ->
      Readable seen (t0 :: t1 :: l0 :: l1 :: rest)

/-- The loop ends, it reads only bytes of the vector, and it reports a vector that
is not a sequence of complete tags. -/
structure TagsInside (packet : Buffer) : Prop where
  inside : ∃ reads, readsFrom packet (packet.bytes.length + 1) 0 ∅ = some reads ∧
    ∀ index ∈ reads, index < packet.bytes.length
  reports : ¬ CompleteTags packet.bytes -> (parseTags packet).2 ≠ none

theorem readsFrom_succ (packet : Buffer) (rounds offset : Nat) (tags : Tags) :
    readsFrom packet (rounds + 1) offset tags =
      if packet.field16 offset = PPPOETag.endOfList ∨ packet.field16 offset ∈ tags ∨
          packet.bytes.length ≤ offset + 4 + (packet.field16 (offset + 2)).toNat then
        some (tagReads packet offset)
      else
        (readsFrom packet rounds (offset + 4 + (packet.field16 (offset + 2)).toNat)
          (tags.insert (packet.field16 offset)
            (packet.slice (offset + 4) (packet.field16 (offset + 2)).toNat))).map
          (tagReads packet offset ++ ·) := by
  rw [readsFrom]
  unfold Table.emplace
  by_cases ended : packet.field16 offset = PPPOETag.endOfList
  · simp [ended]
  · by_cases known : packet.field16 offset ∈ tags
    · simp [ended, known]
    · simp [ended, known]

/-- The loop ends after at most as many rounds as there are bytes ahead, and one. -/
theorem readsFrom_isSome (packet : Buffer) {rounds offset : Nat}
    (enough : packet.bytes.length < offset + rounds) (positive : 0 < rounds) (tags : Tags) :
    (readsFrom packet rounds offset tags).isSome = true := by
  induction rounds generalizing offset tags with
  | zero => exact absurd positive (Nat.lt_irrefl 0)
  | succ rounds inductionHypothesis =>
      rw [readsFrom_succ]
      split
      · rfl
      · rename_i continues
        have below := Nat.lt_of_not_le (fun beyond => continues (.inr (.inr beyond)))
        rw [Option.isSome_map]
        exact inductionHypothesis (by omega) (by omega) _

theorem four_le_of_readable {seen : List UInt16} {bytes : Bytes} (readable : Readable seen bytes) :
    4 ≤ bytes.length := by
  cases readable <;> simp

/-- The fields of a tag that lies ahead. -/
theorem fields_ahead (front : Bytes) (t0 t1 l0 l1 : UInt8) (rest : Bytes) (behind : Nat -> UInt8) :
    (Buffer.mk (front ++ t0 :: t1 :: l0 :: l1 :: rest) behind).field16 front.length = be16 t0 t1 ∧
      (Buffer.mk (front ++ t0 :: t1 :: l0 :: l1 :: rest) behind).field16 (front.length + 2) =
        be16 l0 l1 :=
  ⟨Buffer.field16_append front (t0 :: t1 :: l0 :: l1 :: rest) behind 0,
    Buffer.field16_append front (t0 :: t1 :: l0 :: l1 :: rest) behind 2⟩

/-- A tag and what comes before it, and what lies behind the tag. -/
theorem split_behind (front : Bytes) (t0 t1 l0 l1 : UInt8) (rest : Bytes) (size : Nat) :
    front ++ t0 :: t1 :: l0 :: l1 :: rest =
      (front ++ t0 :: t1 :: l0 :: l1 :: rest.take size) ++ rest.drop size := by
  simp

theorem length_up_to (front : Bytes) (t0 t1 l0 l1 : UInt8) {rest : Bytes} {size : Nat}
    (fits : size ≤ rest.length) :
    (front ++ t0 :: t1 :: l0 :: l1 :: rest.take size).length = front.length + 4 + size := by
  simp only [List.length_append, List.length_cons, List.length_take]
  omega

/-- What a round that meets a tag reads lies in the vector when its value does. -/
theorem tagReads_inside_iff (front : Bytes) (t0 t1 l0 l1 : UInt8) (rest : Bytes)
    (behind : Nat -> UInt8) :
    (∀ index ∈ tagReads ⟨front ++ t0 :: t1 :: l0 :: l1 :: rest, behind⟩ front.length,
        index < (front ++ t0 :: t1 :: l0 :: l1 :: rest).length) ↔
      be16 t0 t1 = PPPOETag.endOfList ∨ (be16 l0 l1).toNat ≤ rest.length := by
  unfold tagReads
  rcases fields_ahead front t0 t1 l0 l1 rest behind with ⟨isType, isLength⟩
  rw [isType, isLength]
  simp only [List.length_append, List.length_cons]
  constructor
  · intro inside
    by_cases ended : be16 t0 t1 = PPPOETag.endOfList
    · exact .inl ended
    · rw [if_neg ended] at inside
      have last := inside (front.length + 3 + (be16 l0 l1).toNat)
        (List.mem_range'_1.mpr ⟨by omega, by omega⟩)
      exact .inr (by omega)
  · intro either index member
    have bounds := List.mem_range'_1.mp member
    rcases either with ended | fits
    · rw [if_pos ended] at bounds
      omega
    · split at bounds <;> omega

/-- A round reads four bytes at least. -/
theorem not_tagReads_inside {packet : Buffer} {offset : Nat} (short : packet.bytes.length < offset + 4) :
    ¬ ∀ index ∈ tagReads packet offset, index < packet.bytes.length := by
  intro inside
  have last := inside (offset + 3) (List.mem_range'_1.mpr ⟨by omega, by omega⟩)
  omega

/-- The loop reads only bytes of the vector exactly when what lies ahead of it is
readable. -/
theorem reads_inside_iff {ahead : Bytes} {rounds : Nat} (enough : ahead.length < rounds) (front : Bytes)
    (behind : Nat -> UInt8) {seen : List UInt16} {tags : Tags}
    (same : forall tag, tag ∈ seen ↔ tag ∈ tags) :
    (∃ reads, readsFrom ⟨front ++ ahead, behind⟩ rounds front.length tags = some reads ∧
        ∀ index ∈ reads, index < (front ++ ahead).length) ↔ Readable seen ahead := by
  induction rounds generalizing front ahead seen tags with
  | zero => exact absurd enough (Nat.not_lt_zero _)
  | succ rounds inductionHypothesis =>
      rw [readsFrom_succ]
      match ahead with
      | [] | [_] | [_, _] | [_, _, _] =>
          refine ⟨?_, fun readable => absurd (four_le_of_readable readable) (by simp)⟩
          rintro ⟨reads, isReads, inside⟩
          rw [if_pos (.inr (.inr (by simp; omega)))] at isReads
          rw [← Option.some.inj isReads] at inside
          exact absurd inside (not_tagReads_inside (by simp))
      | t0 :: t1 :: l0 :: l1 :: rest =>
          rcases fields_ahead front t0 t1 l0 l1 rest behind with ⟨isType, isLength⟩
          have within := tagReads_inside_iff front t0 t1 l0 l1 rest behind
          have isNext : (front ++ t0 :: t1 :: l0 :: l1 :: rest).length ≤
              front.length + 4 + (be16 l0 l1).toNat ↔ rest.length ≤ (be16 l0 l1).toNat := by
            simp only [List.length_append, List.length_cons]
            omega
          rw [isType, isLength]
          have stops_iff : (be16 t0 t1 = PPPOETag.endOfList ∨ be16 t0 t1 ∈ tags ∨
                (front ++ t0 :: t1 :: l0 :: l1 :: rest).length ≤
                  front.length + 4 + (be16 l0 l1).toNat) ↔
              be16 t0 t1 = PPPOETag.endOfList ∨ be16 t0 t1 ∈ seen ∨
                rest.length ≤ (be16 l0 l1).toNat := by
            rw [isNext, same]
          by_cases stops : be16 t0 t1 = PPPOETag.endOfList ∨ be16 t0 t1 ∈ seen ∨
              rest.length ≤ (be16 l0 l1).toNat
          · rw [if_pos (stops_iff.mpr stops)]
            constructor
            · rintro ⟨reads, isReads, inside⟩
              rw [← Option.some.inj isReads] at inside
              rcases within.mp inside with ended | fits
              · exact .ended ended
              · rcases stops with ended | known | last
                · exact .ended ended
                · by_cases ended : be16 t0 t1 = PPPOETag.endOfList
                  · exact .ended ended
                  · exact .repeated known ended fits
                · exact .last (Nat.le_antisymm fits last)
            · intro readable
              refine ⟨_, rfl, within.mpr ?_⟩
              cases readable with
              | ended ended => exact .inl ended
              | repeated _ _ fits => exact .inr fits
              | last exactly => exact .inr (Nat.le_of_eq exactly)
              | more fits _ => exact .inr (Nat.le_of_lt fits)
          · rw [if_neg (fun other => stops (stops_iff.mp other))]
            rcases not_or.mp stops with ⟨other, going⟩
            rcases not_or.mp going with ⟨new, notLast⟩
            have fits := Nat.lt_of_not_le notLast
            -- The loop goes on behind the value of this tag.
            have split := split_behind front t0 t1 l0 l1 rest (be16 l0 l1).toNat
            have moved := length_up_to front t0 t1 l0 l1 (Nat.le_of_lt fits)
            have later := @inductionHypothesis (rest.drop (be16 l0 l1).toNat)
              (by
                rw [List.length_drop]
                simp only [List.length_cons] at enough
                omega)
              (front ++ t0 :: t1 :: l0 :: l1 :: rest.take (be16 l0 l1).toNat)
              (be16 t0 t1 :: seen)
              (tags.insert (be16 t0 t1) ((Buffer.mk (front ++ t0 :: t1 :: l0 :: l1 :: rest) behind).slice
                (front.length + 4) (be16 l0 l1).toNat))
              (fun tag => by rw [List.mem_cons, AList.mem_insert, same])
            rw [← split, moved] at later
            have here := within.mpr (.inr (Nat.le_of_lt fits))
            constructor
            · rintro ⟨reads, isReads, inside⟩
              rcases Option.map_eq_some_iff.mp isReads with ⟨others, isOthers, isAll⟩
              rw [← isAll] at inside
              exact .more fits (later.mp ⟨others, isOthers, fun index member =>
                inside index (List.mem_append_right _ member)⟩)
            · intro readable
              cases readable with
              | ended ended => exact absurd ended other
              | repeated known _ _ => exact absurd known new
              | last exactly => exact absurd (Nat.le_of_eq exactly.symm) notLast
              | more _ ahead =>
                  rcases later.mpr ahead with ⟨others, isOthers, inside⟩
                  refine ⟨_, by rw [isOthers]; rfl, fun index member => ?_⟩
                  rcases List.mem_append.mp member with isHere | isLater
                  · exact here index isHere
                  · exact inside index isLater

theorem parseTagsFrom_succ (packet : Buffer) (rounds offset : Nat) (tags : Tags) :
    parseTagsFrom packet (rounds + 1) offset tags =
      let tag := packet.field16 offset
      let next := offset + 4 + (packet.field16 (offset + 2)).toNat
      let known := tags.insert tag (packet.slice (offset + 4) (packet.field16 (offset + 2)).toNat)
      if tag = PPPOETag.endOfList then (tags, none)
      else if tag ∈ tags then (tags, some ("Cannot insert tag " ++ toString tag.toNat ++ " in tag map"))
      else if packet.bytes.length ≤ next then (known, none)
      else parseTagsFrom packet rounds next known := by
  rw [parseTagsFrom]
  unfold Table.emplace
  by_cases known : packet.field16 offset ∈ tags
  · simp [known]
  · simp [known]

/-- Once the loop has ended, more rounds change nothing. -/
theorem parseTagsFrom_add {packet : Buffer} {rounds offset : Nat} {tags : Tags}
    (ended : (readsFrom packet rounds offset tags).isSome = true) (more : Nat) :
    parseTagsFrom packet (rounds + more) offset tags = parseTagsFrom packet rounds offset tags := by
  induction rounds generalizing offset tags with
  | zero => cases ended
  | succ rounds inductionHypothesis =>
      rw [readsFrom_succ] at ended
      rw [Nat.add_right_comm, parseTagsFrom_succ, parseTagsFrom_succ]
      dsimp only
      split
      · rfl
      · rename_i other
        split
        · rfl
        · rename_i new
          split
          · rfl
          · rename_i inside
            rw [if_neg (not_or.mpr ⟨other, not_or.mpr ⟨new, inside⟩⟩), Option.isSome_map] at ended
            exact inductionHypothesis ended

/-- A readable vector is complete, or the loop reports a type that it had before. -/
theorem complete_or_reported {ahead : Bytes} {seen : List UInt16} (readable : Readable seen ahead)
    {rounds : Nat} (enough : ahead.length < rounds) (front : Bytes) (behind : Nat -> UInt8) {tags : Tags}
    (same : forall tag, tag ∈ seen ↔ tag ∈ tags) :
    CompleteTags ahead ∨
      (parseTagsFrom ⟨front ++ ahead, behind⟩ rounds front.length tags).2 ≠ none := by
  induction readable generalizing rounds front tags with
  | ended ended => exact .inl (.ended ended)
  | @repeated seen t0 t1 l0 l1 rest known other fits =>
      rcases Nat.exists_eq_succ_of_ne_zero (Nat.ne_zero_of_lt enough) with ⟨fewer, isRounds⟩
      rcases fields_ahead front t0 t1 l0 l1 rest behind with ⟨isType, isLength⟩
      refine .inr ?_
      rw [isRounds, parseTagsFrom_succ, isType, isLength]
      dsimp only
      rw [if_neg other, if_pos ((same _).mp known)]
      exact Option.some_ne_none _
  | @last seen t0 t1 l0 l1 rest exactly =>
      refine .inl (.tag (Nat.le_of_eq exactly) ?_)
      rw [exactly, List.drop_length]
      exact .nil
  | @more seen t0 t1 l0 l1 rest fits ahead inductionHypothesis =>
      rcases Nat.exists_eq_succ_of_ne_zero (Nat.ne_zero_of_lt enough) with ⟨fewer, isRounds⟩
      rcases fields_ahead front t0 t1 l0 l1 rest behind with ⟨isType, isLength⟩
      by_cases ended : be16 t0 t1 = PPPOETag.endOfList
      · exact .inl (.ended ended)
      · rw [isRounds, parseTagsFrom_succ, isType, isLength]
        dsimp only
        rw [if_neg ended]
        by_cases known : be16 t0 t1 ∈ tags
        · rw [if_pos known]
          exact .inr (Option.some_ne_none _)
        · have split := split_behind front t0 t1 l0 l1 rest (be16 l0 l1).toNat
          have moved := length_up_to front t0 t1 l0 l1 (Nat.le_of_lt fits)
          have inside : ¬ (front ++ t0 :: t1 :: l0 :: l1 :: rest).length ≤
              front.length + 4 + (be16 l0 l1).toNat := by
            simp only [List.length_append, List.length_cons]
            omega
          rw [if_neg known, if_neg inside]
          have later := @inductionHypothesis fewer
            (by
              rw [List.length_drop]
              simp only [List.length_cons] at enough
              omega)
            (front ++ t0 :: t1 :: l0 :: l1 :: rest.take (be16 l0 l1).toNat)
            (tags.insert (be16 t0 t1) ((Buffer.mk (front ++ t0 :: t1 :: l0 :: l1 :: rest) behind).slice
              (front.length + 4) (be16 l0 l1).toNat))
            (fun tag => by rw [List.mem_cons, AList.mem_insert, same])
          rw [← split, moved] at later
          exact later.imp (fun complete => .tag (Nat.le_of_lt fits) complete) id

/-- `parseTags` stays in the vectors that are readable, and in no other. -/
theorem tagsInside_iff (packet : Buffer) : TagsInside packet ↔ Readable [] packet.bytes := by
  have same : forall tag, tag ∈ ([] : List UInt16) ↔ tag ∈ (∅ : Tags) := fun tag =>
    iff_of_false List.not_mem_nil (@AList.notMem_empty _ _ tag)
  have reads := @reads_inside_iff packet.bytes (packet.bytes.length + 1) (Nat.lt_succ_self _) []
    packet.behind [] ∅ same
  constructor
  · intro inside
    exact reads.mp inside.inside
  · intro readable
    refine ⟨reads.mpr readable, fun incomplete => ?_⟩
    have reported := complete_or_reported readable (Nat.lt_succ_self _) [] packet.behind same
    exact reported.resolve_left incomplete

/-- In the empty vector four bytes are read. -/
theorem empty_vector_left : ¬ TagsInside ⟨[], fun _ => 0⟩ := by
  intro inside
  rcases inside.inside with ⟨reads, isReads, within⟩
  have isHeader : reads = [0, 1, 2, 3] := (Option.some.inj isReads).symm
  exact absurd (within 0 (isHeader ▸ List.mem_cons_self)) (Nat.not_lt_zero 0)

end Discovery

end Pppcpd

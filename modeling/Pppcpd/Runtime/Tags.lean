import Pppcpd.Runtime.Discovery

namespace Pppcpd

open Foundation

/-!
# The tags of discovery packets

What `insertTag` writes for a list of tags with different types, `parseTags`
reads back, whatever the memory holds behind the packet.  The length that a
reply gets is another matter: the size of a tag counts in it modulo 256.
-/

namespace Discovery

/-- A tag: its type and its value. -/
abbrev Tag := UInt16 × Bytes

/-- The bytes of a list of tags. -/
def encodeTags (tags : List Tag) : Bytes := tags.flatMap (fun tag => tagBytes tag.1 tag.2)

theorem length_tagBytes (tag : UInt16) (value : Bytes) :
    (tagBytes tag value).length = 4 + value.length := by
  simp [tagBytes, bytes16]
  omega

/-- The bytes at a position where a tag starts. -/
theorem read_tag (front rest : Bytes) (behind : Nat -> UInt8) {tag : UInt16} {value : Bytes}
    (fits : value.length < 65536) :
    let buffer : Buffer := ⟨front ++ (tagBytes tag value ++ rest), behind⟩
    buffer.field16 front.length = tag ∧ (buffer.field16 (front.length + 2)).toNat = value.length ∧
      buffer.slice (front.length + 4) value.length = value := by
  have split : tagBytes tag value ++ rest =
      bytes16 tag ++ (bytes16 (UInt16.ofNat value.length) ++ (value ++ rest)) := by
    simp only [tagBytes, List.append_assoc]
  refine ⟨?_, ?_, ?_⟩
  · have start := Buffer.field16_append front (tagBytes tag value ++ rest) behind 0
    rw [split, Buffer.field16_bytes16] at start
    exact split ▸ start
  · have start := Buffer.field16_append front (tagBytes tag value ++ rest) behind 2
    have next := Buffer.field16_append (bytes16 tag)
      (bytes16 (UInt16.ofNat value.length) ++ (value ++ rest)) behind 0
    rw [Buffer.field16_bytes16] at next
    rw [start, split]
    rw [show (Buffer.mk (bytes16 tag ++ _) behind).field16 2 = _ from next, UInt16.toNat_ofNat']
    exact Nat.mod_eq_of_lt fits
  · have cut : front ++ (tagBytes tag value ++ rest) =
        (front ++ (bytes16 tag ++ bytes16 (UInt16.ofNat value.length))) ++ (value ++ rest) := by
      rw [split, List.append_assoc, List.append_assoc]
    refine Buffer.slice_of_cut cut ?_ rfl behind
    rw [List.length_append]
    rfl

/-- One round of `parseTags` on a tag that is new. -/
theorem parseTagsFrom_tag (front rest : Bytes) (behind : Nat -> UInt8) (rounds : Nat) {known : Tags}
    {tag : UInt16} {value : Bytes} (typed : tag ≠ PPPOETag.endOfList) (fits : value.length < 65536)
    (fresh : tag ∉ known) :
    parseTagsFrom ⟨front ++ (tagBytes tag value ++ rest), behind⟩ (rounds + 1) front.length known =
      if rest = [] then (known.insert tag value, none)
      else parseTagsFrom ⟨(front ++ tagBytes tag value) ++ rest, behind⟩ rounds
        (front ++ tagBytes tag value).length (known.insert tag value) := by
  rcases @read_tag front rest behind tag value fits with ⟨isTag, isLength, isValue⟩
  have next : front.length + 4 + value.length = (front ++ tagBytes tag value).length := by
    rw [List.length_append, length_tagBytes]
    omega
  have isEnd : (front ++ (tagBytes tag value ++ rest)).length ≤ (front ++ tagBytes tag value).length ↔
      rest = [] := by
    rw [← List.append_assoc, List.length_append, ← List.length_eq_zero_iff]
    omega
  rw [parseTagsFrom]
  simp only [isTag, isLength, isValue, next, isEnd, typed, if_false, Table.emplace, fresh, if_true,
    List.append_assoc]

/-- A list of tags that can be told apart. -/
structure WellFormed (tags : List Tag) : Prop where
  distinct : (tags.map Prod.fst).Nodup
  typed : forall tag, tag ∈ tags -> tag.1 ≠ PPPOETag.endOfList
  fits : forall tag, tag ∈ tags -> tag.2.length < 65536

theorem WellFormed.tail {tag : Tag} {tags : List Tag} (wellFormed : WellFormed (tag :: tags)) :
    WellFormed tags where
  distinct := (List.nodup_cons.mp wellFormed.distinct).2
  typed := fun other member => wellFormed.typed other (List.mem_cons_of_mem tag member)
  fits := fun other member => wellFormed.fits other (List.mem_cons_of_mem tag member)

/-- What may follow the tags of a packet: nothing, or the end of the list and
any further bytes. -/
def EndsList (suffix : Bytes) : Prop :=
  suffix = [] ∨ ∃ more, suffix = bytes16 PPPOETag.endOfList ++ more

theorem encodeTags_eq_nil {tags : List Tag} : encodeTags tags = [] ↔ tags = [] := by
  cases tags with
  | nil => exact ⟨fun _ => rfl, fun _ => rfl⟩
  | cons tag rest =>
      refine ⟨fun nothing => ?_, nofun⟩
      have length := congrArg List.length nothing
      rw [encodeTags, List.flatMap_cons, List.length_append, length_tagBytes] at length
      simp at length

theorem length_le_encodeTags (tags : List Tag) : tags.length ≤ (encodeTags tags).length := by
  induction tags with
  | nil => exact Nat.le_refl _
  | cons tag rest inductionHypothesis =>
      have more : (encodeTags (tag :: rest)).length =
          4 + tag.2.length + (encodeTags rest).length := by
        rw [encodeTags, List.flatMap_cons, List.length_append, length_tagBytes]
        rfl
      rw [more, List.length_cons]
      omega

theorem lookup_insert_tag {known : Tags} {tag : Tag} (new : tag.1 ∉ known) (other : UInt16)
    (value : Bytes) : (known.insert tag.1 tag.2).lookup other = some value ↔
      known.lookup other = some value ∨ (other, value) = tag := by
  rw [Table.lookup_insert_eq]
  split
  · rename_i same
    rw [same, Table.not_mem_iff_lookup.mp new]
    constructor
    · intro found
      rw [← Option.some.inj found]
      exact .inr rfl
    · rintro (found | equal)
      · cases found
      · rw [← equal]
  · rename_i different
    exact ⟨.inl, fun either => either.resolve_right (fun equal => different (congrArg Prod.fst equal))⟩

/-- The loop of `parseTags` adds the tags that lie ahead to those it has. -/
theorem parseTagsFrom_encodeTags {tags : List Tag} (wellFormed : WellFormed tags)
    {suffix : Bytes} (ends : EndsList suffix) (remains : tags ≠ [] ∨ suffix ≠ []) (front : Bytes)
    (behind : Nat -> UInt8) {rounds : Nat} (enough : tags.length < rounds) {known : Tags}
    (fresh : forall tag, tag ∈ tags -> tag.1 ∉ known) :
    ∃ parsed, parseTagsFrom ⟨front ++ (encodeTags tags ++ suffix), behind⟩ rounds front.length known =
        (parsed, none) ∧
      forall tag value, parsed.lookup tag = some value ↔
        known.lookup tag = some value ∨ (tag, value) ∈ tags := by
  induction tags generalizing front rounds known with
  | nil =>
      rcases ends with none | ⟨more, isEnd⟩
      · exact absurd none (remains.resolve_left (fun same => same rfl))
      · have start := Buffer.field16_append front suffix behind 0
        rw [isEnd, Buffer.field16_bytes16] at start
        cases rounds with
        | zero => exact absurd enough (Nat.not_lt_zero _)
        | succ rounds =>
            refine ⟨known, ?_, fun tag value => by simp⟩
            rw [isEnd, encodeTags, List.flatMap_nil, List.nil_append, parseTagsFrom]
            exact if_pos start
  | cons tag rest inductionHypothesis =>
      cases rounds with
      | zero => exact absurd enough (Nat.not_lt_zero _)
      | succ rounds =>
          have new := fresh tag List.mem_cons_self
          have ahead : encodeTags (tag :: rest) ++ suffix =
              tagBytes tag.1 tag.2 ++ (encodeTags rest ++ suffix) := by
            rw [encodeTags, List.flatMap_cons, List.append_assoc]
            rfl
          have entered := lookup_insert_tag new
          rw [ahead, parseTagsFrom_tag front _ behind rounds (wellFormed.typed tag List.mem_cons_self)
            (wellFormed.fits tag List.mem_cons_self) new]
          split
          · rename_i nothing
            have last : rest = [] := encodeTags_eq_nil.mp (List.append_eq_nil_iff.mp nothing).1
            refine ⟨_, rfl, fun other value => ?_⟩
            rw [entered, last, List.mem_singleton]
          · rename_i something
            have others := List.nodup_cons.mp wellFormed.distinct
            have left : rest ≠ [] ∨ suffix ≠ [] := by
              refine not_and_or.mp (fun both => something ?_)
              rw [encodeTags_eq_nil.mpr both.1, both.2]
              rfl
            have apart : forall other, other ∈ rest -> other.1 ∉ known.insert tag.1 tag.2 := by
              intro other member entry
              rcases (AList.mem_insert known).mp entry with equal | old
              · exact others.1 (equal ▸ List.mem_map_of_mem member)
              · exact fresh other (List.mem_cons_of_mem tag member) old
            rcases inductionHypothesis wellFormed.tail left (front ++ tagBytes tag.1 tag.2)
              (Nat.lt_of_succ_lt_succ enough) apart with ⟨parsed, same, holds⟩
            refine ⟨parsed, same, fun other value => ?_⟩
            rw [holds, entered, List.mem_cons, or_assoc]

/-- The tags that `insertTag` wrote are read back. -/
theorem parseTags_encodeTags {tags : List Tag} (wellFormed : WellFormed tags) {suffix : Bytes}
    (ends : EndsList suffix) (remains : tags ≠ [] ∨ suffix ≠ []) (behind : Nat -> UInt8) :
    ∃ parsed, parseTags ⟨encodeTags tags ++ suffix, behind⟩ = (parsed, none) ∧
      forall tag value, parsed.lookup tag = some value ↔ (tag, value) ∈ tags := by
  have enough : tags.length < (encodeTags tags ++ suffix).length + 1 := by
    have long := length_le_encodeTags tags
    rw [List.length_append]
    omega
  rcases parseTagsFrom_encodeTags wellFormed ends remains [] behind enough
    (fun tag _ => @AList.notMem_empty _ _ tag.1) with ⟨parsed, same, holds⟩
  refine ⟨parsed, same, fun tag value => ?_⟩
  rw [holds, Table.lookup_empty]
  exact ⟨fun either => either.resolve_left nofun, .inr⟩

/-! ## The length of a reply -/

/-- Insert a list of tags. -/
def Reply.insertTags (reply : Reply) (tags : List Tag) : Reply :=
  tags.foldl (fun reply tag => reply.insertTag tag.1 tag.2) reply

theorem Reply.tags_insertTags (reply : Reply) (tags : List Tag) :
    (reply.insertTags tags).tags = reply.tags ++ encodeTags tags := by
  induction tags generalizing reply with
  | nil => exact (List.append_nil _).symm
  | cons tag rest inductionHypothesis =>
      have inserted := inductionHypothesis (reply.insertTag tag.1 tag.2)
      rw [insertTags, List.foldl_cons]
      rw [insertTags] at inserted
      rw [inserted, encodeTags, encodeTags, List.flatMap_cons, ← List.append_assoc]
      rfl

/-- What `insertTag` wrote, tag after tag, is read back without an error, alone or
with the end of the list and any bytes behind it. -/
theorem parseTags_insertTags {tags : List Tag} (nonempty : tags ≠ []) (wellFormed : WellFormed tags)
    {following : Bytes} (ends : EndsList following) (behind : Nat -> UInt8) :
    ∃ parsed, parseTags ⟨(({} : Reply).insertTags tags).tags ++ following, behind⟩ = (parsed, none) ∧
      forall tag value, parsed.lookup tag = some value ↔ (tag, value) ∈ tags := by
  have written : (({} : Reply).insertTags tags).tags = encodeTags tags :=
    Reply.tags_insertTags {} tags
  rw [written]
  exact parseTags_encodeTags wellFormed ends (.inl nonempty) behind

/-- The second value looks like a tag, and so do the bytes behind the list. -/
theorem parseTags_insertTags_lookalike :
    ∃ parsed, parseTags ⟨(({} : Reply).insertTags [(PPPOETag.serviceName, []),
        (PPPOETag.hostUniq, [1, 2, 0, 1, 7])]).tags ++ [0, 0, 0, 0, 1, 1, 0, 9], fun _ => 0⟩ =
        (parsed, none) ∧
      forall tag value, parsed.lookup tag = some value ↔
        (tag, value) ∈ [(PPPOETag.serviceName, []), (PPPOETag.hostUniq, [1, 2, 0, 1, 7])] :=
  parseTags_insertTags (by decide)
    { distinct := by decide
      typed := by decide
      fits := by decide }
    (.inr ⟨[0, 0, 1, 1, 0, 9], rfl⟩) (fun _ => 0)

/-- What a list of tags adds to `taglen`: each size counts modulo 256. -/
def countedLength (tags : List Tag) : Nat := (tags.map (fun tag => (4 + tag.2.length) % 256)).sum

theorem Reply.taglen_insertTags (reply : Reply) (tags : List Tag)
    (fits : reply.taglen.toNat + 255 * tags.length < 65536) :
    (reply.insertTags tags).taglen.toNat = reply.taglen.toNat + countedLength tags := by
  induction tags generalizing reply with
  | nil => rfl
  | cons tag rest inductionHypothesis =>
      rw [List.length_cons] at fits
      have one : (reply.insertTag tag.1 tag.2).taglen.toNat =
          reply.taglen.toNat + (4 + tag.2.length) % 256 := by
        simp only [insertTag, UInt16.toNat_add, UInt8.toNat_toUInt16, UInt8.toNat_ofNat']
        omega
      have inserted := inductionHypothesis (reply.insertTag tag.1 tag.2) (by omega)
      rw [insertTags] at inserted
      rw [insertTags, List.foldl_cons, inserted, one, countedLength, countedLength, List.map_cons,
        List.sum_cons, Nat.add_assoc]

theorem length_encodeTags (tags : List Tag) :
    (encodeTags tags).length = (tags.map (fun tag => 4 + tag.2.length)).sum := by
  rw [encodeTags, List.length_flatMap]
  simp only [length_tagBytes]

theorem countedLength_le_length (tags : List Tag) :
    countedLength tags ≤ (encodeTags tags).length := by
  rw [length_encodeTags]
  induction tags with
  | nil => exact Nat.le_refl _
  | cons tag rest inductionHypothesis =>
      exact Nat.add_le_add (Nat.mod_le _ _) inductionHypothesis

/-- The counted length is the length exactly when no tag is too long for it. -/
theorem countedLength_eq_iff (tags : List Tag) :
    countedLength tags = (encodeTags tags).length ↔ forall tag, tag ∈ tags -> tag.2.length ≤ 251 := by
  rw [length_encodeTags]
  induction tags with
  | nil => exact ⟨fun _ _ member => absurd member List.not_mem_nil, fun _ => rfl⟩
  | cons tag rest inductionHypothesis =>
      have less := countedLength_le_length rest
      rw [length_encodeTags] at less
      have unfolded : countedLength (tag :: rest) = (4 + tag.2.length) % 256 + countedLength rest := rfl
      rw [unfolded, List.map_cons, List.sum_cons, List.forall_mem_cons, ← inductionHypothesis]
      omega

/-- A reply carries a list of tags: its length field counts the bytes behind the
header, these are the tags, and a parser finds just them, whatever the memory
holds behind the reply. -/
structure Carries (reply : Bytes) (tags : List Tag) : Prop where
  length : forall behind, ((Buffer.mk reply behind).field16 4).toNat =
    (reply.drop sizeofPPPOEDiscHdr).length
  whole : reply.drop sizeofPPPOEDiscHdr = encodeTags tags
  parsed : forall behind, ∃ found, parseTags ⟨reply.drop sizeofPPPOEDiscHdr, behind⟩ = (found, none) ∧
    forall tag value, found.lookup tag = some value ↔ (tag, value) ∈ tags

/-- The bytes behind the header of a reply. -/
theorem Reply.drop_packet (reply : Reply) (code : UInt8) (sid : UInt16) :
    (reply.packet code sid).drop sizeofPPPOEDiscHdr =
      (reply.tags ++ List.replicate (reply.taglen.toNat - reply.tags.length) 0).take
        reply.taglen.toNat := rfl

theorem Reply.length_packet (reply : Reply) (code : UInt8) (sid : UInt16) (behind : Nat -> UInt8) :
    ((Buffer.mk (reply.packet code sid) behind).field16 4).toNat =
      ((reply.packet code sid).drop sizeofPPPOEDiscHdr).length := by
  have field : (Buffer.mk (reply.packet code sid) behind).field16 4 = reply.taglen :=
    be16_bytes16 reply.taglen
  rw [field, drop_packet, List.length_take, List.length_append, List.length_replicate]
  omega

/-- A reply carries its tags if and only if there is one and none is too long. -/
theorem carries_iff {tags : List Tag} (distinct : (tags.map Prod.fst).Nodup)
    (typed : forall tag, tag ∈ tags -> tag.1 ≠ PPPOETag.endOfList) (few : tags.length ≤ 256)
    (code : UInt8) (sid : UInt16) :
    Carries ((({} : Reply).insertTags tags).packet code sid) tags ↔
      tags ≠ [] ∧ forall tag, tag ∈ tags -> tag.2.length ≤ 251 := by
  have bytes := Reply.tags_insertTags {} tags
  have counted := Reply.taglen_insertTags {} tags (by
    have zero : (({} : Reply).taglen).toNat = 0 := rfl
    omega)
  have zero : (({} : Reply).taglen).toNat + countedLength tags = countedLength tags := Nat.zero_add _
  rw [zero] at counted
  constructor
  · intro carries
    constructor
    · intro none
      -- Nothing follows the header, so the parser reads the memory behind it.
      rw [none] at carries
      rcases carries.parsed (fun _ => 1) with ⟨found, same, holds⟩
      have misread : ((parseTags ⟨[], fun _ => 1⟩).1.lookup 0x0101).isSome = true := by
        decide +kernel
      have empty : ((({} : Reply).insertTags []).packet code sid).drop sizeofPPPOEDiscHdr = [] := rfl
      rw [empty] at same
      rw [same] at misread
      rcases Option.isSome_iff_exists.mp misread with ⟨value, there⟩
      exact absurd ((holds _ value).mp there) List.not_mem_nil
    · refine (countedLength_eq_iff tags).mp ?_
      have lengths := congrArg List.length carries.whole
      rw [Reply.drop_packet, bytes, counted, List.length_take, List.length_append,
        List.length_replicate] at lengths
      have less := countedLength_le_length tags
      have none : ({} : Reply).tags = [] := rfl
      rw [none, List.nil_append] at lengths
      omega
  · rintro ⟨some, short⟩
    have exactly := (countedLength_eq_iff tags).mpr short
    have whole : ((({} : Reply).insertTags tags).packet code sid).drop sizeofPPPOEDiscHdr =
        encodeTags tags := by
      rw [Reply.drop_packet, counted, exactly, bytes]
      simp
    have wellFormed : WellFormed tags :=
      ⟨distinct, typed, fun tag member => Nat.lt_of_le_of_lt (short tag member) (by decide)⟩
    refine ⟨Reply.length_packet _ code sid, whole, fun behind => ?_⟩
    have read := parseTags_encodeTags wellFormed (.inl rfl) (.inl some) behind
    rw [List.append_nil] at read
    rw [whole]
    exact read

end Discovery

end Pppcpd

import Pppcpd.Radius.Avp

namespace Pppcpd

open Foundation

/-!
# Bytes that `parseAVP` reads

The next attribute starts where the first length byte of an attribute says, but
the value is taken with the length byte in front of it.  In an attribute of a
vendor these are two bytes, and neither of them is checked against what remains
of the vector.  `Parsable` says which vectors the loop reads from inside and to
an end.
-/

namespace AVP

/-- The bytes in front of a value. -/
def headerSize (buffer : Buffer) (offset : Nat) : Nat :=
  if buffer.read offset = radiusVsa then 8 else 2

/-- The bytes that the parsing constructor reads: none when it finds no room for two,
otherwise the header and the value. -/
def roundReads (buffer : Buffer) (offset : Nat) : List Nat :=
  if buffer.bytes.length < offset + 2 then []
  else
    let header := headerSize buffer offset
    List.range' offset (header + ((buffer.read (offset + header - 1)).toNat - 2))

/-- Where the next round of `parseAVP` starts, unless the loop is left. -/
def nextRound (buffer : Buffer) (offset : Nat) : Option Nat :=
  if offset = buffer.bytes.length then none
  else (parseAt buffer offset 0).map (fun parsed => offset + parsed.2.toNat)

/-- The offsets at which rounds start, from one of them on. -/
inductive Round (buffer : Buffer) (start : Nat) : Nat -> Prop
  | start : Round buffer start start
  | next {offset later : Nat} : Round buffer start offset -> nextRound buffer offset = some later ->
      Round buffer start later

/-- Every round from an offset on moves forward or leaves the loop, and reads only
bytes of the vector. -/
structure RunsInside (buffer : Buffer) (start : Nat) : Prop where
  advances : forall offset later, Round buffer start offset ->
    nextRound buffer offset = some later -> offset < later
  inside : forall offset, Round buffer start offset ->
    ∀ index ∈ roundReads buffer offset, index < buffer.bytes.length

/-- `parseAVP` ends, and all its rounds are of that kind. -/
structure ParsesInside (buffer : Buffer) : Prop extends RunsInside buffer 0 where
  ends : forall uninitialised, (parse buffer uninitialised).isSome = true

/-- Attributes one after another, up to the end of the vector or to one that raises
the exception.  A value lies in the vector, but the outer length of an attribute of
a vendor may say anything but zero. -/
inductive Parsable : Bytes -> Prop
  | nil : Parsable []
  | single {byte : UInt8} : Parsable [byte]
  | short {type length : UInt8} {rest : Bytes} : type ≠ radiusVsa -> length < 2 ->
      Parsable (type :: length :: rest)
  | standard {type length : UInt8} {rest : Bytes} : type ≠ radiusVsa -> 2 ≤ length ->
      length.toNat - 2 ≤ rest.length -> Parsable (rest.drop (length.toNat - 2)) ->
      Parsable (type :: length :: rest)
  | shortVendor {outer v0 v1 v2 v3 type length : UInt8} {rest : Bytes} : length < 2 ->
      Parsable (radiusVsa :: outer :: v0 :: v1 :: v2 :: v3 :: type :: length :: rest)
  | vendor {outer v0 v1 v2 v3 type length : UInt8} {rest : Bytes} : 2 ≤ length ->
      length.toNat - 2 ≤ rest.length -> outer ≠ 0 ->
      Parsable ((radiusVsa :: outer :: v0 :: v1 :: v2 :: v3 :: type :: length :: rest).drop
        outer.toNat) ->
      Parsable (radiusVsa :: outer :: v0 :: v1 :: v2 :: v3 :: type :: length :: rest)

/-! ## From one round to the next -/

theorem Round.of_next {buffer : Buffer} {start later offset : Nat}
    (moved : nextRound buffer start = some later) (round : Round buffer later offset) :
    Round buffer start offset := by
  induction round with
  | start => exact .next .start moved
  | next _ goes inductionHypothesis => exact .next inductionHypothesis goes

theorem Round.first_or_later {buffer : Buffer} {start offset : Nat} (round : Round buffer start offset) :
    offset = start ∨ ∃ later, nextRound buffer start = some later ∧ Round buffer later offset := by
  induction round with
  | start => exact .inl rfl
  | next _ goes inductionHypothesis =>
      rcases inductionHypothesis with same | ⟨later, moved, round⟩
      · exact .inr ⟨_, same ▸ goes, .start⟩
      · exact .inr ⟨later, moved, .next round goes⟩

/-- The rounds from an offset on are the first of them and those from the next
offset on. -/
theorem runsInside_step (buffer : Buffer) (start : Nat) :
    RunsInside buffer start ↔
      (∀ index ∈ roundReads buffer start, index < buffer.bytes.length) ∧
        forall later, nextRound buffer start = some later ->
          start < later ∧ RunsInside buffer later := by
  constructor
  · intro runs
    refine ⟨runs.inside start .start, fun later moved => ⟨runs.advances start later .start moved, ?_⟩⟩
    exact ⟨fun offset next round => runs.advances offset next (round.of_next moved),
      fun offset round => runs.inside offset (round.of_next moved)⟩
  · rintro ⟨inside, goes⟩
    constructor
    · intro offset next round moved
      rcases round.first_or_later with same | ⟨later, first, rest⟩
      · rw [same] at moved ⊢
        exact (goes next moved).1
      · exact (goes later first).2.advances offset next rest moved
    · intro offset round
      rcases round.first_or_later with same | ⟨later, first, rest⟩
      · exact same ▸ inside
      · exact (goes later first).2.inside offset rest

/-! ## What a round finds ahead -/

/-- A byte that lies ahead. -/
theorem read_ahead {buffer : Buffer} {start : Nat} {ahead : Bytes}
    (same : buffer.bytes.drop start = ahead) {index : Nat} (inside : index < ahead.length) :
    buffer.read (start + index) = ahead.getD index 0 := by
  have found : buffer.bytes[start + index]? = ahead[index]? := by
    rw [← List.getElem?_drop, same]
  unfold Buffer.read List.getD
  rw [found, List.getElem?_eq_getElem inside]
  rfl

theorem forall_mem_range' {start count length : Nat} (positive : 0 < count) :
    (∀ index ∈ List.range' start count, index < length) ↔ start + count ≤ length := by
  simp only [List.mem_range'_1]
  constructor
  · intro within
    have last := within (start + count - 1) (by omega)
    omega
  · intro fits index member
    omega

section

variable {buffer : Buffer} {start : Nat}

/-- Nothing is read, and the loop is left, when fewer than two bytes are ahead. -/
theorem runsInside_of_few (few : buffer.bytes.length < start + 2) : RunsInside buffer start := by
  refine (runsInside_step buffer start).mpr ⟨?_, ?_⟩
  · unfold roundReads
    rw [if_pos few]
    exact fun _ member => absurd member List.not_mem_nil
  · unfold nextRound parseAt
    intro later moved
    rw [if_pos few, Option.map_none, ite_self] at moved
    cases moved

/-- A round that finds the two bytes it asks for. -/
theorem runsInside_of_room (room : start + 2 ≤ buffer.bytes.length) :
    let header := headerSize buffer start
    let length := buffer.read (start + header - 1)
    RunsInside buffer start ↔ start + header + (length.toNat - 2) ≤ buffer.bytes.length ∧
      (length < 2 ∨ (buffer.read (start + 1) ≠ 0 ∧
        RunsInside buffer (start + (buffer.read (start + 1)).toNat))) := by
  dsimp only
  have enough := Nat.not_lt.mpr room
  have reads : (∀ index ∈ roundReads buffer start, index < buffer.bytes.length) ↔
      start + headerSize buffer start +
        ((buffer.read (start + headerSize buffer start - 1)).toNat - 2) ≤ buffer.bytes.length := by
    unfold roundReads
    rw [if_neg enough]
    dsimp only
    have positive : 0 < headerSize buffer start := by
      unfold headerSize
      split <;> decide
    rw [forall_mem_range' (by omega), Nat.add_assoc]
  have lengthByte : buffer.read ((if buffer.read start = radiusVsa then start + 6 else start) + 1) =
      buffer.read (start + headerSize buffer start - 1) := by
    unfold headerSize
    split <;> rfl
  have moves : nextRound buffer start =
      if buffer.read (start + headerSize buffer start - 1) < 2 then none
      else some (start + (buffer.read (start + 1)).toNat) := by
    unfold nextRound parseAt
    rw [if_neg (by omega), if_neg enough]
    dsimp only
    rw [lengthByte]
    split <;> rfl
  rw [runsInside_step, reads, moves]
  refine and_congr_right (fun _ => ?_)
  by_cases thrown : buffer.read (start + headerSize buffer start - 1) < 2
  · rw [if_pos thrown]
    exact iff_of_true nofun (.inl thrown)
  · rw [if_neg thrown]
    have positive : buffer.read (start + 1) ≠ 0 ↔ 0 < (buffer.read (start + 1)).toNat := by
      rw [Nat.pos_iff_ne_zero, ne_eq, ne_eq, ← UInt8.toNat_inj]
      rfl
    rw [positive]
    constructor
    · intro goes
      have next := goes _ rfl
      exact .inr ⟨by omega, next.2⟩
    · intro either later moved
      rcases either.resolve_left thrown with ⟨positive, runs⟩
      rw [← Option.some.inj moved]
      exact ⟨by omega, runs⟩

end

/-! ## The vectors that are read from inside -/

theorem parsable_standard_iff {type length : UInt8} {rest : Bytes} (standard : type ≠ radiusVsa) :
    Parsable (type :: length :: rest) ↔ length.toNat - 2 ≤ rest.length ∧
      (length < 2 ∨ Parsable (rest.drop (length.toNat - 2))) := by
  constructor
  · intro parsable
    cases parsable with
    | short _ thrown =>
        rw [UInt8.lt_iff_toNat_lt] at thrown
        have two : (2 : UInt8).toNat = 2 := rfl
        exact ⟨by omega, .inl thrown⟩
    | standard _ _ fits later => exact ⟨fits, .inr later⟩
    | shortVendor => exact absurd rfl standard
    | vendor => exact absurd rfl standard
  · rintro ⟨fits, either⟩
    by_cases thrown : length < 2
    · exact .short standard thrown
    · exact .standard standard (UInt8.not_lt.mp thrown) fits (either.resolve_left thrown)

theorem parsable_vendor_iff {outer v0 v1 v2 v3 type length : UInt8} {rest : Bytes} :
    Parsable (radiusVsa :: outer :: v0 :: v1 :: v2 :: v3 :: type :: length :: rest) ↔
      length.toNat - 2 ≤ rest.length ∧ (length < 2 ∨ (outer ≠ 0 ∧
        Parsable ((radiusVsa :: outer :: v0 :: v1 :: v2 :: v3 :: type :: length :: rest).drop
          outer.toNat))) := by
  constructor
  · intro parsable
    cases parsable with
    | short other => exact absurd rfl other
    | standard other => exact absurd rfl other
    | shortVendor thrown =>
        rw [UInt8.lt_iff_toNat_lt] at thrown
        have two : (2 : UInt8).toNat = 2 := rfl
        exact ⟨by omega, .inl thrown⟩
    | vendor _ fits moves later => exact ⟨fits, .inr ⟨moves, later⟩⟩
  · rintro ⟨fits, either⟩
    by_cases thrown : length < 2
    · exact .shortVendor thrown
    · rcases either.resolve_left thrown with ⟨moves, later⟩
      exact .vendor (UInt8.not_lt.mp thrown) fits moves later

/-- An attribute of a vendor that is cut within its header is not parsable. -/
theorem not_parsable_of_cut {ahead : Bytes} (two : 2 ≤ ahead.length) (cut : ahead.length < 8)
    (vendor : ahead.head? = some radiusVsa) : ¬ Parsable ahead := by
  intro parsable
  cases parsable with
  | nil => cases vendor
  | single =>
      rw [List.length_singleton] at two
      omega
  | short other => exact other (Option.some.inj vendor)
  | standard other => exact other (Option.some.inj vendor)
  | shortVendor =>
      simp only [List.length_cons] at cut
      omega
  | vendor =>
      simp only [List.length_cons] at cut
      omega

theorem exists_vendor_header {type outer : UInt8} {rest : Bytes}
    (long : 8 ≤ (type :: outer :: rest).length) : ∃ v0 v1 v2 v3 inner length value,
      rest = v0 :: v1 :: v2 :: v3 :: inner :: length :: value := by
  match rest with
  | v0 :: v1 :: v2 :: v3 :: inner :: length :: value =>
      exact ⟨v0, v1, v2, v3, inner, length, value, rfl⟩
  | [] | [_] | [_, _] | [_, _, _] | [_, _, _, _] | [_, _, _, _, _] => simp at long

section

variable {buffer : Buffer} {start : Nat} {first : UInt8} {rest : Bytes}

/-- A round at an attribute of a vendor, before rounds of which this is known. -/
theorem runsInside_vendor_iff (ahead : buffer.bytes.drop start = radiusVsa :: first :: rest)
    (later : forall offset, start < offset ->
      (RunsInside buffer offset ↔ Parsable (buffer.bytes.drop offset))) :
    RunsInside buffer start ↔ Parsable (radiusVsa :: first :: rest) := by
  have size : buffer.bytes.length - start = rest.length + 2 := by
    rw [← List.length_drop, ahead, List.length_cons, List.length_cons]
  have isType : buffer.read start = radiusVsa := @read_ahead buffer start _ ahead 0 (Nat.succ_pos _)
  have isFirst : buffer.read (start + 1) = first :=
    @read_ahead buffer start _ ahead 1 (Nat.succ_lt_succ (Nat.succ_pos _))
  have round := @runsInside_of_room buffer start (by omega)
  unfold headerSize at round
  rw [if_pos isType, isFirst] at round
  dsimp only at round
  by_cases cut : (radiusVsa :: first :: rest).length < 8
  · refine iff_of_false (fun runs => ?_) (not_parsable_of_cut (Nat.le_add_left 2 _) cut rfl)
    have fits := (round.mp runs).1
    rw [List.length_cons, List.length_cons] at cut
    omega
  · rcases exists_vendor_header (Nat.le_of_not_lt cut) with ⟨v0, v1, v2, v3, inner, length, value, isRest⟩
    subst isRest
    have isLength : buffer.read (start + 8 - 1) = length := @read_ahead buffer start _ ahead 7 (by simp)
    simp only [List.length_cons] at size
    rw [isLength] at round
    rw [round, parsable_vendor_iff, ← ahead, List.drop_drop]
    have fits : start + 8 + (length.toNat - 2) ≤ buffer.bytes.length ↔
        length.toNat - 2 ≤ value.length := by omega
    rw [fits]
    refine and_congr_right (fun _ => or_congr_right (and_congr_right (fun moves => ?_)))
    have positive : 0 < first.toNat := by
      refine Nat.pos_of_ne_zero (fun zero => moves ?_)
      exact UInt8.toNat_inj.mp zero
    exact later _ (by omega)

/-- A round at any other attribute. -/
theorem runsInside_standard_iff {type : UInt8} (standard : type ≠ radiusVsa)
    (ahead : buffer.bytes.drop start = type :: first :: rest)
    (later : forall offset, start < offset ->
      (RunsInside buffer offset ↔ Parsable (buffer.bytes.drop offset))) :
    RunsInside buffer start ↔ Parsable (type :: first :: rest) := by
  have size : buffer.bytes.length - start = rest.length + 2 := by
    rw [← List.length_drop, ahead, List.length_cons, List.length_cons]
  have isType : buffer.read start = type := @read_ahead buffer start _ ahead 0 (Nat.succ_pos _)
  have isFirst : buffer.read (start + 1) = first :=
    @read_ahead buffer start _ ahead 1 (Nat.succ_lt_succ (Nat.succ_pos _))
  have isLength : buffer.read (start + 2 - 1) = first := isFirst
  have round := @runsInside_of_room buffer start (by omega)
  unfold headerSize at round
  rw [isType, if_neg standard, isFirst] at round
  dsimp only at round
  rw [isLength] at round
  rw [round, parsable_standard_iff standard]
  have fits : start + 2 + (first.toNat - 2) ≤ buffer.bytes.length ↔
      first.toNat - 2 ≤ rest.length := by omega
  rw [fits]
  refine and_congr_right (fun _ => ?_)
  by_cases thrown : first < 2
  · exact iff_of_true (.inl thrown) (.inl thrown)
  · have two : 2 ≤ first.toNat := UInt8.le_iff_toNat_le.mp (UInt8.not_lt.mp thrown)
    have behind : rest.drop (first.toNat - 2) = buffer.bytes.drop (start + first.toNat) := by
      have split : start + first.toNat = start + 2 + (first.toNat - 2) := by omega
      rw [split, ← List.drop_drop, ← List.drop_drop, ahead]
      rfl
    rw [behind, ← later _ (by omega)]
    refine or_congr_right ⟨And.right, fun runs => ⟨fun zero => ?_, runs⟩⟩
    rw [zero] at two
    exact absurd two (by decide)

end

/-- The rounds from an offset on are as they should exactly when what lies ahead is
parsable. -/
theorem runsInside_iff (buffer : Buffer) (start : Nat) :
    RunsInside buffer start ↔ Parsable (buffer.bytes.drop start) := by
  generalize left : buffer.bytes.length - start = remaining
  induction remaining using Nat.strongRecOn generalizing start with
  | ind remaining inductionHypothesis =>
      have size : (buffer.bytes.drop start).length = remaining := by
        rw [List.length_drop, left]
      cases ahead : buffer.bytes.drop start with
      | nil =>
          rw [ahead, List.length_nil] at size
          exact iff_of_true (runsInside_of_few (by omega)) .nil
      | cons type behindType =>
          cases behindType with
          | nil =>
              rw [ahead, List.length_singleton] at size
              exact iff_of_true (runsInside_of_few (by omega)) .single
          | cons first rest =>
              rw [ahead, List.length_cons, List.length_cons] at size
              have later := fun (offset : Nat) (beyond : start < offset) =>
                inductionHypothesis (buffer.bytes.length - offset) (by omega) offset rfl
              by_cases vendor : type = radiusVsa
              · rw [vendor] at ahead ⊢
                exact runsInside_vendor_iff ahead later
              · exact runsInside_standard_iff vendor ahead later

/-- What the memory holds has no part in where the next attribute starts. -/
theorem parseAt_snd (buffer : Buffer) (offset : Nat) (first second : UInt32) :
    (parseAt buffer offset first).map Prod.snd = (parseAt buffer offset second).map Prod.snd := by
  unfold parseAt
  split
  · rfl
  · dsimp only
    rw [apply_ite (Option.map Prod.snd), apply_ite (Option.map Prod.snd)]
    rfl

/-- A loop whose rounds all move forward is run to its end. -/
theorem parseFrom_isSome {buffer : Buffer} (uninitialised : Nat -> UInt32) {fuel : Nat} (index : Nat)
    {offset : Nat} (runs : RunsInside buffer offset) (enough : buffer.bytes.length < offset + fuel)
    (positive : 0 < fuel) : (parseFrom buffer uninitialised fuel index offset).isSome = true := by
  induction fuel generalizing index offset with
  | zero => exact absurd positive (Nat.lt_irrefl 0)
  | succ fuel inductionHypothesis =>
      rw [parseFrom]
      split
      · rfl
      · rename_i goes
        split
        · rfl
        · rename_i avp originalLen parsed
          have moved : nextRound buffer offset = some (offset + originalLen.toNat) := by
            have length := parseAt_snd buffer offset 0 (uninitialised index)
            rw [parsed, Option.map_some] at length
            rcases Option.map_eq_some_iff.mp length with ⟨found, isFound, isLength⟩
            unfold nextRound
            rw [if_neg goes, isFound, Option.map_some, isLength]
          have room : offset + 2 ≤ buffer.bytes.length := by
            refine Nat.le_of_not_lt (fun few => ?_)
            unfold parseAt at parsed
            rw [if_pos few] at parsed
            cases parsed
          have advances := runs.advances offset _ .start moved
          have later := ((runsInside_step buffer offset).mp runs).2 _ moved
          rw [if_neg (fun zero => by rw [zero] at advances; exact absurd advances (Nat.lt_irrefl _)),
            Option.isSome_map]
          exact inductionHypothesis (index + 1) later.2 (by omega) (by omega)

/-- `parseAVP` ends and stays in the vector exactly when the vector is parsable. -/
theorem parsesInside_iff (buffer : Buffer) : ParsesInside buffer ↔ Parsable buffer.bytes := by
  have rounds := runsInside_iff buffer 0
  rw [List.drop_zero] at rounds
  constructor
  · intro parses
    exact rounds.mp parses.toRunsInside
  · intro parsable
    have runs := rounds.mpr parsable
    exact { runs with
      ends := fun uninitialised => parseFrom_isSome uninitialised 0 runs (by omega) (by omega) }

/-- An attribute of a vendor with outer length zero is parsed again and again, and the
value of a cut attribute is read behind the vector. -/
theorem zero_length_loops :
    ¬ ParsesInside ⟨[radiusVsa, 0, 0, 0, 0, 9, 1, 2], fun _ => 0⟩ ∧
      ¬ ParsesInside ⟨[1, 3], fun _ => 0⟩ := by
  constructor
  · intro parses
    exact absurd (parses.ends (fun _ => 0)) (by decide +kernel)
  · intro parses
    exact absurd (parses.inside 0 .start 2 (by decide)) (by decide)

end AVP

end Pppcpd

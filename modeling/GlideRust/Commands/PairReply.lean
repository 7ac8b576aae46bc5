import GlideRust.Commands.StreamReply

/-!
# Replies that are lists of pairs

Members with scores, fields with values, channels with counts. RESP3 sends such
a reply as a map, RESP2 as one flat array, and some commands as an array of
two-element arrays. The decoders are near-copies that handle different subsets
of these shapes.

## Implementation notes

The common bodies are `readMap`, `readNested` and `readFlat`, over the two
component conversions. The nested form takes the pair apart from the back, so it
converts the second component first.
-/

namespace GlideRust.Commands.PairReply

open Redis Error ValueConversion
open Lib.PairList
open StreamReply (isPair twoElementItems twoElementItems_pairs)

variable {α β : Type}

/-! ## The decoders -/

/-- The entries of a map, each component converted in order. -/
def readMap (first : Value → Result α) (second : Value → Result β)
    (pairs : List (Value × Value)) : Result (List (α × β)) :=
  pairs.mapM fun pair => do
    let a ← first pair.1
    let b ← second pair.2
    return (a, b)

/-- The two-element items of an array. -/
def readNested (first : Value → Result α) (second : Value → Result β)
    (items : List Value) : Result (List (α × β)) :=
  (twoElementItems items).mapM fun pair => do
    let b ← second pair.2
    let a ← first pair.1
    return (a, b)

/-- The items of an array, two at a time. -/
def readFlat (first : Value → Result α) (second : Value → Result β)
    (items : List Value) : Result (List (α × β)) :=
  readMap first second (pairUp items)

/-- An array that holds only two-element arrays is read as nested pairs. -/
def readArray (first : Value → Result α) (second : Value → Result β)
    (items : List Value) : Result (List (α × β)) :=
  if items.all isPair then readNested first second items else readFlat first second items

variable (R : RedisCrate)

/-- `collect_member_scores`. -/
def collectMemberScores : Value → Result (List (Bytes × F64))
  | .nil => .ok []
  | .map pairs => readMap (toBytes R) (toF64 R) pairs
  | .array items => readArray (toBytes R) (toF64 R) items
  | other => .error (.request ("unexpected sorted-set reply: " ++ R.debug other))

/-- `collect_pairs` of the hash commands. -/
def collectPairs : Value → Result (List (Bytes × Bytes))
  | .nil => .ok []
  | .map pairs => readMap (toBytes R) (toBytes R) pairs
  | .array items => readArray (toBytes R) (toBytes R) items
  | other => do
      let a ← toBytes R other
      return [(a, [])]

/-- `parse_numsub`. -/
def parseNumsub : Value → Result (List (Bytes × Int64))
  | .nil => .ok []
  | .map pairs => readMap (toBytes R) (toI64 R) pairs
  | .array items => readFlat (toBytes R) (toI64 R) items
  | other => .error (.request ("unexpected PUBSUB NUMSUB reply: " ++ R.debug other))

/-- `parse_field_value_map`: the values stay as they are. -/
def parseFieldValueMap : Value → Result (List (Bytes × Value))
  | .nil => .ok []
  | .map pairs => readMap (toBytes R) .ok pairs
  | .array items => readFlat (toBytes R) .ok items
  | other => .error (.request ("unexpected XINFO reply: " ++ R.debug other))

/-- `parse_list_of_maps`. -/
def parseListOfMaps : Value → Result (List (List (Bytes × Value)))
  | .nil => .ok []
  | .array items => items.mapM (parseFieldValueMap R)
  | other => .error (.request ("unexpected XINFO list reply: " ++ R.debug other))

/-! ## The shapes of a list of pairs -/

inductive PairListForm where
  | map
  | nested
  | flat
  deriving DecidableEq, Repr

/-- A list of pairs, sent in one of its forms. -/
def encodeAs (pairs : List (Value × Value)) : PairListForm → Value
  | .map => .map pairs
  | .nested => .array (pairs.map fun p => .array [p.1, p.2])
  | .flat => .array (flatten pairs)

/-! ## Each shape decodes to the pairs -/

section Reading

variable {γ : Type} {first : Value → Result α} {second : Value → Result β}
variable {encodeFirst encodeSecond : γ → Value} {a : γ → α} {b : γ → β} {xs : List γ}
variable (hfirst : ∀ x ∈ xs, first (encodeFirst x) = .ok (a x))
variable (hsecond : ∀ x ∈ xs, second (encodeSecond x) = .ok (b x))
include hfirst hsecond

theorem readMap_encoded :
    readMap first second (xs.map fun x => (encodeFirst x, encodeSecond x)) =
      .ok (xs.map fun x => (a x, b x)) := by
  apply mapM_map_eq_ok
  intro x hx
  simp only [hfirst x hx, hsecond x hx]
  rfl

theorem readNested_encoded :
    readNested first second (xs.map fun x => .array [encodeFirst x, encodeSecond x]) =
      .ok (xs.map fun x => (a x, b x)) := by
  rw [readNested, twoElementItems_pairs]
  apply mapM_map_eq_ok
  intro x hx
  simp only [hfirst x hx, hsecond x hx]
  rfl

theorem readFlat_encoded :
    readFlat first second (flatten (xs.map fun x => (encodeFirst x, encodeSecond x))) =
      .ok (xs.map fun x => (a x, b x)) := by
  rw [readFlat, pairUp_flatten]
  exact readMap_encoded hfirst hsecond

/-- The sniffing decoder reads both array forms, since a first component is
never a two-element array. The empty list passes the test in either form. -/
theorem readArray_encoded (hplain : ∀ x, isPair (encodeFirst x) = false) :
    readArray first second (xs.map fun x => .array [encodeFirst x, encodeSecond x]) =
        .ok (xs.map fun x => (a x, b x)) ∧
      readArray first second (flatten (xs.map fun x => (encodeFirst x, encodeSecond x))) =
        .ok (xs.map fun x => (a x, b x)) := by
  constructor
  · have hall : (xs.map fun x => Value.array [encodeFirst x, encodeSecond x]).all isPair =
        true := by
      simp [isPair]
    rw [readArray, if_pos hall]
    exact readNested_encoded hfirst hsecond
  · cases xs with
    | nil => rfl
    | cons x xs =>
        have hall : (flatten ((x :: xs).map fun y =>
            (encodeFirst y, encodeSecond y))).all isPair = false := by
          simp [hplain]
        rw [readArray, hall, if_neg Bool.false_ne_true]
        exact readFlat_encoded hfirst hsecond

end Reading

/-- A pair as it is sent: a byte string and a scalar. -/
def sentPair {γ : Type} (pair : Bytes × Value × γ) : Value × Value :=
  (.bulkString pair.1, pair.2.1)

/-- The pair that was sent. -/
def pairData {γ : Type} (pair : Bytes × Value × γ) : Bytes × γ := (pair.1, pair.2.2)

theorem collectMemberScores_encodeAs (pairs : List (Bytes × Value × F64)) (form : PairListForm)
    (hscores : ∀ pair ∈ pairs, R.fromF64 pair.2.1 = .ok pair.2.2) :
    collectMemberScores R (encodeAs (pairs.map sentPair) form) = .ok (pairs.map pairData) := by
  have hmembers : ∀ pair ∈ pairs, toBytes R (.bulkString pair.1) = .ok pair.1 := fun _ _ => rfl
  have hconverted : ∀ pair ∈ pairs, toF64 R pair.2.1 = .ok pair.2.2 :=
    fun pair hpair => toF64_of_decoded (hscores pair hpair)
  obtain ⟨hnested, hflat⟩ := readArray_encoded hmembers hconverted fun _ => rfl
  cases form with
  | map => exact readMap_encoded hmembers hconverted
  | nested =>
      rw [encodeAs, List.map_map]
      exact hnested
  | flat => exact hflat

theorem collectPairs_encodeAs (pairs : List (Bytes × Bytes)) (form : PairListForm) :
    collectPairs R (encodeAs (pairs.map fun p => (.bulkString p.1, .bulkString p.2)) form) =
      .ok pairs := by
  have hfirst : ∀ pair ∈ pairs, toBytes R (.bulkString pair.1) = .ok pair.1 := fun _ _ => rfl
  have hsecond : ∀ pair ∈ pairs, toBytes R (.bulkString pair.2) = .ok pair.2 := fun _ _ => rfl
  have hsame : pairs.map (fun p => (p.1, p.2)) = pairs := List.map_id pairs
  obtain ⟨hnested, hflat⟩ := readArray_encoded hfirst hsecond fun _ => rfl
  rw [hsame] at hnested hflat
  cases form with
  | map =>
      have hmap := readMap_encoded hfirst hsecond
      rw [hsame] at hmap
      exact hmap
  | nested =>
      rw [encodeAs, List.map_map]
      exact hnested
  | flat => exact hflat

theorem parseNumsub_encodeAs (pairs : List (Bytes × Value × Int64)) {form : PairListForm}
    (hform : form ≠ .nested) (hcounts : ∀ pair ∈ pairs, R.fromI64 pair.2.1 = .ok pair.2.2) :
    parseNumsub R (encodeAs (pairs.map sentPair) form) = .ok (pairs.map pairData) := by
  have hchannels : ∀ pair ∈ pairs, toBytes R (.bulkString pair.1) = .ok pair.1 := fun _ _ => rfl
  have hconverted : ∀ pair ∈ pairs, toI64 R pair.2.1 = .ok pair.2.2 :=
    fun pair hpair => toI64_of_decoded (hcounts pair hpair)
  cases form with
  | map => exact readMap_encoded hchannels hconverted
  | nested => exact absurd rfl hform
  | flat => exact readFlat_encoded hchannels hconverted

/-- The values are not looked at, so they may have any shape themselves. -/
theorem parseFieldValueMap_encodeAs (pairs : List (Bytes × Value)) {form : PairListForm}
    (hform : form ≠ .nested) :
    parseFieldValueMap R (encodeAs (pairs.map fun p => (.bulkString p.1, p.2)) form) =
      .ok pairs := by
  have hfields : ∀ pair ∈ pairs, toBytes R (.bulkString pair.1) = .ok pair.1 := fun _ _ => rfl
  have hvalues : ∀ pair ∈ pairs, (.ok pair.2 : Result Value) = .ok pair.2 := fun _ _ => rfl
  have hsame : pairs.map (fun p => (p.1, p.2)) = pairs := List.map_id pairs
  cases form with
  | map =>
      have hmap := readMap_encoded hfields hvalues
      rw [hsame] at hmap
      exact hmap
  | nested => exact absurd rfl hform
  | flat =>
      have hflat := readFlat_encoded hfields hvalues
      rw [hsame] at hflat
      exact hflat

/-- A list of maps decodes map by map, each in its own form. -/
theorem parseListOfMaps_encodeAs (maps : List (List (Bytes × Value) × PairListForm))
    (hforms : ∀ m ∈ maps, m.2 ≠ .nested) :
    parseListOfMaps R (.array (maps.map fun m =>
      encodeAs (m.1.map fun p => (.bulkString p.1, p.2)) m.2)) = .ok (maps.map Prod.fst) :=
  mapM_map_eq_ok fun m hm => parseFieldValueMap_encodeAs R m.1 (hforms m hm)

/-- Pair-shaped replies decode to the pairs that were sent, in order and with
their duplicates, in every shape that their decoder handles. -/
theorem pair_replies_decode_in_every_shape (R : RedisCrate) :
    (∀ (pairs : List (Bytes × Value × F64)) (form : PairListForm),
      (∀ pair ∈ pairs, R.fromF64 pair.2.1 = .ok pair.2.2) →
      collectMemberScores R (encodeAs (pairs.map sentPair) form) = .ok (pairs.map pairData)) ∧
    (∀ (pairs : List (Bytes × Bytes)) (form : PairListForm),
      collectPairs R (encodeAs (pairs.map fun p => (.bulkString p.1, .bulkString p.2)) form) =
        .ok pairs) ∧
    (∀ (pairs : List (Bytes × Value × Int64)) (form : PairListForm), form ≠ .nested →
      (∀ pair ∈ pairs, R.fromI64 pair.2.1 = .ok pair.2.2) →
      parseNumsub R (encodeAs (pairs.map sentPair) form) = .ok (pairs.map pairData)) ∧
    (∀ (pairs : List (Bytes × Value)) (form : PairListForm), form ≠ .nested →
      parseFieldValueMap R (encodeAs (pairs.map fun p => (.bulkString p.1, p.2)) form) =
        .ok pairs) ∧
    (∀ maps : List (List (Bytes × Value) × PairListForm), (∀ m ∈ maps, m.2 ≠ .nested) →
      parseListOfMaps R (.array (maps.map fun m =>
        encodeAs (m.1.map fun p => (.bulkString p.1, p.2)) m.2)) = .ok (maps.map Prod.fst)) :=
  ⟨collectMemberScores_encodeAs R, collectPairs_encodeAs R,
    fun pairs _ hform => parseNumsub_encodeAs R pairs hform,
    fun pairs _ hform => parseFieldValueMap_encodeAs R pairs hform, parseListOfMaps_encodeAs R⟩

/-- A crate that decodes integer and double replies as the real one does. -/
def numbers : RedisCrate :=
  { integers with
    fromF64
      | .double f => .ok f
      | _ => .error ⟨.typeError, "not a float", false⟩ }

/-- The scores 1.5 and -2.0. -/
def someScores : List (Bytes × Value × F64) :=
  [(utf8 "m", .double ⟨0x3FF8000000000000⟩, ⟨0x3FF8000000000000⟩),
    ([], .double ⟨0xC000000000000000⟩, ⟨0xC000000000000000⟩)]

/-- Two members with different scores in each shape, a field given twice, two
subscribers of one channel and none of another, and a field whose value looks
like a nested reply. -/
theorem pair_replies_decode_scores_and_counts :
    collectMemberScores numbers (.map [(.bulkString (utf8 "m"), .double ⟨0x3FF8000000000000⟩),
        (.bulkString [], .double ⟨0xC000000000000000⟩)]) =
      .ok [(utf8 "m", ⟨0x3FF8000000000000⟩), ([], ⟨0xC000000000000000⟩)] ∧
    collectMemberScores numbers
        (.array [.array [.bulkString (utf8 "m"), .double ⟨0x3FF8000000000000⟩],
          .array [.bulkString [], .double ⟨0xC000000000000000⟩]]) =
      .ok [(utf8 "m", ⟨0x3FF8000000000000⟩), ([], ⟨0xC000000000000000⟩)] ∧
    collectMemberScores numbers
        (.array [.bulkString (utf8 "m"), .double ⟨0x3FF8000000000000⟩,
          .bulkString [], .double ⟨0xC000000000000000⟩]) =
      .ok [(utf8 "m", ⟨0x3FF8000000000000⟩), ([], ⟨0xC000000000000000⟩)] ∧
    collectPairs numbers
        (.array [.array [.bulkString (utf8 "f"), .bulkString (utf8 "v")],
          .array [.bulkString (utf8 "f"), .bulkString []]]) =
      .ok [(utf8 "f", utf8 "v"), (utf8 "f", [])] ∧
    parseNumsub numbers (.array [.bulkString (utf8 "c"), .int 2, .bulkString [], .int 0]) =
      .ok [(utf8 "c", 2), ([], 0)] ∧
    parseFieldValueMap numbers (.array [.bulkString (utf8 "f"), .array [.nil, .nil]]) =
      .ok [(utf8 "f", .array [.nil, .nil])] := by
  have hscores : ∀ pair ∈ someScores, numbers.fromF64 pair.2.1 = .ok pair.2.2 := by
    intro pair hpair
    simp only [someScores, List.mem_cons, List.not_mem_nil, or_false] at hpair
    rcases hpair with rfl | rfl
    · rfl
    · rfl
  obtain ⟨hmembers, hpairs, hcounts, hfields, -⟩ := pair_replies_decode_in_every_shape numbers
  refine ⟨hmembers someScores .map hscores, hmembers someScores .nested hscores,
    hmembers someScores .flat hscores,
    hpairs [(utf8 "f", utf8 "v"), (utf8 "f", [])] .nested, ?_,
    hfields [(utf8 "f", .array [.nil, .nil])] .flat (by decide)⟩
  refine hcounts [(utf8 "c", .int 2, 2), ([], .int 0, 0)] .flat (by decide) ?_
  intro pair hpair
  simp only [List.mem_cons, List.not_mem_nil, or_false] at hpair
  rcases hpair with rfl | rfl
  · rfl
  · rfl

end GlideRust.Commands.PairReply

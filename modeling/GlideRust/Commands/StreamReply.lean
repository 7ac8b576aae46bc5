import GlideRust.ValueConversion
import GlideRust.Lib.PairList

/-!
# Stream replies

The decoders of `XRANGE`, `XREAD`, `XREADGROUP`, `XAUTOCLAIM` and `XPENDING`
replies. Under RESP2 a collection is an array of two-element arrays, under RESP3
a map; the fields of an entry come flat or as nested pairs.

## Implementation notes

The loops that normalise an array reply to pairs are the same in both decoders
and appear once, as `twoElementItems`. `pop` takes from the back, so the order
in which components are converted is kept: it decides which error is reported.
-/

namespace GlideRust.Commands.StreamReply

open Redis Error ValueConversion
open Lib.PairList

/-- `StreamEntry`: an entry id with its fields. -/
abbrev StreamEntry := String × List (Bytes × Bytes)

variable (R : RedisCrate)

/-! ## The decoders -/

/-- The `[a, b]` items of an array reply; items of another shape are skipped. -/
def twoElementItems (items : List Value) : List (Value × Value) :=
  items.filterMap fun
    | .array [first, second] => some (first, second)
    | _ => none

def isPair : Value → Bool
  | .array [_, _] => true
  | _ => false

/-- `parse_fields`. -/
def parseFields : Value → Result (List (Bytes × Bytes))
  | .array items =>
      if items.all isPair then
        (twoElementItems items).mapM fun (f, v) => do
          let val ← toBytes R v
          let field ← toBytes R f
          return (field, val)
      else
        (pairUp items).mapM fun (f, v) => do
          let field ← toBytes R f
          let val ← toBytes R v
          return (field, val)
  | .nil => .ok []
  | other => do
      let field ← toBytes R other
      return [(field, [])]

/-- One `(id, fields)` pair of an entries reply. -/
def parseEntry (pair : Value × Value) : Result StreamEntry := do
  let id ← toText R pair.1
  let fields ← parseFields R pair.2
  return (id, fields)

/-- `parse_entries`. -/
def parseEntries : Value → Result (List StreamEntry)
  | .nil => .ok []
  | .map pairs => pairs.mapM (parseEntry R)
  | .array items => (twoElementItems items).mapM (parseEntry R)
  | other => .error (.request ("unexpected stream reply: " ++ R.debug other))

/-- `collect_strings`. -/
def collectStrings : Value → Result (List String)
  | .nil => .ok []
  | .array items => items.mapM (toText R)
  | other => do
      let s ← toText R other
      return [s]

/-- One `(key, entries)` pair of a stream read reply. -/
def parseStream (pair : Value × Value) : Result (Bytes × List StreamEntry) := do
  let key ← toBytes R pair.1
  let entries ← parseEntries R pair.2
  return (key, entries)

/-- `parse_stream_read`. -/
def parseStreamRead : Value → Result (List (Bytes × List StreamEntry))
  | .nil => .ok []
  | .map pairs => pairs.mapM (parseStream R)
  | .array items => (twoElementItems items).mapM (parseStream R)
  | other => .error (.request ("unexpected XREAD reply: " ++ R.debug other))

/-- `parse_autoclaim`. -/
def parseAutoclaim : Value → Result (String × List StreamEntry × List String)
  | .array [cursor, entries, deleted] => do
      let deleted ← collectStrings R deleted
      let entries ← parseEntries R entries
      let cursor ← toText R cursor
      return (cursor, entries, deleted)
  | .array [cursor, entries] => do
      let entries ← parseEntries R entries
      let cursor ← toText R cursor
      return (cursor, entries, [])
  | other => .error (.request ("unexpected XAUTOCLAIM reply: " ++ R.debug other))

/-- `parse_autoclaim_justid`. -/
def parseAutoclaimJustid : Value → Result (String × List String × List String)
  | .array [cursor, ids, deleted] => do
      let deleted ← collectStrings R deleted
      let ids ← collectStrings R ids
      let cursor ← toText R cursor
      return (cursor, ids, deleted)
  | .array [cursor, ids] => do
      let ids ← collectStrings R ids
      let cursor ← toText R cursor
      return (cursor, ids, [])
  | other => .error (.request ("unexpected XAUTOCLAIM JUSTID reply: " ++ R.debug other))

/-- `XPendingSummary`. -/
structure XPendingSummary where
  count : Int64
  minId : Option Bytes
  maxId : Option Bytes
  consumers : List (Bytes × Int64)
  deriving DecidableEq, Repr

instance : Inhabited XPendingSummary := ⟨⟨0, none, none, []⟩⟩

/-- `XPendingEntry`. -/
structure XPendingEntry where
  id : Bytes
  consumer : Bytes
  idleMs : Int64
  deliveryCount : Int64
  deriving DecidableEq, Repr

/-- One `[consumer, count]` item of a summary. -/
def parseConsumer (pair : Value × Value) : Result (Bytes × Int64) := do
  let cnt ← toI64 R pair.2
  let name ← toBytes R pair.1
  return (name, cnt)

/-- The consumers of a summary; what is no list of consumers counts as none. -/
def parseConsumers : Value → Result (List (Bytes × Int64))
  | .nil => .ok []
  | .array list => (twoElementItems list).mapM (parseConsumer R)
  | _ => .ok []

/-- `parse_xpending_summary`. -/
def parseXpendingSummary : Value → Result XPendingSummary
  | .array [count, min, max, consumers] => do
      let count ← toI64 R count
      let consumers ← parseConsumers R consumers
      let minId ← toOptBytes R min
      let maxId ← toOptBytes R max
      return ⟨count, minId, maxId, consumers⟩
  | .nil => .ok default
  | other => .error (.request ("unexpected XPENDING summary reply: " ++ R.debug other))

/-- The `[a, b, c, d]` items of an array reply; items of another shape are skipped. -/
def fourElementItems (items : List Value) : List (Value × Value × Value × Value) :=
  items.filterMap fun
    | .array [a, b, c, d] => some (a, b, c, d)
    | _ => none

/-- One `[id, consumer, idle, delivery_count]` item. -/
def parsePending : Value × Value × Value × Value → Result XPendingEntry
  | (id, consumer, idle, deliveries) => do
      let deliveryCount ← toI64 R deliveries
      let idleMs ← toI64 R idle
      let consumer ← toBytes R consumer
      let id ← toBytes R id
      return ⟨id, consumer, idleMs, deliveryCount⟩

/-- `parse_xpending_range`. -/
def parseXpendingRange : Value → Result (List XPendingEntry)
  | .nil => .ok []
  | .array items => (fourElementItems items).mapM (parsePending R)
  | other => .error (.request ("unexpected XPENDING range reply: " ++ R.debug other))

/-! ## Reply shapes -/

/-- How a collection of pairs is sent: arrays of two elements, or a map. -/
inductive PairsForm where
  | resp2
  | resp3
  deriving DecidableEq, Repr

/-- How the fields of an entry are sent. -/
inductive FieldsForm where
  | flat
  | nested
  deriving DecidableEq, Repr

def encodePairs (pairs : List (Value × Value)) : PairsForm → Value
  | .resp2 => .array (pairs.map fun p => .array [p.1, p.2])
  | .resp3 => .map pairs

def encodeFields (fields : List (Bytes × Bytes)) : FieldsForm → Value
  | .flat => .array (flatten (fields.map fun p => (.bulkString p.1, .bulkString p.2)))
  | .nested => .array (fields.map fun p => .array [.bulkString p.1, .bulkString p.2])

/-- An entry together with the form its fields are sent in. -/
abbrev ShapedEntry := StreamEntry × FieldsForm

/-- A stream together with the form of its entries and those of their fields. -/
abbrev ShapedStream := Bytes × PairsForm × List ShapedEntry

def encodeEntry (entry : ShapedEntry) : Value × Value :=
  (.bulkString (utf8 entry.1.1), encodeFields entry.1.2 entry.2)

def encodeEntries (entries : List ShapedEntry) (form : PairsForm) : Value :=
  encodePairs (entries.map encodeEntry) form

def encodeStream (stream : ShapedStream) : Value × Value :=
  (.bulkString stream.1, encodeEntries stream.2.2 stream.2.1)

def encodeStreams (streams : List ShapedStream) (form : PairsForm) : Value :=
  encodePairs (streams.map encodeStream) form

def encodeStrings (strings : List String) : Value :=
  .array (strings.map fun s => .bulkString (utf8 s))

/-- The data of a stream, without the forms it was sent in. -/
def ShapedStream.data (stream : ShapedStream) : Bytes × List StreamEntry :=
  (stream.1, stream.2.2.map Prod.fst)

/-! ## Decoding undoes every encoding -/

@[simp] theorem twoElementItems_pairs {γ : Type} (xs : List γ) (first second : γ → Value) :
    twoElementItems (xs.map fun x => .array [first x, second x]) =
      xs.map fun x => (first x, second x) := by
  induction xs with
  | nil => rfl
  | cons x xs ih => exact congrArg (List.cons (first x, second x)) ih

theorem twoElementItems_resp2 (pairs : List (Value × Value)) :
    twoElementItems (pairs.map fun p => .array [p.1, p.2]) = pairs :=
  (twoElementItems_pairs pairs Prod.fst Prod.snd).trans (List.map_id pairs)

variable {R}

/-- The two forms of a field list decode to the same fields. The empty list
passes the test for nested pairs in either form. -/
theorem parseFields_encodeFields (fields : List (Bytes × Bytes)) (form : FieldsForm) :
    parseFields R (encodeFields fields form) = .ok fields := by
  cases form with
  | nested =>
      have hall : (fields.map fun p => Value.array [.bulkString p.1, .bulkString p.2]).all
          isPair = true := by
        simp [isPair]
      simp only [encodeFields, parseFields, hall, if_true, twoElementItems_pairs]
      exact mapM_map_cancel fun _ _ => rfl
  | flat =>
      cases fields with
      | nil => rfl
      | cons p fields =>
          have hall : (flatten ((p :: fields).map fun q =>
              (Value.bulkString q.1, Value.bulkString q.2))).all isPair = false := by
            simp [isPair]
          simp only [encodeFields, parseFields, hall, pairUp_flatten]
          rw [if_neg Bool.false_ne_true]
          exact mapM_map_cancel fun _ _ => rfl

theorem parseEntry_encodeEntry (h : DecodesText R) (entry : ShapedEntry) :
    parseEntry R (encodeEntry entry) = .ok entry.1 := by
  simp only [parseEntry, encodeEntry, toText_bulkString h, parseFields_encodeFields]
  rfl

/-- Entries decode whatever the form of their collection and of each of them. -/
theorem parseEntries_encodeEntries (h : DecodesText R) (entries : List ShapedEntry)
    (form : PairsForm) :
    parseEntries R (encodeEntries entries form) = .ok (entries.map Prod.fst) := by
  have hentries : (entries.map encodeEntry).mapM (parseEntry R) = .ok (entries.map Prod.fst) :=
    mapM_map_eq_ok fun entry _ => parseEntry_encodeEntry h entry
  cases form with
  | resp2 =>
      simp only [encodeEntries, encodePairs, parseEntries, twoElementItems_resp2]
      exact hentries
  | resp3 => exact hentries

theorem parseStream_encodeStream (h : DecodesText R) (stream : ShapedStream) :
    parseStream R (encodeStream stream) = .ok stream.data := by
  simp only [parseStream, encodeStream, toBytes_bulkString, parseEntries_encodeEntries h]
  rfl

theorem parseStreamRead_encodeStreams (h : DecodesText R) (streams : List ShapedStream)
    (form : PairsForm) :
    parseStreamRead R (encodeStreams streams form) = .ok (streams.map ShapedStream.data) := by
  have hstreams : (streams.map encodeStream).mapM (parseStream R) =
      .ok (streams.map ShapedStream.data) :=
    mapM_map_eq_ok fun stream _ => parseStream_encodeStream h stream
  cases form with
  | resp2 =>
      simp only [encodeStreams, encodePairs, parseStreamRead, twoElementItems_resp2]
      exact hstreams
  | resp3 => exact hstreams

theorem collectStrings_encodeStrings (h : DecodesText R) (strings : List String) :
    collectStrings R (encodeStrings strings) = .ok strings :=
  mapM_map_cancel fun s _ => toText_bulkString h s

/-- Stream replies decode to the same data in every mixture of reply shapes. -/
theorem stream_replies_decode_in_every_shape (h : DecodesText R) :
    (∀ (streams : List ShapedStream) (form : PairsForm),
      parseStreamRead R (encodeStreams streams form) =
        .ok (streams.map ShapedStream.data)) ∧
    (∀ (entries : List ShapedEntry) (form : PairsForm),
      parseEntries R (encodeEntries entries form) = .ok (entries.map Prod.fst)) ∧
    (∀ (cursor : String) (entries : List ShapedEntry) (form : PairsForm) (deleted : List String),
      parseAutoclaim R (.array [.bulkString (utf8 cursor), encodeEntries entries form,
        encodeStrings deleted]) = .ok (cursor, entries.map Prod.fst, deleted)) ∧
    (∀ (cursor : String) (entries : List ShapedEntry) (form : PairsForm),
      parseAutoclaim R (.array [.bulkString (utf8 cursor), encodeEntries entries form]) =
        .ok (cursor, entries.map Prod.fst, [])) := by
  refine ⟨parseStreamRead_encodeStreams h, parseEntries_encodeEntries h, ?_, ?_⟩
  · intro cursor entries form deleted
    simp only [parseAutoclaim, collectStrings_encodeStrings h, parseEntries_encodeEntries h,
      toText_bulkString h]
    rfl
  · intro cursor entries form
    simp only [parseAutoclaim, parseEntries_encodeEntries h, toText_bulkString h]
    rfl

/-- Two streams, one of them empty: entries with flat, nested and no fields. -/
def mixedStreams : List ShapedStream :=
  [(utf8 "s", .resp3, [(("1-0", [(utf8 "f", utf8 "v"), ([255], [])]), .flat),
    (("2-0", []), .flat), (("3-0", [(utf8 "f", utf8 "v")]), .nested)]), (utf8 "t", .resp2, [])]

theorem stream_replies_decode_mixed :
    parseStreamRead RedisCrate.stringsOnly (encodeStreams mixedStreams .resp2) =
      .ok [(utf8 "s", [("1-0", [(utf8 "f", utf8 "v"), ([255], [])]), ("2-0", []),
        ("3-0", [(utf8 "f", utf8 "v")])]), (utf8 "t", [])] :=
  (stream_replies_decode_in_every_shape decodesText_stringsOnly).1 mixedStreams .resp2

end GlideRust.Commands.StreamReply

import GlideRust.Commands.StreamReply
import GlideRust.Lib.Decoding

/-!
# What the stream decoders drop

A reply documents a result when every element of it is accounted for there. The
decoders refuse a reply of the wrong kind but skip items of the wrong shape, so
they are sound exactly on the replies without a stray element, and on those that
they refuse for another reason.

## Implementation notes

An id, a field, a value or a count is documented by the conversion that reads
it. `Fails` is asked of those conversions only, never of a decoder.
-/

namespace GlideRust.Commands.StreamReplyAudit

open Redis Error ValueConversion StreamReply
open Lib Lib.PairList Lib.Fallible Lib.Decoding

variable (R : RedisCrate) {α β : Type}

/-! ## Documented encodings -/

def pairShape (p : Value × Value) : Value := .array [p.1, p.2]

def quadShape (q : Value × Value × Value × Value) : Value := .array [q.1, q.2.1, q.2.2.1, q.2.2.2]

/-- An array of items of one shape, or nil. -/
def ItemsOf (shape : β → Value) (Of : β → α → Prop) : Value → List α → Prop
  | .nil, outs => outs = []
  | .array items, outs => List.Forall₂ (fun item out => ∃ b, item = shape b ∧ Of b out) items outs
  | _, _ => False

/-- A collection of pairs: nil, a RESP2 array of two-element arrays or a RESP3 map. -/
def PairsOf (Of : Value × Value → α → Prop) : Value → List α → Prop
  | .map pairs, outs => List.Forall₂ Of pairs outs
  | v, outs => ItemsOf pairShape Of v outs

def FieldOf (p : Value × Value) (field : Bytes × Bytes) : Prop :=
  toBytes R p.1 = .ok field.1 ∧ toBytes R p.2 = .ok field.2

/-- The fields of an entry: nil, nested pairs, or fields and values in turn. -/
def FieldsOf : Value → List (Bytes × Bytes) → Prop
  | .nil, fields => fields = []
  | .array items, fields =>
      List.Forall₂ (fun item field => ∃ p, item = pairShape p ∧ FieldOf R p field) items fields ∨
        ∃ pairs, items = flatten pairs ∧ List.Forall₂ (FieldOf R) pairs fields
  | _, _ => False

def EntryOf (p : Value × Value) (entry : StreamEntry) : Prop :=
  toText R p.1 = .ok entry.1 ∧ FieldsOf R p.2 entry.2

/-- A reply of `XRANGE`. -/
def EntriesOf : Value → List StreamEntry → Prop := PairsOf (EntryOf R)

def StreamOf (p : Value × Value) (stream : Bytes × List StreamEntry) : Prop :=
  toBytes R p.1 = .ok stream.1 ∧ EntriesOf R p.2 stream.2

/-- A reply of `XREAD`. -/
def StreamsOf : Value → List (Bytes × List StreamEntry) → Prop := PairsOf (StreamOf R)

def ConsumerOf (p : Value × Value) (consumer : Bytes × Int64) : Prop :=
  toBytes R p.1 = .ok consumer.1 ∧ toI64 R p.2 = .ok consumer.2

/-- A summary reply of `XPENDING`: nil, or `[count, min, max, consumers]`. -/
def SummaryOf : Value → XPendingSummary → Prop
  | .nil, summary => summary = default
  | .array [count, min, max, consumers], summary =>
      toI64 R count = .ok summary.count ∧ toOptBytes R min = .ok summary.minId ∧
        toOptBytes R max = .ok summary.maxId ∧
          ItemsOf pairShape (ConsumerOf R) consumers summary.consumers
  | _, _ => False

def PendingOf (q : Value × Value × Value × Value) (entry : XPendingEntry) : Prop :=
  toBytes R q.1 = .ok entry.id ∧ toBytes R q.2.1 = .ok entry.consumer ∧
    toI64 R q.2.2.1 = .ok entry.idleMs ∧ toI64 R q.2.2.2 = .ok entry.deliveryCount

/-- A range reply of `XPENDING`. -/
def RangeOf : Value → List XPendingEntry → Prop := ItemsOf quadShape (PendingOf R)

/-! ## Stray elements -/

/-- An item of another shape, or one with a stray element inside. -/
def StrayItem (shape : β → Value) (Stray : β → Prop) (item : Value) : Prop :=
  (∀ b, item ≠ shape b) ∨ ∃ b, item = shape b ∧ Stray b

def StrayPairs (Stray : Value × Value → Prop) : Value → Prop
  | .array items => ∃ item ∈ items, StrayItem pairShape Stray item
  | .map pairs => ∃ p ∈ pairs, Stray p
  | _ => False

/-- A last field without a value, or fields that are no array: a scalar, a map or a set. -/
def StrayFields : Value → Prop
  | .nil => False
  | .array items => items.all isPair = false ∧ items.length % 2 = 1
  | _ => True

def StrayEntries : Value → Prop := StrayPairs fun p => StrayFields p.2

def StrayStreams : Value → Prop := StrayPairs fun p => StrayEntries p.2

def StrayConsumers : Value → Prop
  | .nil => False
  | .array items => ∃ item ∈ items, ∀ p, item ≠ pairShape p
  | _ => True

def StraySummary : Value → Prop
  | .array [_, _, _, consumers] => StrayConsumers consumers
  | _ => False

def StrayRange : Value → Prop
  | .array items => ∃ item ∈ items, ∀ q, item ≠ quadShape q
  | _ => False

/-! ## Replies that are refused -/

/-- Not a collection, or one of the items that are read does not convert. -/
def RefusedPairs (Refused : Value × Value → Prop) : Value → Prop
  | .nil => False
  | .array items => ∃ item ∈ items, ∃ p, item = pairShape p ∧ Refused p
  | .map pairs => ∃ p ∈ pairs, Refused p
  | _ => True

def RefusedField (p : Value × Value) : Prop := Fails (toBytes R p.1) ∨ Fails (toBytes R p.2)

def RefusedFields : Value → Prop
  | .nil => False
  | .array items =>
      if items.all isPair then ∃ item ∈ items, ∃ p, item = pairShape p ∧ RefusedField R p
      else ∃ p ∈ pairUp items, RefusedField R p
  | other => Fails (toBytes R other)

def RefusedEntries : Value → Prop :=
  RefusedPairs fun p => Fails (toText R p.1) ∨ RefusedFields R p.2

def RefusedStreams : Value → Prop :=
  RefusedPairs fun p => Fails (toBytes R p.1) ∨ RefusedEntries R p.2

def RefusedConsumers : Value → Prop
  | .array items =>
      ∃ item ∈ items, ∃ p, item = pairShape p ∧ (Fails (toBytes R p.1) ∨ Fails (toI64 R p.2))
  | _ => False

def RefusedSummary : Value → Prop
  | .nil => False
  | .array [count, min, max, consumers] =>
      Fails (toI64 R count) ∨ RefusedConsumers R consumers ∨ Fails (toOptBytes R min) ∨
        Fails (toOptBytes R max)
  | _ => True

def RefusedRange : Value → Prop
  | .nil => False
  | .array items =>
      ∃ item ∈ items, ∃ q, item = quadShape q ∧ (Fails (toBytes R q.1) ∨ Fails (toBytes R q.2.1) ∨
        Fails (toI64 R q.2.2.1) ∨ Fails (toI64 R q.2.2.2))
  | _ => True

/-! ## Audits of the items -/

/-- The test that the decoders make on an item. -/
def asPair : Value → Option (Value × Value)
  | .array [first, second] => some (first, second)
  | _ => none

theorem asPair_eq_some_iff (v : Value) (p : Value × Value) :
    asPair v = some p ↔ v = pairShape p := by
  constructor
  · intro h
    unfold asPair at h
    split at h
    · cases h
      rfl
    · cases h
  · rintro rfl
    rfl

theorem twoElementItems_eq_filterMap (items : List Value) :
    twoElementItems items = items.filterMap asPair := rfl

def asQuad : Value → Option (Value × Value × Value × Value)
  | .array [a, b, c, d] => some (a, b, c, d)
  | _ => none

theorem asQuad_eq_some_iff (v : Value) (q : Value × Value × Value × Value) :
    asQuad v = some q ↔ v = quadShape q := by
  constructor
  · intro h
    unfold asQuad at h
    split at h
    · cases h
      rfl
    · cases h
  · rintro rfl
    rfl

/-- Two conversions, with nothing between them that could be dropped. -/
theorem audit_leaves {x : Result α} {y : Result β} {z : Result (α × β)}
    (hz : ∀ out, z = .ok out ↔ x = .ok out.1 ∧ y = .ok out.2) :
    Audit z (fun out => x = .ok out.1 ∧ y = .ok out.2) False (Fails x ∨ Fails y) := by
  have haudit := Audit.prod (Audit.leaf x) (Audit.leaf y) hz
  rwa [or_self] at haudit

variable {R}

theorem all_isPair_iff (items : List Value) :
    items.all isPair = true ↔ ∀ item ∈ items, ∃ p, item = pairShape p := by
  have hitem (item : Value) : isPair item = true ↔ ∃ p, item = pairShape p := by
    constructor
    · intro h
      unfold isPair at h
      split at h
      · rename_i first second
        exact ⟨(first, second), rfl⟩
      · cases h
    · rintro ⟨p, rfl⟩
      rfl
  simp only [List.all_eq_true, hitem]

/-- A list in which not every item is a pair is no list of nested pairs. -/
theorem not_forall₂_of_all_isPair {items : List Value} {outs : List α}
    {Of : Value × Value → α → Prop} (hall : items.all isPair = false)
    (h : List.Forall₂ (fun item out => ∃ p, item = pairShape p ∧ Of p out) items outs) : False := by
  have hpairs : items.all isPair = true := by
    rw [all_isPair_iff]
    clear hall
    induction h with
    | nil =>
        intro item hitem
        cases hitem
    | cons hhead _ ih =>
        rw [List.forall_mem_cons]
        obtain ⟨p, hp, -⟩ := hhead
        exact ⟨⟨p, hp⟩, ih⟩
  rw [hall] at hpairs
  cases hpairs

theorem audit_nestedFields {items : List Value} (hall : items.all isPair = true) :
    Audit (parseFields R (.array items)) (FieldsOf R (.array items)) False
      (∃ item ∈ items, ∃ p, item = pairShape p ∧ RefusedField R p) := by
  have hparse : parseFields R (.array items) = (items.filterMap asPair).mapM fun p =>
      toBytes R p.2 >>= fun val => toBytes R p.1 >>= fun field => pure (field, val) := by
    rw [parseFields, if_pos hall]
    rfl
  have haudit := Audit.filterMap (fun p : Value × Value => audit_leaves fun out =>
    pair_swap_eq_ok_iff (x := toBytes R p.1) (y := toBytes R p.2)) asPair_eq_some_iff items
  have hstray : ¬∃ item ∈ items, (∀ p, item ≠ pairShape p) ∨ ∃ p, item = pairShape p ∧ False := by
    rintro ⟨item, hitem, hshape | ⟨p, -, hfalse⟩⟩
    · obtain ⟨p, hp⟩ := (all_isPair_iff items).mp hall item hitem
      exact hshape p hp
    · exact hfalse
  rw [hparse]
  exact {
    documented := fun _ hout => .inl (haudit.documented hstray hout)
    dropped := fun hfalse _ _ => hfalse
    readable := haudit.readable }

theorem audit_flatFields {items : List Value} (hall : items.all isPair = false) :
    Audit (parseFields R (.array items)) (FieldsOf R (.array items)) (items.length % 2 = 1)
      (∃ p ∈ pairUp items, RefusedField R p) := by
  have hparse : parseFields R (.array items) = (pairUp items).mapM fun p =>
      toBytes R p.1 >>= fun field => toBytes R p.2 >>= fun val => pure (field, val) := by
    rw [parseFields, if_neg (by simp [hall])]
  have haudit := Audit.mapM (fun p : Value × Value => audit_leaves fun out =>
    pair_eq_ok_iff (x := toBytes R p.1) (y := toBytes R p.2)) (pairUp items)
  rw [hparse]
  refine ⟨?_, ?_, haudit.readable⟩
  · intro out hodd hout
    have heven : items.length % 2 = 0 := by omega
    refine .inr ⟨pairUp items, (flatten_pairUp heven).symm, ?_⟩
    exact haudit.documented (by simp) hout
  · rintro out hodd - (hnested | ⟨pairs, hpairs, -⟩)
    · exact not_forall₂_of_all_isPair hall hnested
    · rw [hpairs, length_flatten] at hodd
      omega

theorem audit_fields (v : Value) :
    Audit (parseFields R v) (FieldsOf R v) (StrayFields v) (RefusedFields R v) := by
  have hscalar (v : Value) (hdocumented : ∀ out, ¬FieldsOf R v out)
      (hparse : parseFields R v = toBytes R v >>= fun field => pure [(field, [])]) :
      Audit (parseFields R v) (FieldsOf R v) True (Fails (toBytes R v)) := by
    apply Audit.stray hdocumented
    rw [hparse, isOk_bind_iff]
    simp [Fails, pure, Except.pure]
  cases v with
  | nil => exact Audit.ok rfl
  | array items =>
      cases hall : items.all isPair with
      | true => simpa [StrayFields, RefusedFields, hall] using audit_nestedFields hall
      | false => simpa [StrayFields, RefusedFields, hall] using audit_flatFields hall
  | _ => exact hscalar _ (fun _ h => h) rfl

/-! ## Audits of the replies -/

section Collections

variable {decode : Value × Value → Result α} {Of : Value × Value → α → Prop}
variable {Stray Refused : Value × Value → Prop}

/-- What the decoders of entries and of streams have in common: they read the
items of the right shape and all pairs of a map. -/
def collect (decode : Value × Value → Result α) (refuse : Value → GlideError) :
    Value → Result (List α)
  | .nil => .ok []
  | .map pairs => pairs.mapM decode
  | .array items => (twoElementItems items).mapM decode
  | other => .error (refuse other)

theorem audit_collect (h : ∀ p, Audit (decode p) (Of p) (Stray p) (Refused p))
    (refuse : Value → GlideError) (v : Value) :
    Audit (collect decode refuse v) (PairsOf Of v) (StrayPairs Stray v)
      (RefusedPairs Refused v) := by
  cases v with
  | nil => exact Audit.ok rfl
  | array items =>
      rw [collect, twoElementItems_eq_filterMap]
      exact Audit.filterMap h asPair_eq_some_iff items
  | map pairs => exact Audit.mapM h pairs
  | _ => exact Audit.error _

end Collections

theorem audit_entry (p : Value × Value) :
    Audit (parseEntry R p) (EntryOf R p) (StrayFields p.2)
      (Fails (toText R p.1) ∨ RefusedFields R p.2) := by
  have haudit := Audit.prod (Audit.leaf (toText R p.1)) (audit_fields p.2)
    (z := parseEntry R p) fun out => pair_eq_ok_iff
  rwa [false_or] at haudit

theorem audit_entries (v : Value) :
    Audit (parseEntries R v) (EntriesOf R v) (StrayEntries v) (RefusedEntries R v) := by
  have hparse : parseEntries R v = collect (parseEntry R)
      (fun other => .request ("unexpected stream reply: " ++ R.debug other)) v := by
    cases v <;> rfl
  rw [hparse]
  exact audit_collect audit_entry _ v

theorem audit_stream (p : Value × Value) :
    Audit (parseStream R p) (StreamOf R p) (StrayEntries p.2)
      (Fails (toBytes R p.1) ∨ RefusedEntries R p.2) := by
  have haudit := Audit.prod (Audit.leaf (toBytes R p.1)) (audit_entries p.2)
    (z := parseStream R p) fun out => pair_eq_ok_iff
  rwa [false_or] at haudit

theorem audit_streams (v : Value) :
    Audit (parseStreamRead R v) (StreamsOf R v) (StrayStreams v) (RefusedStreams R v) := by
  have hparse : parseStreamRead R v = collect (parseStream R)
      (fun other => .request ("unexpected XREAD reply: " ++ R.debug other)) v := by
    cases v <;> rfl
  rw [hparse]
  exact audit_collect audit_stream _ v

theorem audit_consumers (v : Value) :
    Audit (parseConsumers R v) (ItemsOf pairShape (ConsumerOf R) v) (StrayConsumers v)
      (RefusedConsumers R v) := by
  cases v with
  | nil => exact Audit.ok rfl
  | array items =>
      have haudit := Audit.filterMap (fun p : Value × Value => audit_leaves
        (z := parseConsumer R p) fun out => pair_swap_eq_ok_iff) asPair_eq_some_iff items
      simp only [and_false, exists_false, or_false] at haudit
      exact haudit
  | _ => exact Audit.stray (fun _ h => h) (by simp [parseConsumers, RefusedConsumers])

/-- A summary is decoded by decoding its four elements. -/
theorem parseXpendingSummary_eq_ok_iff {count min max consumers : Value}
    {summary : XPendingSummary} :
    parseXpendingSummary R (.array [count, min, max, consumers]) = .ok summary ↔
      toI64 R count = .ok summary.count ∧ parseConsumers R consumers = .ok summary.consumers ∧
        toOptBytes R min = .ok summary.minId ∧ toOptBytes R max = .ok summary.maxId := by
  simp only [parseXpendingSummary, bind_eq_ok_iff]
  constructor
  · rintro ⟨count, hcount, consumers, hconsumers, minId, hmin, maxId, hmax, hpure⟩
    cases hpure
    exact ⟨hcount, hconsumers, hmin, hmax⟩
  · rintro ⟨hcount, hconsumers, hmin, hmax⟩
    exact ⟨_, hcount, _, hconsumers, _, hmin, _, hmax, rfl⟩

theorem audit_fourElements (count min max consumers : Value) :
    Audit (parseXpendingSummary R (.array [count, min, max, consumers]))
      (SummaryOf R (.array [count, min, max, consumers])) (StrayConsumers consumers)
      (Fails (toI64 R count) ∨ RefusedConsumers R consumers ∨ Fails (toOptBytes R min) ∨
        Fails (toOptBytes R max)) := by
  have hconsumers := audit_consumers (R := R) consumers
  refine ⟨?_, ?_, ?_⟩
  · intro summary hstray hout
    obtain ⟨hcount, hlist, hmin, hmax⟩ := parseXpendingSummary_eq_ok_iff.mp hout
    exact ⟨hcount, hmin, hmax, hconsumers.documented hstray hlist⟩
  · rintro summary hstray hout ⟨-, -, -, hdocumented⟩
    obtain ⟨-, hlist, -, -⟩ := parseXpendingSummary_eq_ok_iff.mp hout
    exact hconsumers.dropped hstray hlist hdocumented
  · simp only [parseXpendingSummary_eq_ok_iff, not_or, ← hconsumers.readable, Fails, not_forall,
      not_not]
    constructor
    · rintro ⟨summary, hcount, hlist, hmin, hmax⟩
      exact ⟨⟨_, hcount⟩, ⟨_, hlist⟩, ⟨_, hmin⟩, _, hmax⟩
    · rintro ⟨⟨count, hcount⟩, ⟨consumers, hlist⟩, ⟨minId, hmin⟩, maxId, hmax⟩
      exact ⟨⟨count, minId, maxId, consumers⟩, hcount, hlist, hmin, hmax⟩

theorem audit_summary (v : Value) :
    Audit (parseXpendingSummary R v) (SummaryOf R v) (StraySummary v) (RefusedSummary R v) := by
  cases v with
  | nil => exact Audit.ok rfl
  | array items =>
      match items with
      | [count, min, max, consumers] => exact audit_fourElements count min max consumers
      | [] | [_] | [_, _] | [_, _, _] | _ :: _ :: _ :: _ :: _ :: _ => exact Audit.error _
  | _ => exact Audit.error _

theorem audit_pending (q : Value × Value × Value × Value) :
    Audit (parsePending R q) (PendingOf R q) False
      (Fails (toBytes R q.1) ∨ Fails (toBytes R q.2.1) ∨ Fails (toI64 R q.2.2.1) ∨
        Fails (toI64 R q.2.2.2)) := by
  have hparse (entry : XPendingEntry) : parsePending R q = .ok entry ↔ PendingOf R q entry := by
    simp only [parsePending, bind_eq_ok_iff, PendingOf]
    constructor
    · rintro ⟨deliveries, hdeliveries, idle, hidle, consumer, hconsumer, id, hid, hpure⟩
      cases hpure
      exact ⟨hid, hconsumer, hidle, hdeliveries⟩
    · rintro ⟨hid, hconsumer, hidle, hdeliveries⟩
      exact ⟨_, hdeliveries, _, hidle, _, hconsumer, _, hid, rfl⟩
  refine ⟨fun _ => (hparse _).mp, fun hfalse _ _ => hfalse, ?_⟩
  simp only [hparse, PendingOf, not_or, Fails, not_forall, not_not]
  constructor
  · rintro ⟨entry, hid, hconsumer, hidle, hdeliveries⟩
    exact ⟨⟨_, hid⟩, ⟨_, hconsumer⟩, ⟨_, hidle⟩, _, hdeliveries⟩
  · rintro ⟨⟨id, hid⟩, ⟨consumer, hconsumer⟩, ⟨idle, hidle⟩, deliveries, hdeliveries⟩
    exact ⟨⟨id, consumer, idle, deliveries⟩, hid, hconsumer, hidle, hdeliveries⟩

theorem audit_range (v : Value) :
    Audit (parseXpendingRange R v) (RangeOf R v) (StrayRange v) (RefusedRange R v) := by
  cases v with
  | nil => exact Audit.ok rfl
  | array items =>
      have haudit := Audit.filterMap (audit_pending (R := R)) asQuad_eq_some_iff items
      simp only [and_false, exists_false, or_false] at haudit
      exact haudit
  | _ => exact Audit.error _

/-- Each decoder returns only results that the reply documents exactly when the
reply holds no stray element, or is refused for its kind or for an element that
is read and does not convert. -/
theorem stream_decoders_account_iff (R : RedisCrate) (v : Value) :
    (Accounted (parseEntries R v) (EntriesOf R v) ↔ ¬StrayEntries v ∨ RefusedEntries R v) ∧
    (Accounted (parseStreamRead R v) (StreamsOf R v) ↔ ¬StrayStreams v ∨ RefusedStreams R v) ∧
    (Accounted (parseXpendingSummary R v) (SummaryOf R v) ↔
      ¬StraySummary v ∨ RefusedSummary R v) ∧
    (Accounted (parseXpendingRange R v) (RangeOf R v) ↔ ¬StrayRange v ∨ RefusedRange R v) :=
  ⟨(audit_entries v).accounted_iff, (audit_streams v).accounted_iff,
    (audit_summary v).accounted_iff, (audit_range v).accounted_iff⟩

/-- A field without a value, a stream without entries, consumers that are no list
and a pending entry of three elements: all four replies decode without an error. -/
theorem stray_elements_are_dropped :
    let fieldOnly : Value :=
      .array [.array [.bulkString (utf8 "1-0"), .array [.bulkString (utf8 "f")]]]
    let keyOnly : Value := .array [.bulkString (utf8 "s")]
    let countOnly : Value := .array [.int 1, .nil, .nil, .int 7]
    let noDeliveries : Value :=
      .array [.array [.bulkString (utf8 "1-0"), .bulkString (utf8 "c"), .int 5]]
    (parseEntries integers fieldOnly = .ok [("1-0", [])] ∧
      ¬Accounted (parseEntries integers fieldOnly) (EntriesOf integers fieldOnly)) ∧
    (parseStreamRead integers keyOnly = .ok [] ∧
      ¬Accounted (parseStreamRead integers keyOnly) (StreamsOf integers keyOnly)) ∧
    (parseXpendingSummary integers countOnly = .ok ⟨1, none, none, []⟩ ∧
      ¬Accounted (parseXpendingSummary integers countOnly) (SummaryOf integers countOnly)) ∧
    (parseXpendingRange integers noDeliveries = .ok [] ∧
      ¬Accounted (parseXpendingRange integers noDeliveries) (RangeOf integers noDeliveries)) := by
  have hentries : parseEntries integers
      (.array [.array [.bulkString (utf8 "1-0"), .array [.bulkString (utf8 "f")]]]) =
        .ok [("1-0", [])] := by
    have hid : toText integers (.bulkString (utf8 "1-0")) = .ok "1-0" :=
      toText_bulkString decodesText_stringsOnly "1-0"
    simp only [parseEntries, twoElementItems, List.filterMap_cons, List.filterMap_nil,
      List.mapM_cons, parseEntry, hid]
    rfl
  refine ⟨⟨hentries, ?_⟩, ⟨rfl, ?_⟩, ⟨rfl, ?_⟩, ⟨rfl, ?_⟩⟩
  · intro haccounted
    refine (audit_entries _).dropped ?_ hentries (haccounted _ hentries)
    exact ⟨_, List.mem_singleton_self _, .inr ⟨(_, _), rfl, rfl, rfl⟩⟩
  · intro haccounted
    refine (audit_streams _).dropped ?_ rfl (haccounted _ rfl)
    refine ⟨_, List.mem_singleton_self _, .inl ?_⟩
    intro p hp
    cases hp
  · intro haccounted
    refine (audit_summary _).dropped ?_ rfl (haccounted _ rfl)
    exact trivial
  · intro haccounted
    refine (audit_range _).dropped ?_ rfl (haccounted _ rfl)
    refine ⟨_, List.mem_singleton_self _, ?_⟩
    intro q hq
    simp [quadShape] at hq

end GlideRust.Commands.StreamReplyAudit

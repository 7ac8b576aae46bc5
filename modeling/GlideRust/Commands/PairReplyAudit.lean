import GlideRust.Commands.PairReply
import GlideRust.Commands.StreamReplyAudit

/-!
# What the pair decoders drop

The decoders of member scores, hash pairs, subscriber counts and stream
information read a flat array two elements at a time, so an odd one at the end
is lost without an error. Those that also take nested pairs look at every item
before they choose. The decoders of `XAUTOCLAIM` read the lists inside their
reply with the decoders of entries and of strings and inherit what these drop.

## Implementation notes

One audit covers an array read flat and one covers an array that is sniffed,
both over arbitrary conversions of the two components.
-/

namespace GlideRust.Commands.PairReplyAudit

open Redis Error ValueConversion StreamReply PairReply StreamReplyAudit
open Lib Lib.PairList Lib.Fallible Lib.Decoding

variable {α β : Type} (first : Value → Result α) (second : Value → Result β)

/-! ## Documented encodings -/

/-- A pair is documented by the two conversions that read it. -/
def PairOf (p : Value × Value) (out : α × β) : Prop :=
  first p.1 = .ok out.1 ∧ second p.2 = .ok out.2

/-- Nil, a map, or the two components of every pair in turn. -/
def FlatListOf : Value → List (α × β) → Prop
  | .nil, outs => outs = []
  | .map pairs, outs => List.Forall₂ (PairOf first second) pairs outs
  | .array items, outs =>
      ∃ pairs, items = flatten pairs ∧ List.Forall₂ (PairOf first second) pairs outs
  | _, _ => False

/-- As `FlatListOf`, and also an array of two-element arrays. -/
def PairListOf : Value → List (α × β) → Prop
  | .array items, outs =>
      List.Forall₂ (fun item out => ∃ p, item = pairShape p ∧ PairOf first second p out)
          items outs ∨
        FlatListOf first second (.array items) outs
  | v, outs => FlatListOf first second v outs

variable (R : RedisCrate)

/-- A list of structured maps: nil or an array of them. -/
def MapsOf : Value → List (List (Bytes × Value)) → Prop
  | .nil, outs => outs = []
  | .array items, outs => List.Forall₂ (FlatListOf (toBytes R) .ok) items outs
  | _, _ => False

/-- A list of ids: nil or an array of them. -/
def StringsOf : Value → List String → Prop
  | .nil, outs => outs = []
  | .array items, outs => List.Forall₂ (fun item s => toText R item = .ok s) items outs
  | _, _ => False

/-- A reply of `XAUTOCLAIM`: the cursor, what was claimed and, from servers that
report them, the deleted ids. -/
def ClaimedOf (Of : Value → α → Prop) : Value → String × α × List String → Prop
  | .array [cursor, claimed, deleted], out =>
      toText R cursor = .ok out.1 ∧ Of claimed out.2.1 ∧ StringsOf R deleted out.2.2
  | .array [cursor, claimed], out =>
      toText R cursor = .ok out.1 ∧ Of claimed out.2.1 ∧ out.2.2 = []
  | _, _ => False

/-! ## Stray elements -/

/-- A flat array with a last component alone. -/
def StrayFlat : Value → Prop
  | .array items => items.length % 2 = 1
  | _ => False

/-- The same, in an array that is not taken for nested pairs. -/
def StrayPairList : Value → Prop
  | .array items => items.all isPair = false ∧ items.length % 2 = 1
  | _ => False

/-- Something that is no list stands for one: a scalar, a set or a map. -/
def StrayScalar : Value → Prop
  | .nil | .array _ => False
  | _ => True

/-- The fields of a hash are read from a map too, but also from a scalar or a set. -/
def StrayHash : Value → Prop
  | .nil | .map _ => False
  | .array items => items.all isPair = false ∧ items.length % 2 = 1
  | _ => True

def StrayMaps : Value → Prop
  | .array items => ∃ item ∈ items, StrayFlat item
  | _ => False

def StrayClaimed (Stray : Value → Prop) : Value → Prop
  | .array [_, claimed, deleted] => Stray claimed ∨ StrayScalar deleted
  | .array [_, claimed] => Stray claimed
  | _ => False

/-! ## Replies that are refused -/

def RefusedPair (p : Value × Value) : Prop := Fails (first p.1) ∨ Fails (second p.2)

/-- No collection, or one of the pairs that are read does not convert. -/
def RefusedFlat : Value → Prop
  | .nil => False
  | .map pairs => ∃ p ∈ pairs, RefusedPair first second p
  | .array items => ∃ p ∈ pairUp items, RefusedPair first second p
  | _ => True

def RefusedArray (items : List Value) : Prop :=
  if items.all isPair then ∃ item ∈ items, ∃ p, item = pairShape p ∧ RefusedPair first second p
  else ∃ p ∈ pairUp items, RefusedPair first second p

def RefusedPairList : Value → Prop
  | .nil => False
  | .map pairs => ∃ p ∈ pairs, RefusedPair first second p
  | .array items => RefusedArray first second items
  | _ => True

def RefusedHash : Value → Prop
  | .nil => False
  | .map pairs => ∃ p ∈ pairs, RefusedPair (toBytes R) (toBytes R) p
  | .array items => RefusedArray (toBytes R) (toBytes R) items
  | other => Fails (toBytes R other)

def RefusedMaps : Value → Prop
  | .nil => False
  | .array items => ∃ item ∈ items, RefusedFlat (toBytes R) Except.ok item
  | _ => True

def RefusedStrings : Value → Prop
  | .nil => False
  | .array items => ∃ item ∈ items, Fails (toText R item)
  | other => Fails (toText R other)

def RefusedClaimed (Refused : Value → Prop) : Value → Prop
  | .array [cursor, claimed, deleted] =>
      Fails (toText R cursor) ∨ Refused claimed ∨ RefusedStrings R deleted
  | .array [cursor, claimed] => Fails (toText R cursor) ∨ Refused claimed
  | _ => True

/-! ## Audits of the readers -/

variable {first second}

theorem audit_readMap (pairs : List (Value × Value)) :
    Audit (readMap first second pairs) (List.Forall₂ (PairOf first second) pairs) False
      (∃ p ∈ pairs, RefusedPair first second p) := by
  have haudit := Audit.mapM (fun p : Value × Value => audit_leaves fun out =>
    pair_eq_ok_iff (x := first p.1) (y := second p.2)) pairs
  simp only [and_false, exists_false] at haudit
  exact haudit

/-- Two elements at a time: the flat form is recovered unless one is left over. -/
theorem audit_readFlat (items : List Value) :
    Audit (readFlat first second items) (FlatListOf first second (.array items))
      (items.length % 2 = 1) (∃ p ∈ pairUp items, RefusedPair first second p) := by
  have haudit : Audit (readMap first second (pairUp items)) _ _ _ := audit_readMap (pairUp items)
  refine ⟨?_, ?_, haudit.readable⟩
  · intro out hodd hout
    have heven : items.length % 2 = 0 := by omega
    exact ⟨pairUp items, (flatten_pairUp heven).symm, haudit.documented not_false hout⟩
  · rintro out hodd - ⟨pairs, hpairs, -⟩
    rw [hpairs, length_flatten] at hodd
    omega

theorem audit_readNested {items : List Value} (hall : items.all isPair = true) :
    Audit (readNested first second items) (PairListOf first second (.array items)) False
      (∃ item ∈ items, ∃ p, item = pairShape p ∧ RefusedPair first second p) := by
  have haudit := Audit.filterMap (fun p : Value × Value => audit_leaves fun out =>
    pair_swap_eq_ok_iff (x := first p.1) (y := second p.2)) asPair_eq_some_iff items
  have hstray : ¬∃ item ∈ items, (∀ p, item ≠ pairShape p) ∨ ∃ p, item = pairShape p ∧ False := by
    rintro ⟨item, hitem, hshape | ⟨p, -, hfalse⟩⟩
    · obtain ⟨p, hp⟩ := (all_isPair_iff items).mp hall item hitem
      exact hshape p hp
    · exact hfalse
  exact {
    documented := fun _ hout => .inl (haudit.documented hstray hout)
    dropped := fun hfalse _ _ => hfalse
    readable := haudit.readable }

theorem audit_readArray (items : List Value) :
    Audit (readArray first second items) (PairListOf first second (.array items))
      (items.all isPair = false ∧ items.length % 2 = 1) (RefusedArray first second items) := by
  unfold readArray RefusedArray
  cases hall : items.all isPair with
  | true =>
      have haudit : Audit (readNested first second items) _ _ _ := audit_readNested hall
      simpa only [Bool.true_eq_false, false_and, if_true] using haudit
  | false =>
      have haudit : Audit (readFlat first second items) _ _ _ := audit_readFlat items
      simp only [true_and, Bool.false_eq_true, if_false]
      refine ⟨?_, ?_, haudit.readable⟩
      · intro out hodd hout
        exact .inr (haudit.documented hodd hout)
      · rintro out hodd hout (hnested | hflat)
        · exact not_forall₂_of_all_isPair hall hnested
        · exact haudit.dropped hodd hout hflat

variable {R}

theorem audit_collectStrings (v : Value) :
    Audit (collectStrings R v) (StringsOf R v) (StrayScalar v) (RefusedStrings R v) := by
  have hscalar (v : Value) (hdocumented : ∀ out, ¬StringsOf R v out)
      (hparse : collectStrings R v = toText R v >>= fun s => pure [s]) :
      Audit (collectStrings R v) (StringsOf R v) True (Fails (toText R v)) := by
    apply Audit.stray hdocumented
    rw [hparse, isOk_bind_iff]
    simp [Fails, pure, Except.pure]
  cases v with
  | nil => exact Audit.ok rfl
  | array items =>
      have haudit := Audit.mapM (fun item => Audit.leaf (toText R item)) items
      simp only [and_false, exists_false] at haudit
      exact haudit
  | _ => exact hscalar _ (fun _ h => h) rfl

/-! ## Audits of the decoders -/

theorem audit_collectMemberScores (v : Value) :
    Audit (collectMemberScores R v) (PairListOf (toBytes R) (toF64 R) v) (StrayPairList v)
      (RefusedPairList (toBytes R) (toF64 R) v) := by
  cases v with
  | nil => exact Audit.ok rfl
  | map pairs => exact audit_readMap pairs
  | array items => exact audit_readArray items
  | _ => exact Audit.error _

theorem audit_collectPairs (v : Value) :
    Audit (collectPairs R v) (PairListOf (toBytes R) (toBytes R) v) (StrayHash v)
      (RefusedHash R v) := by
  have hscalar (v : Value) (hdocumented : ∀ out, ¬PairListOf (toBytes R) (toBytes R) v out)
      (hparse : collectPairs R v = toBytes R v >>= fun a => pure [(a, [])]) :
      Audit (collectPairs R v) (PairListOf (toBytes R) (toBytes R) v) True
        (Fails (toBytes R v)) := by
    apply Audit.stray hdocumented
    rw [hparse, isOk_bind_iff]
    simp [Fails, pure, Except.pure]
  cases v with
  | nil => exact Audit.ok rfl
  | map pairs => exact audit_readMap pairs
  | array items => exact audit_readArray items
  | _ => exact hscalar _ (fun _ h => h) rfl

theorem audit_parseNumsub (v : Value) :
    Audit (parseNumsub R v) (FlatListOf (toBytes R) (toI64 R) v) (StrayFlat v)
      (RefusedFlat (toBytes R) (toI64 R) v) := by
  cases v with
  | nil => exact Audit.ok rfl
  | map pairs => exact audit_readMap pairs
  | array items => exact audit_readFlat items
  | _ => exact Audit.error _

theorem audit_parseFieldValueMap (v : Value) :
    Audit (parseFieldValueMap R v) (FlatListOf (toBytes R) .ok v) (StrayFlat v)
      (RefusedFlat (toBytes R) Except.ok v) := by
  cases v with
  | nil => exact Audit.ok rfl
  | map pairs => exact audit_readMap pairs
  | array items => exact audit_readFlat items
  | _ => exact Audit.error _

theorem audit_parseListOfMaps (v : Value) :
    Audit (parseListOfMaps R v) (MapsOf R v) (StrayMaps v) (RefusedMaps R v) := by
  cases v with
  | nil => exact Audit.ok rfl
  | array items => exact Audit.mapM audit_parseFieldValueMap items
  | _ => exact Audit.error _

section Claimed

variable {middle : Value → Result α} {Of : Value → α → Prop} {Stray Refused : Value → Prop}
variable (h : ∀ v, Audit (middle v) (Of v) (Stray v) (Refused v))

include h

/-- The three elements are decoded from the back; the order does not matter for
what is accounted for. -/
theorem audit_claimed_three {z : Result (String × α × List String)} {cursor claimed deleted : Value}
    (hz : ∀ out, z = .ok out ↔ toText R cursor = .ok out.1 ∧ middle claimed = .ok out.2.1 ∧
      collectStrings R deleted = .ok out.2.2) :
    Audit z (ClaimedOf R Of (.array [cursor, claimed, deleted]))
      (StrayClaimed Stray (.array [cursor, claimed, deleted]))
      (RefusedClaimed R Refused (.array [cursor, claimed, deleted])) := by
  have hinner : Audit (middle claimed >>= fun a => collectStrings R deleted >>= fun b =>
      pure (a, b)) _ _ _ :=
    Audit.prod (h claimed) (audit_collectStrings deleted) fun out => pair_eq_ok_iff
  have haudit := Audit.prod (z := z) (Audit.leaf (toText R cursor)) hinner (by
    intro out
    rw [hz out, pair_eq_ok_iff])
  rwa [false_or] at haudit

theorem audit_claimed_two {z : Result (String × α × List String)} {cursor claimed : Value}
    (hz : ∀ out, z = .ok out ↔ toText R cursor = .ok out.1 ∧ middle claimed = .ok out.2.1 ∧
      out.2.2 = []) :
    Audit z (ClaimedOf R Of (.array [cursor, claimed]))
      (StrayClaimed Stray (.array [cursor, claimed]))
      (RefusedClaimed R Refused (.array [cursor, claimed])) := by
  have hinner : Audit (middle claimed >>= fun a => pure (a, ([] : List String)))
      (fun out => Of claimed out.1 ∧ out.2 = []) (Stray claimed ∨ False)
      (Refused claimed ∨ False) := by
    refine Audit.prod (h claimed) (Audit.ok (D := (· = [])) rfl) fun out => ?_
    exact pair_eq_ok_iff (y := .ok [])
  have haudit := Audit.prod (z := z) (Audit.leaf (toText R cursor)) hinner (by
    intro out
    rw [hz out, bind_eq_ok_iff]
    constructor
    · rintro ⟨hcursor, hclaimed, hnone⟩
      refine ⟨hcursor, out.2.1, hclaimed, ?_⟩
      rw [← hnone]
      rfl
    · rintro ⟨hcursor, a, hclaimed, hpure⟩
      cases hout : out.2 with
      | mk b c =>
          rw [hout] at hpure
          cases hpure
          exact ⟨hcursor, hclaimed, rfl⟩)
  simp only [false_or, or_false] at haudit
  exact haudit

end Claimed

theorem audit_parseAutoclaim (v : Value) :
    Audit (parseAutoclaim R v) (ClaimedOf R (EntriesOf R) v) (StrayClaimed StrayEntries v)
      (RefusedClaimed R (RefusedEntries R) v) := by
  cases v with
  | array items =>
      match items with
      | [cursor, entries, deleted] =>
          apply audit_claimed_three audit_entries
          intro out
          simp only [parseAutoclaim, bind_eq_ok_iff]
          constructor
          · rintro ⟨deleted, hdeleted, entries, hentries, cursor, hcursor, hpure⟩
            cases hpure
            exact ⟨hcursor, hentries, hdeleted⟩
          · rintro ⟨hcursor, hentries, hdeleted⟩
            exact ⟨_, hdeleted, _, hentries, _, hcursor, rfl⟩
      | [cursor, entries] =>
          apply audit_claimed_two audit_entries
          intro out
          simp only [parseAutoclaim, bind_eq_ok_iff]
          constructor
          · rintro ⟨entries, hentries, cursor, hcursor, hpure⟩
            cases hpure
            exact ⟨hcursor, hentries, rfl⟩
          · rintro ⟨hcursor, hentries, hnone⟩
            refine ⟨_, hentries, _, hcursor, ?_⟩
            rw [← hnone]
            rfl
      | [] | [_] | _ :: _ :: _ :: _ :: _ => exact Audit.error _
  | _ => exact Audit.error _

theorem audit_parseAutoclaimJustid (v : Value) :
    Audit (parseAutoclaimJustid R v) (ClaimedOf R (StringsOf R) v) (StrayClaimed StrayScalar v)
      (RefusedClaimed R (RefusedStrings R) v) := by
  cases v with
  | array items =>
      match items with
      | [cursor, ids, deleted] =>
          apply audit_claimed_three audit_collectStrings
          intro out
          simp only [parseAutoclaimJustid, bind_eq_ok_iff]
          constructor
          · rintro ⟨deleted, hdeleted, ids, hids, cursor, hcursor, hpure⟩
            cases hpure
            exact ⟨hcursor, hids, hdeleted⟩
          · rintro ⟨hcursor, hids, hdeleted⟩
            exact ⟨_, hdeleted, _, hids, _, hcursor, rfl⟩
      | [cursor, ids] =>
          apply audit_claimed_two audit_collectStrings
          intro out
          simp only [parseAutoclaimJustid, bind_eq_ok_iff]
          constructor
          · rintro ⟨ids, hids, cursor, hcursor, hpure⟩
            cases hpure
            exact ⟨hcursor, hids, rfl⟩
          · rintro ⟨hcursor, hids, hnone⟩
            refine ⟨_, hids, _, hcursor, ?_⟩
            rw [← hnone]
            rfl
      | [] | [_] | _ :: _ :: _ :: _ :: _ => exact Audit.error _
  | _ => exact Audit.error _

/-- Each decoder returns only results that the reply documents exactly when no
element of the reply is left over and nothing but a list stands for one, or when
the reply is refused for its kind or for an element that is read and does not
convert. -/
theorem pair_decoders_account_iff (R : RedisCrate) (v : Value) :
    (Accounted (collectMemberScores R v) (PairListOf (toBytes R) (toF64 R) v) ↔
      ¬StrayPairList v ∨ RefusedPairList (toBytes R) (toF64 R) v) ∧
    (Accounted (collectPairs R v) (PairListOf (toBytes R) (toBytes R) v) ↔
      ¬StrayHash v ∨ RefusedHash R v) ∧
    (Accounted (parseNumsub R v) (FlatListOf (toBytes R) (toI64 R) v) ↔
      ¬StrayFlat v ∨ RefusedFlat (toBytes R) (toI64 R) v) ∧
    (Accounted (parseFieldValueMap R v) (FlatListOf (toBytes R) .ok v) ↔
      ¬StrayFlat v ∨ RefusedFlat (toBytes R) Except.ok v) ∧
    (Accounted (parseListOfMaps R v) (MapsOf R v) ↔ ¬StrayMaps v ∨ RefusedMaps R v) ∧
    (Accounted (parseAutoclaim R v) (ClaimedOf R (EntriesOf R) v) ↔
      ¬StrayClaimed StrayEntries v ∨ RefusedClaimed R (RefusedEntries R) v) ∧
    (Accounted (parseAutoclaimJustid R v) (ClaimedOf R (StringsOf R) v) ↔
      ¬StrayClaimed StrayScalar v ∨ RefusedClaimed R (RefusedStrings R) v) :=
  ⟨(audit_collectMemberScores v).accounted_iff, (audit_collectPairs v).accounted_iff,
    (audit_parseNumsub v).accounted_iff, (audit_parseFieldValueMap v).accounted_iff,
    (audit_parseListOfMaps v).accounted_iff, (audit_parseAutoclaim v).accounted_iff,
    (audit_parseAutoclaimJustid v).accounted_iff⟩

/-- A channel without its count is not reported, nor is its absence. -/
example : parseNumsub integers (.array [.bulkString (utf8 "c"), .int 2, .bulkString (utf8 "d")]) =
    .ok [(utf8 "c", 2)] := rfl

end GlideRust.Commands.PairReplyAudit

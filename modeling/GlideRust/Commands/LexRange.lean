import GlideRust.Commands.Options
import GlideRust.Lib.OrderedWalk

/-!
# Storing a lexicographical range

`ZRANGESTORE ... BYLEX` copies the members between two bounds. Without `REV` the
first bound is the lower one and the range is taken in ascending order, with
`REV` the first bound is the upper one and the order is descending.

## Implementation notes

Members of one common score are ordered bytewise, so a source is an ascending
list of byte strings. The server walks along it as the documentation says: from
the first member inside the bounds to the last one.
-/

namespace GlideRust.Commands.LexRange

open Redis Options
open Lib Lib.OrderedWalk

/-- `LexBound`. -/
inductive LexBound where
  | negativeInfinity
  | positiveInfinity
  | inclusive (v : Bytes)
  | exclusive (v : Bytes)
  deriving DecidableEq, Repr

/-- `LexBound::to_arg`. -/
def LexBound.toArg : LexBound → Bytes
  | .negativeInfinity => utf8 "-"
  | .positiveInfinity => utf8 "+"
  | .inclusive v => utf8 "[" ++ v
  | .exclusive v => utf8 "(" ++ v

variable {D S : Type} [ToRedisArgs D] [ToRedisArgs S]

/-- `zrangestore_by_lex`. -/
def zrangestoreByLex (destination : D) (source : S) (min max : LexBound) (rev : Bool)
    (limit : Option Limit) : Cmd :=
  let (first, second) := if rev then (max, min) else (min, max)
  let c := (((((Cmd.new.arg "ZRANGESTORE").arg destination).arg source).arg first.toArg).arg
    second.toArg).arg "BYLEX"
  addOption limit (fun limit c => ((c.arg "LIMIT").arg limit.offset).arg limit.count)
    (addFlag rev "REV" c)

/-! ## The server -/

/-- The members of a sorted set with one common score, in their order. -/
structure LexSet where
  members : List Bytes
  ascending : members.Pairwise (· < ·)

namespace LexBound

/-- Whether a member may follow this lower bound. -/
def below : LexBound → Bytes → Bool
  | negativeInfinity, _ => true
  | positiveInfinity, _ => false
  | inclusive v, m => decide (v ≤ m)
  | exclusive v, m => decide (v < m)

/-- Whether a member may precede this upper bound. -/
def above : LexBound → Bytes → Bool
  | negativeInfinity, _ => false
  | positiveInfinity, _ => true
  | inclusive v, m => decide (m ≤ v)
  | exclusive v, m => decide (m < v)

/-- The bound that a token denotes: `-`, `+`, `[v` or `(v`. -/
def read : Bytes → Option LexBound
  | [] => none
  | mark :: v =>
      if mark = 91 then some (inclusive v)
      else if mark = 40 then some (exclusive v)
      else if mark = 45 ∧ v = [] then some negativeInfinity
      else if mark = 43 ∧ v = [] then some positiveInfinity
      else none

end LexBound

/-- A parsed `ZRANGESTORE dst src start stop BYLEX [REV] [LIMIT offset count]`. -/
structure LexQuery where
  destination : Bytes
  source : Bytes
  start : LexBound
  stop : LexBound
  rev : Bool
  limit : Option Limit

def readLimit : List Bytes → Option (Option Limit)
  | [] => some none
  | [keyword, offset, count] =>
      if keyword = utf8 "LIMIT" then do
        let offset ← Decimal.readInt64 offset
        let count ← Decimal.readInt64 count
        return some ⟨offset, count⟩
      else none
  | _ => none

/-- `[REV] [LIMIT offset count]`. -/
def readModifiers (tokens : List Bytes) : Option (Bool × Option Limit) :=
  match tokens with
  | keyword :: rest =>
      if keyword = utf8 "REV" then (readLimit rest).map fun limit => (true, limit)
      else (readLimit (keyword :: rest)).map fun limit => (false, limit)
  | [] => some (false, none)

def readQuery (c : Cmd) : Option LexQuery :=
  match c.args with
  | name :: destination :: source :: start :: stop :: kind :: modifiers =>
      if name = utf8 "ZRANGESTORE" ∧ kind = utf8 "BYLEX" then do
        let start ← LexBound.read start
        let stop ← LexBound.read stop
        let (rev, limit) ← readModifiers modifiers
        return ⟨destination, source, start, stop, rev, limit⟩
      else none
  | _ => none

/-- The `LIMIT` slice of a sequence: a negative count means no end, and no
sequence has a member at a negative offset. -/
def limitSlice (limit : Option Limit) (l : List Bytes) : List Bytes :=
  match limit with
  | none => l
  | some ⟨offset, count⟩ =>
      if offset < 0 then []
      else
        let rest := l.drop offset.toInt.toNat
        if count < 0 then rest else rest.take count.toInt.toNat

/-- The members that a query selects, in the order in which it takes them. -/
def select (query : LexQuery) (source : LexSet) : List Bytes :=
  limitSlice query.limit <|
    if query.rev then walk query.start.above query.stop.below source.members.reverse
    else walk query.start.below query.stop.above source.members

/-- The destination of a command and the members that are stored there. -/
def serve (c : Cmd) (sets : Bytes → LexSet) : Option (Bytes × List Bytes) :=
  (readQuery c).map fun query => (query.destination, select query (sets query.source))

/-! ## Emitted tokens are read back -/

@[simp] theorem LexBound.read_toArg (bound : LexBound) : LexBound.read bound.toArg = some bound := by
  have hmarks : utf8 "-" = [45] ∧ utf8 "+" = [43] ∧ utf8 "[" = [91] ∧ utf8 "(" = [40] := by decide
  obtain ⟨hminus, hplus, hbracket, hparen⟩ := hmarks
  cases bound with
  | negativeInfinity =>
      rw [LexBound.toArg, hminus]
      decide
  | positiveInfinity =>
      rw [LexBound.toArg, hplus]
      decide
  | inclusive v =>
      rw [LexBound.toArg, hbracket, List.singleton_append, LexBound.read, if_pos rfl]
  | exclusive v =>
      have hne : (40 : UInt8) ≠ 91 := by decide
      rw [LexBound.toArg, hparen, List.singleton_append, LexBound.read, if_neg hne, if_pos rfl]

/-- The tokens of a `LIMIT` clause. -/
def limitTokens (limit : Limit) : List Bytes :=
  [utf8 "LIMIT", Decimal.renderInt limit.offset.toInt, Decimal.renderInt limit.count.toInt]

theorem readLimit_tokens (limit : Option Limit) :
    readLimit (limit.elim [] limitTokens) = some limit := by
  cases limit with
  | none => rfl
  | some limit => simp [limitTokens, readLimit]

theorem readModifiers_tokens (rev : Bool) (limit : Option Limit) :
    readModifiers ((if rev then [utf8 "REV"] else []) ++ limit.elim [] limitTokens) =
      some (rev, limit) := by
  cases rev with
  | true =>
      rw [if_pos rfl, List.singleton_append, readModifiers, if_pos rfl, readLimit_tokens,
        Option.map_some]
  | false =>
      rw [if_neg Bool.false_ne_true, List.nil_append]
      cases limit with
      | none => rfl
      | some limit =>
          have hne : utf8 "LIMIT" ≠ utf8 "REV" := by decide
          have hread := readLimit_tokens (some limit)
          simp only [Option.elim_some, limitTokens] at hread ⊢
          simp only [readModifiers, hne, if_false, hread, Option.map_some]

theorem readQuery_zrangestoreByLex {destination : D} {source : S} {dst src : Bytes}
    (hdst : writeRedisArgs destination = [dst]) (hsrc : writeRedisArgs source = [src])
    (min max : LexBound) (rev : Bool) (limit : Option Limit) :
    readQuery (zrangestoreByLex destination source min max rev limit) =
      some ⟨dst, src, if rev then max else min, if rev then min else max, rev, limit⟩ := by
  have hlimit (limit : Limit) (c : Cmd) :
      (((c.arg "LIMIT").arg limit.offset).arg limit.count).args = c.args ++ limitTokens limit := by
    simp [limitTokens]
  have hargs : (zrangestoreByLex destination source min max rev limit).args =
      utf8 "ZRANGESTORE" :: dst :: src :: (if rev then max else min).toArg ::
        (if rev then min else max).toArg :: utf8 "BYLEX" ::
          ((if rev then [utf8 "REV"] else []) ++ limit.elim [] limitTokens) := by
    rw [zrangestoreByLex, args_addOption hlimit]
    cases rev <;> simp [hdst, hsrc]
  simp only [readQuery, hargs, readModifiers_tokens, LexBound.read_toArg, and_self, if_true]
  rfl

/-! ## The walk in either direction -/

namespace LexBound

theorem below_of_lt (bound : LexBound) (a b : Bytes) (hab : a < b) (ha : bound.below a = true) :
    bound.below b = true := by
  cases bound with
  | negativeInfinity => rfl
  | positiveInfinity => exact ha
  | inclusive v =>
      rw [below, decide_eq_true_eq] at ha ⊢
      apply List.le_of_lt
      exact List.lt_of_le_of_lt ha hab
  | exclusive v =>
      rw [below, decide_eq_true_eq] at ha ⊢
      exact List.lt_trans ha hab

theorem above_of_lt (bound : LexBound) (a b : Bytes) (hab : a < b) (hb : bound.above b = true) :
    bound.above a = true := by
  cases bound with
  | negativeInfinity => exact hb
  | positiveInfinity => rfl
  | inclusive v =>
      rw [above, decide_eq_true_eq] at hb ⊢
      exact List.le_trans (List.le_of_lt hab) hb
  | exclusive v =>
      rw [above, decide_eq_true_eq] at hb ⊢
      exact List.lt_trans hab hb

end LexBound

/-- The members between two bounds, in ascending order. -/
def LexSet.between (set : LexSet) (min max : LexBound) : List Bytes :=
  set.members.filter fun m => min.below m && max.above m

theorem LexSet.walk_ascending (set : LexSet) (min max : LexBound) :
    walk min.below max.above set.members = set.between min max :=
  walk_eq_filter min.below_of_lt max.above_of_lt set.ascending

/-- From the upper bound downwards the same members are met, the last one first. -/
theorem LexSet.walk_descending (set : LexSet) (min max : LexBound) :
    walk max.above min.below set.members.reverse = (set.between min max).reverse := by
  have hdescending : set.members.reverse.Pairwise fun a b => b < a :=
    List.pairwise_reverse.mpr set.ascending
  have hwalk : walk max.above min.below set.members.reverse =
      set.members.reverse.filter fun m => max.above m && min.below m := by
    apply walk_eq_filter (r := fun a b => b < a) _ _ hdescending
    · intro a b hba ha
      exact max.above_of_lt b a hba ha
    · intro a b hba hb
      exact min.below_of_lt b a hba hb
  rw [hwalk, List.filter_reverse, between]
  simp only [Bool.and_comm]

theorem serve_zrangestoreByLex {destination : D} {source : S} {dst src : Bytes}
    (hdst : writeRedisArgs destination = [dst]) (hsrc : writeRedisArgs source = [src])
    (min max : LexBound) (rev : Bool) (limit : Option Limit) (sets : Bytes → LexSet) :
    serve (zrangestoreByLex destination source min max rev limit) sets =
      some (dst, limitSlice limit
        (if rev then ((sets src).between min max).reverse else (sets src).between min max)) := by
  rw [serve, readQuery_zrangestoreByLex hdst hsrc, Option.map_some, select]
  cases rev with
  | false => simp only [Bool.false_eq_true, if_false, LexSet.walk_ascending]
  | true => simp only [if_true, LexSet.walk_descending]

/-- Whatever bytes the bounds hold, the server selects the members between `min`
and `max` in the direction asked for and takes the `LIMIT` slice of them. Without
a limit both directions store the same members. -/
theorem zrangestore_by_lex_selects_interval {destination : D} {source : S} {dst src : Bytes}
    (hdst : writeRedisArgs destination = [dst]) (hsrc : writeRedisArgs source = [src])
    (min max : LexBound) (sets : Bytes → LexSet) :
    (∀ (rev : Bool) (limit : Option Limit),
      serve (zrangestoreByLex destination source min max rev limit) sets =
        some (dst, limitSlice limit
          (if rev then ((sets src).between min max).reverse else (sets src).between min max))) ∧
    (∀ m : Bytes, m ∈ (sets src).between min max ↔
      m ∈ (sets src).members ∧ min.below m = true ∧ max.above m = true) ∧
    (∀ rev : Bool, ∃ stored : List Bytes,
      serve (zrangestoreByLex destination source min max rev none) sets = some (dst, stored) ∧
      ∀ m : Bytes, m ∈ stored ↔ m ∈ (sets src).between min max) := by
  refine ⟨?_, ?_, ?_⟩
  · intro rev limit
    exact serve_zrangestoreByLex hdst hsrc min max rev limit sets
  · intro m
    rw [LexSet.between, List.mem_filter, Bool.and_eq_true]
  · intro rev
    refine ⟨_, serve_zrangestoreByLex hdst hsrc min max rev none sets, ?_⟩
    intro m
    cases rev with
    | false => rfl
    | true => exact List.mem_reverse

/-- Four members, two of which start with a byte that also marks a bound. -/
def markedSet : LexSet where
  members := [utf8 "(", utf8 "[b", utf8 "a", utf8 "b"]
  ascending := by decide

theorem zrangestore_by_lex_selects_interval_marked :
    serve (zrangestoreByLex "dst" "src" (.exclusive (utf8 "(")) (.inclusive (utf8 "a")) true
        (some ⟨0, 1⟩)) (fun _ => markedSet) = some (utf8 "dst", [utf8 "a"]) ∧
      markedSet.between (.exclusive (utf8 "(")) (.inclusive (utf8 "a")) =
        [utf8 "[b", utf8 "a"] := by
  constructor
  · have hdst : writeRedisArgs "dst" = [utf8 "dst"] := rfl
    have hsrc : writeRedisArgs "src" = [utf8 "src"] := rfl
    rw [(zrangestore_by_lex_selects_interval hdst hsrc (.exclusive (utf8 "("))
      (.inclusive (utf8 "a")) fun _ => markedSet).1 true (some ⟨0, 1⟩)]
    decide
  · decide

end GlideRust.Commands.LexRange

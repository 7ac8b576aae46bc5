import GlideRust.Commands.LexRange
import Mathlib.Order.BoundedOrder.Basic
import Mathlib.Order.Fin.Basic

/-!
# Storing a range of scores

`ZRANGESTORE ... BYSCORE` copies the members whose scores lie between two bounds.
The client sends a bound as the text of its `f64`; the server reads the text back
as a number, refuses it if it is none, and walks along the set in the order of
scores, or against it with `REV`.

## Implementation notes

Scores are an arbitrary bounded linear order. How `f64` values are written and
how the server reads numbers is not part of the repository: `ScoreTexts` names
both, and what the client relies on about them.
-/

namespace GlideRust.Commands.ScoreRange

open Redis Options LexRange
open Lib Lib.OrderedWalk

/-- `ScoreBound`. -/
inductive ScoreBound where
  | negativeInfinity
  | positiveInfinity
  | inclusive (v : F64)
  | exclusive (v : F64)
  deriving DecidableEq, Repr

/-- `ScoreBound::to_arg`. -/
def ScoreBound.toArg (R : RedisCrate) : ScoreBound → String
  | .negativeInfinity => "-inf"
  | .positiveInfinity => "+inf"
  | .inclusive v => R.displayF64 v
  | .exclusive v => "(" ++ R.displayF64 v

section Commands

variable {D S : Type} [ToRedisArgs D] [ToRedisArgs S]

/-- `zrangestore_by_score`. -/
def zrangestoreByScore (R : RedisCrate) (destination : D) (source : S) (min max : ScoreBound)
    (rev : Bool) (limit : Option Limit) : Cmd :=
  let (first, second) := if rev then (max, min) else (min, max)
  let c := (((((Cmd.new.arg "ZRANGESTORE").arg destination).arg source).arg (first.toArg R)).arg
    (second.toArg R)).arg "BYSCORE"
  addOption limit (fun limit c => ((c.arg "LIMIT").arg limit.offset).arg limit.count)
    (addFlag rev "REV" c)

end Commands

/-! ## The server -/

variable {σ : Type} [LinearOrder σ]

/-- The members of a sorted set with their scores, in the order of the set: by
score, and bytewise among equal scores. -/
structure ScoredSet (σ : Type) [LinearOrder σ] where
  entries : List (σ × Bytes)
  ascending : entries.Pairwise fun a b => a.1 < b.1 ∨ a.1 = b.1 ∧ a.2 < b.2

/-- A bound as the server understands it. -/
inductive Bound (σ : Type) where
  | inclusive (s : σ)
  | exclusive (s : σ)
  deriving DecidableEq

namespace Bound

/-- Whether a score may follow this lower bound. -/
def below : Bound σ → σ → Bool
  | inclusive v, s => decide (v ≤ s)
  | exclusive v, s => decide (v < s)

/-- Whether a score may precede this upper bound. -/
def above : Bound σ → σ → Bool
  | inclusive v, s => decide (s ≤ v)
  | exclusive v, s => decide (s < v)

/-- A token that starts with `(` is an exclusive bound, any other an inclusive one. -/
def read (number : Bytes → Option σ) : Bytes → Option (Bound σ)
  | 40 :: text => (number text).map exclusive
  | text => (number text).map inclusive

theorem below_of_le (bound : Bound σ) {a b : σ} (hab : a ≤ b) (ha : bound.below a = true) :
    bound.below b = true := by
  cases bound with
  | inclusive v =>
      rw [below, decide_eq_true_eq] at ha ⊢
      exact ha.trans hab
  | exclusive v =>
      rw [below, decide_eq_true_eq] at ha ⊢
      exact ha.trans_le hab

theorem above_of_le (bound : Bound σ) {a b : σ} (hab : a ≤ b) (hb : bound.above b = true) :
    bound.above a = true := by
  cases bound with
  | inclusive v =>
      rw [above, decide_eq_true_eq] at hb ⊢
      exact hab.trans hb
  | exclusive v =>
      rw [above, decide_eq_true_eq] at hb ⊢
      exact hab.trans_lt hb

end Bound

/-- A parsed `ZRANGESTORE dst src start stop BYSCORE [REV] [LIMIT offset count]`. -/
structure ScoreQuery (σ : Type) where
  destination : Bytes
  source : Bytes
  start : Bound σ
  stop : Bound σ
  rev : Bool
  limit : Option Limit

def readQuery (number : Bytes → Option σ) (c : Cmd) : Option (ScoreQuery σ) :=
  match c.args with
  | name :: destination :: source :: start :: stop :: kind :: modifiers =>
      if name = utf8 "ZRANGESTORE" ∧ kind = utf8 "BYSCORE" then do
        let start ← Bound.read number start
        let stop ← Bound.read number stop
        let (rev, limit) ← readModifiers modifiers
        return ⟨destination, source, start, stop, rev, limit⟩
      else none
  | _ => none

/-- The members that a query selects, in the order in which it takes them. -/
def select (query : ScoreQuery σ) (source : ScoredSet σ) : List Bytes :=
  limitSlice query.limit <| List.map Prod.snd <|
    if query.rev then
      walk (fun e => query.start.above e.1) (fun e => query.stop.below e.1) source.entries.reverse
    else walk (fun e => query.start.below e.1) (fun e => query.stop.above e.1) source.entries

/-- The destination of a command and the members that are stored there; a command
with a bound that is no number is refused. -/
def serve (number : Bytes → Option σ) (c : Cmd) (sets : Bytes → ScoredSet σ) :
    Option (Bytes × List Bytes) :=
  (readQuery number c).map fun query => (query.destination, select query (sets query.source))

/-! ## The walk in either direction -/

/-- The members between two bounds, in ascending order. -/
def ScoredSet.between (set : ScoredSet σ) (lower upper : Bound σ) : List Bytes :=
  (set.entries.filter fun e => lower.below e.1 && upper.above e.1).map Prod.snd

/-- Scores do not fall along the set. -/
theorem ScoredSet.scores (set : ScoredSet σ) : set.entries.Pairwise fun a b => a.1 ≤ b.1 := by
  refine set.ascending.imp ?_
  rintro a b (hlt | ⟨heq, -⟩)
  · exact hlt.le
  · exact heq.le

theorem ScoredSet.walk_ascending (set : ScoredSet σ) (lower upper : Bound σ) :
    (walk (fun e => lower.below e.1) (fun e => upper.above e.1) set.entries).map Prod.snd =
      set.between lower upper := by
  rw [ScoredSet.between]
  congr 1
  apply walk_eq_filter _ _ set.scores
  · intro a b hab ha
    exact lower.below_of_le hab ha
  · intro a b hab hb
    exact upper.above_of_le hab hb

theorem ScoredSet.walk_descending (set : ScoredSet σ) (lower upper : Bound σ) :
    (walk (fun e => upper.above e.1) (fun e => lower.below e.1) set.entries.reverse).map Prod.snd =
      (set.between lower upper).reverse := by
  have hdescending : set.entries.reverse.Pairwise fun a b => b.1 ≤ a.1 :=
    List.pairwise_reverse.mpr set.scores
  have hwalk : walk (fun e => upper.above e.1) (fun e => lower.below e.1) set.entries.reverse =
      set.entries.reverse.filter fun e => upper.above e.1 && lower.below e.1 := by
    apply walk_eq_filter _ _ hdescending
    · intro a b hba ha
      exact upper.above_of_le hba ha
    · intro a b hba hb
      exact lower.below_of_le hba hb
  rw [hwalk, List.filter_reverse, List.map_reverse, ScoredSet.between]
  simp only [Bool.and_comm]

/-! ## The bounds that arrive -/

variable [BoundedOrder σ]

/-- What is relied on about number texts. `value` is the score that an `f64`
denotes, nothing for one that is not a number, and `number` is how the server
reads a score. -/
structure ScoreTexts (R : RedisCrate) (value : F64 → Option σ) (number : Bytes → Option σ) :
    Prop where
  displayed : ∀ v, number (utf8 (R.displayF64 v)) = value v
  unbracketed : ∀ v, (utf8 (R.displayF64 v)).head? ≠ some 40
  negInf : number (utf8 "-inf") = some ⊥
  posInf : number (utf8 "+inf") = some ⊤

/-- The bound that is meant, unless it is not a number. -/
def ScoreBound.meaning (value : F64 → Option σ) : ScoreBound → Option (Bound σ)
  | .negativeInfinity => some (.inclusive ⊥)
  | .positiveInfinity => some (.inclusive ⊤)
  | .inclusive v => (value v).map .inclusive
  | .exclusive v => (value v).map .exclusive

omit [LinearOrder σ] [BoundedOrder σ] in
theorem Bound.read_of_head {number : Bytes → Option σ} {text : Bytes} (h : text.head? ≠ some 40) :
    Bound.read number text = (number text).map .inclusive := by
  unfold Bound.read
  split
  · exact absurd rfl h
  · rfl

theorem Bound.read_toArg {R : RedisCrate} {value : F64 → Option σ} {number : Bytes → Option σ}
    (htexts : ScoreTexts R value number) (bound : ScoreBound) :
    Bound.read number (utf8 (bound.toArg R)) = bound.meaning value := by
  have hparen : utf8 "(" = [40] := by decide
  cases bound with
  | negativeInfinity =>
      have hhead : (utf8 "-inf").head? ≠ some 40 := by decide
      rw [ScoreBound.toArg, Bound.read_of_head hhead, htexts.negInf]
      rfl
  | positiveInfinity =>
      have hhead : (utf8 "+inf").head? ≠ some 40 := by decide
      rw [ScoreBound.toArg, Bound.read_of_head hhead, htexts.posInf]
      rfl
  | inclusive v =>
      rw [ScoreBound.toArg, Bound.read_of_head (htexts.unbracketed v), htexts.displayed,
        ScoreBound.meaning]
  | exclusive v =>
      rw [ScoreBound.toArg, utf8_append, hparen, List.singleton_append, Bound.read,
        htexts.displayed, ScoreBound.meaning]

section Served

variable {D S : Type} [ToRedisArgs D] [ToRedisArgs S] {destination : D} {source : S}
variable {dst src : Bytes} {R : RedisCrate} {value : F64 → Option σ} {number : Bytes → Option σ}
variable (hdst : writeRedisArgs destination = [dst]) (hsrc : writeRedisArgs source = [src])
variable (htexts : ScoreTexts R value number)
include hdst hsrc htexts

theorem readQuery_zrangestoreByScore (min max : ScoreBound) (rev : Bool) (limit : Option Limit) :
    readQuery number (zrangestoreByScore R destination source min max rev limit) = (do
      let start ← (if rev then max else min).meaning value
      let stop ← (if rev then min else max).meaning value
      return ⟨dst, src, start, stop, rev, limit⟩) := by
  have hlimit (limit : Limit) (c : Cmd) :
      (((c.arg "LIMIT").arg limit.offset).arg limit.count).args = c.args ++ limitTokens limit := by
    simp [limitTokens]
  have hargs : (zrangestoreByScore R destination source min max rev limit).args =
      utf8 "ZRANGESTORE" :: dst :: src :: utf8 ((if rev then max else min).toArg R) ::
        utf8 ((if rev then min else max).toArg R) :: utf8 "BYSCORE" ::
          ((if rev then [utf8 "REV"] else []) ++ limit.elim [] limitTokens) := by
    rw [zrangestoreByScore, args_addOption hlimit]
    cases rev <;> simp [hdst, hsrc]
  simp only [readQuery, hargs, readModifiers_tokens, Bound.read_toArg htexts, and_self, if_true]
  rfl

theorem serve_zrangestoreByScore {min max : ScoreBound} {lower upper : Bound σ}
    (hmin : min.meaning value = some lower) (hmax : max.meaning value = some upper) (rev : Bool)
    (limit : Option Limit) (sets : Bytes → ScoredSet σ) :
    serve number (zrangestoreByScore R destination source min max rev limit) sets =
      some (dst, limitSlice limit (if rev then ((sets src).between lower upper).reverse
        else (sets src).between lower upper)) := by
  rw [serve, readQuery_zrangestoreByScore hdst hsrc htexts]
  cases rev with
  | false =>
      simp only [Bool.false_eq_true, if_false, hmin, hmax]
      simp only [Option.bind_eq_bind, Option.bind_some, Option.pure_def, Option.map_some, select,
        Bool.false_eq_true, if_false, ScoredSet.walk_ascending]
  | true =>
      simp only [if_true, hmin, hmax]
      simp only [Option.bind_eq_bind, Option.bind_some, Option.pure_def, Option.map_some, select,
        if_true, ScoredSet.walk_descending]

/-- If both bounds are numbers or infinities, the server selects the members whose
score lies between `min` and `max`, inclusively or exclusively as the bounds say,
in the direction asked for, and takes the `LIMIT` slice of them; without a limit
both directions store the same members. If a bound is not a number, the command is
refused in either direction. -/
theorem zrangestore_by_score_selects_interval (min max : ScoreBound) (sets : Bytes → ScoredSet σ) :
    (∀ lower upper, min.meaning value = some lower → max.meaning value = some upper →
      (∀ rev limit, serve number (zrangestoreByScore R destination source min max rev limit) sets =
        some (dst, limitSlice limit (if rev then ((sets src).between lower upper).reverse
          else (sets src).between lower upper))) ∧
      (∀ m, m ∈ (sets src).between lower upper ↔ ∃ score, (score, m) ∈ (sets src).entries ∧
        lower.below score = true ∧ upper.above score = true) ∧
      (∀ rev, ∃ stored,
        serve number (zrangestoreByScore R destination source min max rev none) sets =
          some (dst, stored) ∧ ∀ m, m ∈ stored ↔ m ∈ (sets src).between lower upper)) ∧
    (∀ rev limit, serve number (zrangestoreByScore R destination source min max rev limit) sets =
        none ↔ min.meaning value = none ∨ max.meaning value = none) ∧
    (∀ bound : ScoreBound, bound.meaning value = none ↔
      ∃ v, (bound = .inclusive v ∨ bound = .exclusive v) ∧ value v = none) := by
  refine ⟨?_, ?_, ?_⟩
  · intro lower upper hmin hmax
    refine ⟨?_, ?_, ?_⟩
    · intro rev limit
      exact serve_zrangestoreByScore hdst hsrc htexts hmin hmax rev limit sets
    · intro m
      simp only [ScoredSet.between, List.mem_map, List.mem_filter, Bool.and_eq_true]
      constructor
      · rintro ⟨⟨score, m'⟩, ⟨hmem, hbetween⟩, rfl⟩
        exact ⟨score, hmem, hbetween⟩
      · rintro ⟨score, hmem, hbetween⟩
        exact ⟨(score, m), ⟨hmem, hbetween⟩, rfl⟩
    · intro rev
      refine ⟨_, serve_zrangestoreByScore hdst hsrc htexts hmin hmax rev none sets, ?_⟩
      intro m
      cases rev with
      | false => rfl
      | true => exact List.mem_reverse
  · intro rev limit
    rw [serve, Option.map_eq_none_iff, readQuery_zrangestoreByScore hdst hsrc htexts]
    cases rev with
    | false =>
        cases hmin : min.meaning value <;> cases hmax : max.meaning value <;> simp [hmin, hmax]
    | true =>
        cases hmin : min.meaning value <;> cases hmax : max.meaning value <;> simp [hmin, hmax]
  · intro bound
    cases bound <;> simp [ScoreBound.meaning]

end Served

/-! ## Three members -/

/-- The value `1.0`. -/
def one : F64 := ⟨0x3ff0000000000000⟩

/-- A crate that writes `1.0` as the real one does, and nothing else as a number. -/
def onlyOne : RedisCrate :=
  { RedisCrate.stringsOnly with displayF64 := fun v => if v = one then "1" else "NaN" }

/-- The scores `-inf`, `1` and `+inf`. -/
def scoreOf (v : F64) : Option (Fin 3) := if v = one then some 1 else none

def numberOf (text : Bytes) : Option (Fin 3) :=
  if text = utf8 "1" then some 1
  else if text = utf8 "-inf" then some 0
  else if text = utf8 "+inf" then some 2
  else none

theorem scoreTexts_onlyOne : ScoreTexts onlyOne scoreOf numberOf where
  displayed v := by
    by_cases hv : v = one
    · simp only [onlyOne, scoreOf, hv, if_true]
      rfl
    · simp only [onlyOne, scoreOf, hv, if_false]
      decide
  unbracketed v := by
    by_cases hv : v = one
    · simp only [onlyOne, hv, if_true]
      decide
    · simp only [onlyOne, hv, if_false]
      decide
  negInf := by decide
  posInf := by decide

def threeMembers : ScoredSet (Fin 3) where
  entries := [(1, utf8 "a"), (1, utf8 "b"), (2, utf8 "c")]
  ascending := by decide

theorem zrangestore_by_score_selects_interval_one :
    serve numberOf (zrangestoreByScore onlyOne "dst" "src" (.inclusive one) .positiveInfinity true
        (some ⟨1, -1⟩)) (fun _ => threeMembers) = some (utf8 "dst", [utf8 "b", utf8 "a"]) ∧
      serve numberOf (zrangestoreByScore onlyOne "dst" "src" .negativeInfinity
        (.exclusive ⟨0x7ff8000000000000⟩) false none) (fun _ => threeMembers) = none := by
  have hdst : writeRedisArgs "dst" = [utf8 "dst"] := rfl
  have hsrc : writeRedisArgs "src" = [utf8 "src"] := rfl
  constructor
  · rw [((zrangestore_by_score_selects_interval hdst hsrc scoreTexts_onlyOne (.inclusive one)
      .positiveInfinity fun _ => threeMembers).1 (.inclusive 1) (.inclusive 2) rfl rfl).1]
    decide
  · rw [(zrangestore_by_score_selects_interval hdst hsrc scoreTexts_onlyOne .negativeInfinity
      (.exclusive ⟨0x7ff8000000000000⟩) fun _ => threeMembers).2.1]
    exact Or.inr rfl

end GlideRust.Commands.ScoreRange

import Mathlib.Data.List.Basic
import Mathlib.Tactic.Common

/-!
# Last write wins

A record is built by a sequence of calls. A field that each call either
overwrites or leaves alone ends with the value of the last call that gave it
one; a field that calls append to ends with everything appended, in order.
-/

namespace GlideRust.Lib.LastWrite

variable {σ ι β γ : Type*}

/-- What the last call that gives a value gives. -/
def lastGiven (pick : ι → Option β) (calls : List ι) : Option β :=
  (calls.filterMap pick).getLast?

variable {pick : ι → Option β}

@[simp] theorem lastGiven_nil : lastGiven pick [] = none := rfl

theorem lastGiven_cons_none {call : ι} (h : pick call = none) (calls : List ι) :
    lastGiven pick (call :: calls) = lastGiven pick calls := by
  simp [lastGiven, h]

theorem lastGiven_cons_some {call : ι} {b : β} (h : pick call = some b) (calls : List ι) :
    lastGiven pick (call :: calls) = some ((lastGiven pick calls).getD b) := by
  simp [lastGiven, h, List.getLast?_cons]

/-- The value of an overwritten field after any calls. -/
theorem get_foldl {apply : σ → ι → σ} {get : σ → γ} {set : β → γ}
    (h : ∀ s call, get (apply s call) = ((pick call).map set).getD (get s)) (calls : List ι)
    (s : σ) : get (calls.foldl apply s) = ((lastGiven pick calls).map set).getD (get s) := by
  induction calls generalizing s with
  | nil => rfl
  | cons call calls ih =>
      rw [List.foldl_cons, ih, h]
      cases hp : pick call with
      | none => rw [lastGiven_cons_none hp]; rfl
      | some b =>
          rw [lastGiven_cons_some hp]
          cases lastGiven pick calls with
          | none => rfl
          | some last => rfl

/-- The value of an appended field after any calls. -/
theorem append_foldl {apply : σ → ι → σ} {get : σ → List β}
    (h : ∀ s call, get (apply s call) = get s ++ (pick call).toList) (calls : List ι) (s : σ) :
    get (calls.foldl apply s) = get s ++ calls.filterMap pick := by
  induction calls generalizing s with
  | nil => simp
  | cons call calls ih =>
      rw [List.foldl_cons, ih, h, List.append_assoc]
      cases hp : pick call with
      | none => simp [hp]
      | some b => simp [hp]

/-- Neighbouring calls of which at most one gives a value may be exchanged. -/
theorem filterMap_swap {x y : ι} (h : pick x = none ∨ pick y = none) (before after : List ι) :
    (before ++ x :: y :: after).filterMap pick = (before ++ y :: x :: after).filterMap pick := by
  obtain h | h := h
  · simp [List.filterMap_append, List.filterMap_cons, h]
  · simp [List.filterMap_append, List.filterMap_cons, h]

theorem lastGiven_swap {x y : ι} (h : pick x = none ∨ pick y = none) (before after : List ι) :
    lastGiven pick (before ++ x :: y :: after) = lastGiven pick (before ++ y :: x :: after) := by
  rw [lastGiven, filterMap_swap h, lastGiven]

theorem filterMap_skip {x : ι} (h : pick x = none) (before after : List ι) :
    (before ++ x :: after).filterMap pick = (before ++ after).filterMap pick := by
  simp [List.filterMap_append, h]

theorem lastGiven_append (calls later : List ι) :
    lastGiven pick (calls ++ later) = (lastGiven pick later).or (lastGiven pick calls) := by
  simp [lastGiven, List.getLast?_append]

/-- A call is without effect when a later one gives a value too. -/
theorem lastGiven_overwritten {x y : ι} (h : pick x = none ∨ (pick y).isSome)
    (before between after : List ι) :
    lastGiven pick (before ++ x :: (between ++ y :: after)) =
      lastGiven pick (before ++ (between ++ y :: after)) := by
  obtain h | h := h
  · rw [lastGiven_append, lastGiven_cons_none h, ← lastGiven_append]
  · obtain ⟨b, hb⟩ := Option.isSome_iff_exists.mp h
    have hlater : lastGiven pick (between ++ y :: after) =
        some ((lastGiven pick after).getD b) := by
      rw [lastGiven_append, lastGiven_cons_some hb, Option.some_or]
    have hfrom : lastGiven pick (x :: (between ++ y :: after)) =
        some ((lastGiven pick after).getD b) := by
      rw [← List.singleton_append, lastGiven_append, hlater, Option.some_or]
    rw [lastGiven_append, hfrom, lastGiven_append, hlater, Option.some_or]

end GlideRust.Lib.LastWrite

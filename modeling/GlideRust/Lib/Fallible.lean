import Mathlib.Data.List.Forall2
import Mathlib.Tactic.Common

/-!
# Computations that may fail

When a sequence of fallible steps succeeds, and with what result. A step that is
followed by others is peeled off with `bind_eq_ok_iff`; a traversal succeeds
exactly when it succeeds on every element.
-/

namespace GlideRust.Lib.Fallible

universe u

variable {α β : Type u} {ε : Type*}

theorem bind_eq_ok_iff {x : Except ε α} {f : α → Except ε β} {b : β} :
    (x >>= f) = .ok b ↔ ∃ a, x = .ok a ∧ f a = .ok b := by
  cases x with
  | error err =>
      constructor
      · intro h
        cases h
      · rintro ⟨a, h, -⟩
        cases h
  | ok a =>
      constructor
      · intro h
        exact ⟨a, rfl, h⟩
      · rintro ⟨a', h, hf⟩
        cases h
        exact hf

/-- A step that fails fails the whole. -/
theorem isOk_bind_iff {x : Except ε α} {f : α → Except ε β} :
    (∃ b, (x >>= f) = .ok b) ↔ ∃ a, x = .ok a ∧ ∃ b, f a = .ok b := by
  simp only [bind_eq_ok_iff]
  constructor
  · rintro ⟨b, a, hx, hf⟩
    exact ⟨a, hx, b, hf⟩
  · rintro ⟨a, hx, b, hf⟩
    exact ⟨b, a, hx, hf⟩

/-- Two independent steps whose results are paired, in either order. -/
theorem pair_eq_ok_iff {x : Except ε α} {y : Except ε β} {out : α × β} :
    (x >>= fun a => y >>= fun b => pure (a, b)) = .ok out ↔ x = .ok out.1 ∧ y = .ok out.2 := by
  simp only [bind_eq_ok_iff]
  constructor
  · rintro ⟨a, ha, b, hb, hpure⟩
    cases hpure
    exact ⟨ha, hb⟩
  · rintro ⟨ha, hb⟩
    exact ⟨out.1, ha, out.2, hb, rfl⟩

theorem pair_swap_eq_ok_iff {x : Except ε α} {y : Except ε β} {out : α × β} :
    (y >>= fun b => x >>= fun a => pure (a, b)) = .ok out ↔ x = .ok out.1 ∧ y = .ok out.2 := by
  simp only [bind_eq_ok_iff]
  constructor
  · rintro ⟨b, hb, a, ha, hpure⟩
    cases hpure
    exact ⟨ha, hb⟩
  · rintro ⟨ha, hb⟩
    exact ⟨out.2, hb, out.1, ha, rfl⟩

/-- A traversal succeeds with the list of the elements' results. -/
theorem mapM_eq_ok_iff {f : α → Except ε β} {xs : List α} {ys : List β} :
    xs.mapM f = .ok ys ↔ List.Forall₂ (fun x y => f x = .ok y) xs ys := by
  induction xs generalizing ys with
  | nil =>
      rw [List.forall₂_nil_left_iff, List.mapM_nil]
      constructor
      · intro h
        cases h
        rfl
      · rintro rfl
        rfl
  | cons x xs ih =>
      rw [List.mapM_cons, bind_eq_ok_iff, List.forall₂_cons_left_iff]
      constructor
      · rintro ⟨y, hy, hrest⟩
        obtain ⟨zs, hzs, hys⟩ := bind_eq_ok_iff.mp hrest
        cases hys
        exact ⟨y, zs, hy, ih.mp hzs, rfl⟩
      · rintro ⟨y, zs, hy, hzs, rfl⟩
        exact ⟨y, hy, bind_eq_ok_iff.mpr ⟨zs, ih.mpr hzs, rfl⟩⟩

/-- A traversal succeeds exactly when no element fails. -/
theorem isOk_mapM_iff {f : α → Except ε β} {xs : List α} :
    (∃ ys, xs.mapM f = .ok ys) ↔ ∀ x ∈ xs, ∃ y, f x = .ok y := by
  induction xs with
  | nil => simp [pure, Except.pure]
  | cons x xs ih =>
      rw [List.mapM_cons, isOk_bind_iff, List.forall_mem_cons, ← ih]
      constructor
      · rintro ⟨y, hy, zs, hzs⟩
        obtain ⟨ys, hys, -⟩ := bind_eq_ok_iff.mp hzs
        exact ⟨⟨y, hy⟩, ys, hys⟩
      · rintro ⟨⟨y, hy⟩, ys, hys⟩
        exact ⟨y, hy, y :: ys, bind_eq_ok_iff.mpr ⟨ys, hys, rfl⟩⟩

end GlideRust.Lib.Fallible

import Mathlib.Data.List.Basic
import Mathlib.Data.List.TakeWhile
import Mathlib.Tactic.Common

/-!
# Range queries by walking along an ordered list

A range query skips the elements before the range and takes elements until one
lies behind it. On an ordered list, in either direction, this selects exactly
the elements of the range.
-/

namespace GlideRust.Lib.OrderedWalk

variable {α : Type*}

/-- Skip to the first element that is `inside`, and go on while `notPast`. -/
def walk (inside notPast : α → Bool) (l : List α) : List α :=
  (l.dropWhile fun a => !inside a).takeWhile notPast

section Selection

variable {r : α → α → Prop} {inside notPast : α → Bool}
variable (hinside : ∀ a b, r a b → inside a = true → inside b = true)
variable (hpast : ∀ a b, r a b → notPast b = true → notPast a = true)

include hpast in
/-- Once an element lies behind the range, so do all later ones. -/
theorem takeWhile_eq_filter {l : List α} (hl : l.Pairwise r) :
    l.takeWhile notPast = l.filter notPast := by
  induction l with
  | nil => rfl
  | cons a l ih =>
      rw [List.pairwise_cons] at hl
      cases ha : notPast a with
      | true => rw [List.takeWhile_cons_of_pos ha, List.filter_cons_of_pos ha, ih hl.2]
      | false =>
          have hnone : l.filter notPast = [] := by
            rw [List.filter_eq_nil_iff]
            intro b hb hpb
            rw [hpast a b (hl.1 b hb) hpb] at ha
            cases ha
          rw [List.takeWhile_cons_of_neg (by simp [ha]), List.filter_cons_of_neg (by simp [ha]),
            hnone]

include hinside hpast in
/-- The walk selects the elements inside and not past the range, in list order. -/
theorem walk_eq_filter {l : List α} (hl : l.Pairwise r) :
    walk inside notPast l = l.filter fun a => inside a && notPast a := by
  induction l with
  | nil => rfl
  | cons a l ih =>
      have htail := (List.pairwise_cons.mp hl).2
      cases ha : inside a with
      | false =>
          rw [walk, List.dropWhile_cons_of_pos (by simp [ha]), ← walk, ih htail,
            List.filter_cons_of_neg (by simp [ha])]
      | true =>
          have hall : ∀ b ∈ a :: l, inside b = true := by
            rw [List.forall_mem_cons]
            exact ⟨ha, fun b hb => hinside a b ((List.pairwise_cons.mp hl).1 b hb) ha⟩
          rw [walk, List.dropWhile_cons_of_neg (by simp [ha]), takeWhile_eq_filter hpast hl]
          apply List.filter_congr
          intro b hb
          simp [hall b hb]

end Selection

end GlideRust.Lib.OrderedWalk

import Mathlib.Data.List.Basic
import Mathlib.Tactic.Common

/-!
# Lists of pairs, flat and paired

A list of pairs is often transmitted as one flat list. Pairing takes the
elements two at a time and drops an odd one at the end; it undoes flattening.
Fallible traversals of such lists succeed when every element does.
-/

namespace GlideRust.Lib.PairList

variable {α β ε : Type*}

/-- Take the elements two at a time; an odd last element is dropped. -/
def pairUp : List α → List (α × α)
  | a :: b :: rest => (a, b) :: pairUp rest
  | _ => []

/-- The two components of every pair, one after the other. -/
def flatten (pairs : List (α × α)) : List α := pairs.flatMap fun p => [p.1, p.2]

@[simp] theorem flatten_nil : flatten ([] : List (α × α)) = [] := rfl

@[simp] theorem flatten_cons (p : α × α) (pairs : List (α × α)) :
    flatten (p :: pairs) = p.1 :: p.2 :: flatten pairs := rfl

@[simp] theorem pairUp_flatten (pairs : List (α × α)) : pairUp (flatten pairs) = pairs := by
  induction pairs with
  | nil => rfl
  | cons p pairs ih => rw [flatten_cons, pairUp, ih]

/-- Nothing is dropped from a list of even length. -/
theorem flatten_pairUp {l : List α} (h : l.length % 2 = 0) : flatten (pairUp l) = l := by
  induction l using pairUp.induct with
  | case1 a b rest ih =>
      have hrest : rest.length % 2 = 0 := by
        simp only [List.length_cons] at h
        omega
      rw [pairUp, flatten_cons, ih hrest]
  | case2 l hl =>
      cases l with
      | nil => rfl
      | cons a l =>
          cases l with
          | nil => simp at h
          | cons b rest => exact absurd rfl (hl a b rest)

theorem length_flatten (pairs : List (α × α)) : (flatten pairs).length = 2 * pairs.length := by
  induction pairs with
  | nil => rfl
  | cons p pairs ih =>
      rw [flatten_cons, List.length_cons, List.length_cons, ih, List.length_cons]
      omega

/-- Decoding a list of encoded elements, each of which decodes, maps the elements. -/
theorem mapM_map_eq_ok {γ : Type*} {encode : γ → α} {f : α → Except ε β} {g : γ → β}
    {xs : List γ} (h : ∀ x ∈ xs, f (encode x) = .ok (g x)) :
    (xs.map encode).mapM f = .ok (xs.map g) := by
  induction xs with
  | nil => rfl
  | cons x xs ih =>
      have hhead := h x List.mem_cons_self
      have htail := ih fun y hy => h y (List.mem_cons_of_mem x hy)
      rw [List.map_cons, List.mapM_cons, hhead, htail]
      rfl

/-- Decoding a list of encoded elements recovers it when decoding each one does. -/
theorem mapM_map_cancel {γ : Type*} {encode : γ → α} {f : α → Except ε γ} {xs : List γ}
    (h : ∀ x ∈ xs, f (encode x) = .ok x) : (xs.map encode).mapM f = .ok xs := by
  have hmap := mapM_map_eq_ok (g := id) h
  rw [List.map_id] at hmap
  exact hmap

end GlideRust.Lib.PairList

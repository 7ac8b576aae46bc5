import Mathlib.Tactic.Common

/-!
# Walks over a paged collection

A collection is handed out in pages. Asking at a position gives a page and the
position of the next one, unless the page is the last. From each position there
is at most one sequence of pages to the end.
-/

namespace GlideRust.Lib.PagedWalk

variable {σ α : Type*}

/-- The pages from a position to the end. -/
inductive Walk (ask : σ → α × Option σ) : σ → List α → Prop
  | last {position : σ} {page : α} (ends : ask position = (page, none)) :
      Walk ask position [page]
  | next {position position' : σ} {page : α} {rest : List α}
      (goes : ask position = (page, some position')) (tail : Walk ask position' rest) :
      Walk ask position (page :: rest)

/-- The positions that are asked at on the way. -/
inductive OnWalk (ask : σ → α × Option σ) (start : σ) : σ → Prop
  | start : OnWalk ask start start
  | next {position position' : σ} {page : α} (before : OnWalk ask start position)
      (goes : ask position = (page, some position')) : OnWalk ask start position'

variable {ask : σ → α × Option σ} {position position' : σ} {page : α} {pages pages' : List α}

/-- A walk from a last page has no other page. -/
theorem Walk.eq_of_last (ends : ask position = (page, none)) (h : Walk ask position pages) :
    pages = [page] := by
  cases h with
  | last ends' =>
      rw [ends] at ends'
      rw [(Prod.mk.inj ends').1]
  | next goes' =>
      rw [ends] at goes'
      cases goes'

/-- A walk from any other page goes on at the position that it names. -/
theorem Walk.eq_of_next (goes : ask position = (page, some position'))
    (h : Walk ask position pages) : ∃ rest, pages = page :: rest ∧ Walk ask position' rest := by
  cases h with
  | last ends' =>
      rw [goes] at ends'
      cases ends'
  | next goes' tail' =>
      rw [goes] at goes'
      cases goes'
      exact ⟨_, rfl, tail'⟩

theorem Walk.unique (h : Walk ask position pages) (h' : Walk ask position pages') :
    pages' = pages := by
  induction h generalizing pages' with
  | last ends => exact h'.eq_of_last ends
  | next goes tail ih =>
      obtain ⟨rest', rfl, tail'⟩ := h'.eq_of_next goes
      rw [ih tail']

end GlideRust.Lib.PagedWalk

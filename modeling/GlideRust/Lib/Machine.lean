import Mathlib.Data.List.Induction
import Mathlib.Tactic.Common

/-!
# Deterministic machines with observed outputs

A step reads one input and either refuses it or moves to a new state while
emitting finitely many observations. Nondeterminism of a system, such as the
choice of the party that moves next, is carried by the input list.

## Implementation notes

The invariant rule speaks about the inputs consumed so far, the observations
made so far and the current state together. A rule over the state alone would
force every history variable into the state.
-/

namespace GlideRust.Lib.Machine

variable {σ ι ω : Type*}

/-- One step: a refused input gives `none`. -/
abbrev Step (σ ι ω : Type*) := σ → ι → Option (σ × List ω)

/-- Consume a whole input list, collecting all observations in order. -/
def run (step : Step σ ι ω) : σ → List ι → Option (σ × List ω)
  | s, [] => some (s, [])
  | s, i :: rest =>
      match step s i with
      | none => none
      | some (mid, out) =>
          match run step mid rest with
          | none => none
          | some (last, outs) => some (last, out ++ outs)

variable {step : Step σ ι ω}

@[simp] theorem run_nil (s : σ) : run step s [] = some (s, []) := rfl

theorem run_cons_eq_some {s t : σ} {i : ι} {rest : List ι} {outs : List ω} :
    run step s (i :: rest) = some (t, outs) ↔
      ∃ mid out later, step s i = some (mid, out) ∧
        run step mid rest = some (t, later) ∧ outs = out ++ later := by
  constructor
  · intro h
    simp only [run] at h
    cases hs : step s i with
    | none => simp [hs] at h
    | some p =>
        obtain ⟨mid, out⟩ := p
        simp only [hs] at h
        cases hr : run step mid rest with
        | none => simp [hr] at h
        | some q =>
            obtain ⟨last, later⟩ := q
            simp only [hr, Option.some.injEq, Prod.mk.injEq] at h
            exact ⟨mid, out, later, rfl, by rw [hr, h.1], h.2.symm⟩
  · rintro ⟨mid, out, later, hs, hr, rfl⟩
    simp [run, hs, hr]

theorem run_append_eq_some {s t : σ} {is js : List ι} {outs : List ω} :
    run step s (is ++ js) = some (t, outs) ↔
      ∃ mid first later, run step s is = some (mid, first) ∧
        run step mid js = some (t, later) ∧ outs = first ++ later := by
  induction is generalizing s outs with
  | nil => simp
  | cons i rest ih =>
      rw [List.cons_append, run_cons_eq_some]
      constructor
      · rintro ⟨mid, out, later, hs, hr, rfl⟩
        obtain ⟨mid', first, later', hf, hl, rfl⟩ := ih.mp hr
        exact ⟨mid', out ++ first, later',
          run_cons_eq_some.mpr ⟨mid, out, first, hs, hf, rfl⟩, hl, by simp⟩
      · rintro ⟨mid', first, later', hf, hl, rfl⟩
        obtain ⟨mid, out, first', hs, hr, rfl⟩ := run_cons_eq_some.mp hf
        exact ⟨mid, out, first' ++ later', hs,
          ih.mpr ⟨mid', first', later', hr, hl, rfl⟩, by simp⟩

theorem run_snoc_eq_some {s t : σ} {is : List ι} {i : ι} {outs : List ω} :
    run step s (is ++ [i]) = some (t, outs) ↔
      ∃ mid first out, run step s is = some (mid, first) ∧
        step mid i = some (t, out) ∧ outs = first ++ out := by
  rw [run_append_eq_some]
  constructor
  · rintro ⟨mid, first, later, hf, hl, rfl⟩
    obtain ⟨t', out, rest, hs, hr, rfl⟩ := run_cons_eq_some.mp hl
    simp only [run_nil, Option.some.injEq, Prod.mk.injEq] at hr
    obtain ⟨rfl, rfl⟩ := hr
    exact ⟨mid, first, out, hf, hs, by simp⟩
  · rintro ⟨mid, first, out, hf, hs, rfl⟩
    exact ⟨mid, first, out, hf,
      run_cons_eq_some.mpr ⟨t, out, [], hs, rfl, by simp⟩, rfl⟩

/-- What holds of the empty history and is kept by each accepted step holds of
every run, about its inputs, its observations and its final state. -/
theorem run_invariant {start : σ} (P : List ι → List ω → σ → Prop)
    (hinit : P [] [] start)
    (hstep : ∀ is outs s i t out, P is outs s → step s i = some (t, out) →
      P (is ++ [i]) (outs ++ out) t) :
    ∀ is t outs, run step start is = some (t, outs) → P is outs t := by
  intro is
  induction is using List.reverseRecOn with
  | nil =>
      intro t outs h
      simp only [run_nil, Option.some.injEq, Prod.mk.injEq] at h
      obtain ⟨rfl, rfl⟩ := h
      exact hinit
  | append_singleton is i ih =>
      intro t outs h
      obtain ⟨mid, first, out, hf, hs, rfl⟩ := run_snoc_eq_some.mp h
      exact hstep is first mid i t out (ih mid first hf) hs

/-- A state property kept by each accepted step holds at the end of every run. -/
theorem run_state_invariant {start : σ} (P : σ → Prop) (hinit : P start)
    (hstep : ∀ s i t out, P s → step s i = some (t, out) → P t)
    {is : List ι} {t : σ} {outs : List ω} (h : run step start is = some (t, outs)) : P t :=
  run_invariant (fun _ _ s => P s) hinit
    (fun _ _ s i t out hp hs => hstep s i t out hp hs) is t outs h

/-- States reached from a fixed start by some accepted input list. -/
def Reachable (step : Step σ ι ω) (start s : σ) : Prop :=
  ∃ is outs, run step start is = some (s, outs)

/-- A party finishes alone when some list of its own inputs is accepted and
makes the wanted observation. -/
def FinishesAlone (step : Step σ ι ω) (own : ι → Prop) (s : σ) (o : ω) : Prop :=
  ∃ is t outs, (∀ i ∈ is, own i) ∧ run step s is = some (t, outs) ∧ o ∈ outs

/-- A silent own step before a solo completion is part of a longer solo completion. -/
theorem FinishesAlone.of_step {own : ι → Prop} {s t : σ} {i : ι} {o : ω}
    (hi : own i) (hs : step s i = some (t, [])) (h : FinishesAlone step own t o) :
    FinishesAlone step own s o := by
  obtain ⟨is, u, outs, hown, hrun, ho⟩ := h
  refine ⟨i :: is, u, outs, ?_, run_cons_eq_some.mpr ⟨t, [], outs, hs, hrun, rfl⟩, ho⟩
  intro j hj
  rcases List.mem_cons.mp hj with rfl | hj
  · exact hi
  · exact hown j hj

/-- An own step that makes the observation completes the party at once. -/
theorem FinishesAlone.last {own : ι → Prop} {s t : σ} {i : ι} {o : ω} {outs : List ω}
    (hi : own i) (hs : step s i = some (t, outs)) (ho : o ∈ outs) :
    FinishesAlone step own s o := by
  refine ⟨[i], t, outs, ?_, run_cons_eq_some.mpr ⟨t, outs, [], hs, rfl, by simp⟩, ho⟩
  intro j hj
  rw [List.mem_singleton.mp hj]
  exact hi

/-- A party whose own steps all stay silent inside a set of states never finishes alone. -/
theorem not_finishesAlone {own : ι → Prop} (Stuck : σ → Prop)
    (hstuck : ∀ s i t out, Stuck s → own i → step s i = some (t, out) → Stuck t ∧ out = [])
    {s : σ} (hs : Stuck s) (o : ω) : ¬ FinishesAlone step own s o := by
  rintro ⟨is, t, outs, hown, hrun, ho⟩
  induction is generalizing s outs with
  | nil =>
      simp only [run_nil, Option.some.injEq, Prod.mk.injEq] at hrun
      rw [← hrun.2] at ho
      exact List.not_mem_nil ho
  | cons i rest ih =>
      obtain ⟨mid, out, later, hstep, hrest, rfl⟩ := run_cons_eq_some.mp hrun
      obtain ⟨hmid, rfl⟩ := hstuck s i mid out hs (hown i (by simp)) hstep
      exact ih hmid later (fun j hj => hown j (List.mem_cons_of_mem i hj)) hrest ho

/-- A party that stays silent until it makes one fixed observation, after which
its inputs are refused, finishes alone with that observation only. -/
theorem FinishesAlone.eq {own : ι → Prop} (Live Over : σ → Prop) (o : ω)
    (hlive : ∀ s i t out, Live s → own i → step s i = some (t, out) →
      (Live t ∧ out = []) ∨ (Over t ∧ out = [o]))
    (hover : ∀ s i, Over s → own i → step s i = none)
    {s : σ} (hs : Live s) {o' : ω} (h : FinishesAlone step own s o') : o' = o := by
  obtain ⟨is, t, outs, hown, hrun, ho⟩ := h
  induction is generalizing s outs with
  | nil =>
      simp only [run_nil, Option.some.injEq, Prod.mk.injEq] at hrun
      rw [← hrun.2] at ho
      exact absurd ho List.not_mem_nil
  | cons i rest ih =>
      obtain ⟨mid, out, later, hstep, hrest, rfl⟩ := run_cons_eq_some.mp hrun
      have hrestOwn : ∀ j ∈ rest, own j := fun j hj => hown j (List.mem_cons_of_mem i hj)
      rcases hlive s i mid out hs (hown i List.mem_cons_self) hstep with
        ⟨hmid, rfl⟩ | ⟨hmid, rfl⟩
      · exact ih hmid later hrestOwn hrest ho
      · cases rest with
        | nil =>
            simp only [run_nil, Option.some.injEq, Prod.mk.injEq] at hrest
            rw [← hrest.2] at ho
            exact List.mem_singleton.mp ho
        | cons j rest =>
            obtain ⟨u, out', later', hj, -, -⟩ := run_cons_eq_some.mp hrest
            rw [hover mid j hmid (hrestOwn j List.mem_cons_self)] at hj
            cases hj

end GlideRust.Lib.Machine

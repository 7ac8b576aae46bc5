import GlideRust.Lib.Dialogue
import GlideRust.Lib.Machine
import Mathlib.Logic.Function.Basic

/-!
# Many dialogues with one server

Any number of tasks hold dialogues with one server that others use as well. The
machine moves one party at a time: a task begins, the server handles the request
that a task waits on, the server handles a request of somebody else, or a task is
given up. Every interleaving is an input list.

## Implementation notes

A request of a task that is given up may still arrive. It is then a request of
somebody else.
-/

namespace GlideRust.Lib.Tasks

variable {κ ρ α σ ε : Type}

/-- A task has not begun, waits with its dialogue for a reply, or is over. -/
inductive Task (κ ρ α : Type) where
  | idle
  | pending (dialogue : Dialogue κ ρ α)
  | ended

structure State (κ ρ α σ : Type) where
  server : σ
  tasks : Nat → Task κ ρ α

/-- A server before any task has begun. -/
def State.init (server : σ) : State κ ρ α σ := ⟨server, fun _ => .idle⟩

inductive Event (κ ρ α : Type) where
  | start (i : Nat) (dialogue : Dialogue κ ρ α)
  | handle (i : Nat)
  | other (request : κ)
  | cancel (i : Nat)

inductive Observation (κ α ε : Type) where
  | handled (i : Nat) (request : κ) (effects : List ε)
  | returned (i : Nat) (result : α)

/-- Put a task at a new point. -/
def State.set (s : State κ ρ α σ) (i : Nat) (task : Task κ ρ α) : State κ ρ α σ :=
  { s with tasks := Function.update s.tasks i task }

@[simp] theorem State.set_server (s : State κ ρ α σ) (i : Nat) (task : Task κ ρ α) :
    (s.set i task).server = s.server := rfl

@[simp] theorem State.set_tasks_self (s : State κ ρ α σ) (i : Nat) (task : Task κ ρ α) :
    (s.set i task).tasks i = task := Function.update_self ..

theorem State.set_tasks_of_ne (s : State κ ρ α σ) {i j : Nat} (task : Task κ ρ α) (h : j ≠ i) :
    (s.set i task).tasks j = s.tasks j := Function.update_of_ne h ..

variable (handle : κ → σ → Dialogue.Handled σ ρ ε)

/-- The server handles the request that a task waits on, and the task goes on to
its next request or returns. -/
def advance (s : State κ ρ α σ) (i : Nat) (request : κ) (next : ρ → Dialogue κ ρ α) :
    State κ ρ α σ × List (Observation κ α ε) :=
  let handled := handle request s.server
  match next handled.reply with
  | .done result =>
      ({ s with server := handled.state }.set i .ended,
        [.handled i request handled.effects, .returned i result])
  | .send request' next' =>
      ({ s with server := handled.state }.set i (.pending (.send request' next')),
        [.handled i request handled.effects])

def step : Machine.Step (State κ ρ α σ) (Event κ ρ α) (Observation κ α ε) := fun s event =>
  match event with
  | .start i dialogue =>
      match s.tasks i with
      | .idle => some (s.set i (.pending dialogue), [])
      | _ => none
  | .handle i =>
      match s.tasks i with
      | .pending (.send request next) => some (advance handle s i request next)
      | _ => none
  | .other request => some ({ s with server := (handle request s.server).state }, [])
  | .cancel i =>
      match s.tasks i with
      | .pending _ => some (s.set i .ended, [])
      | _ => none

/-! ## What an accepted input does -/

section Cases

variable {handle} {s t : State κ ρ α σ} {out : List (Observation κ α ε)} {i : Nat}

theorem advance_done {request : κ} {next : ρ → Dialogue κ ρ α} {result : α}
    (h : next (handle request s.server).reply = .done result) :
    advance handle s i request next =
      ({ s with server := (handle request s.server).state }.set i .ended,
        [.handled i request (handle request s.server).effects, .returned i result]) := by
  simp only [advance, h]

theorem advance_send {request request' : κ} {next next' : ρ → Dialogue κ ρ α}
    (h : next (handle request s.server).reply = .send request' next') :
    advance handle s i request next =
      ({ s with server := (handle request s.server).state }.set i
        (.pending (.send request' next')),
        [.handled i request (handle request s.server).effects]) := by
  simp only [advance, h]

theorem step_start_cases {dialogue : Dialogue κ ρ α}
    (h : step handle s (.start i dialogue) = some (t, out)) :
    s.tasks i = .idle ∧ t = s.set i (.pending dialogue) ∧ out = [] := by
  simp only [step] at h
  split at h
  · rename_i hidle
    simp only [Option.some.injEq, Prod.mk.injEq] at h
    exact ⟨hidle, h.1.symm, h.2.symm⟩
  · cases h

theorem step_handle_cases (h : step handle s (.handle i) = some (t, out)) :
    ∃ request next, s.tasks i = .pending (.send request next) ∧
      advance handle s i request next = (t, out) := by
  simp only [step] at h
  split at h
  · rename_i request next hpending
    exact ⟨request, next, hpending, Option.some.inj h⟩
  · cases h

theorem step_other_cases {request : κ} (h : step handle s (.other request) = some (t, out)) :
    t = { s with server := (handle request s.server).state } ∧ out = [] := by
  simp only [step, Option.some.injEq, Prod.mk.injEq] at h
  exact ⟨h.1.symm, h.2.symm⟩

theorem step_cancel_cases (h : step handle s (.cancel i) = some (t, out)) :
    (∃ dialogue, s.tasks i = .pending dialogue) ∧ t = s.set i .ended ∧ out = [] := by
  simp only [step] at h
  split at h
  · rename_i dialogue hpending
    simp only [Option.some.injEq, Prod.mk.injEq] at h
    exact ⟨⟨dialogue, hpending⟩, h.1.symm, h.2.symm⟩
  · cases h

end Cases

/-! ## The effects of one task -/

/-- What an observation says a task did. -/
def Observation.effectsOf (i : Nat) : Observation κ α ε → List ε
  | .handled j _ effects => if j = i then effects else []
  | .returned _ _ => []

/-- All effects of the requests of one task, in order. -/
def effectsOf (i : Nat) (outs : List (Observation κ α ε)) : List ε :=
  outs.flatMap (Observation.effectsOf i)

@[simp] theorem effectsOf_nil (i : Nat) : effectsOf i ([] : List (Observation κ α ε)) = [] := rfl

@[simp] theorem effectsOf_append (i : Nat) (outs later : List (Observation κ α ε)) :
    effectsOf i (outs ++ later) = effectsOf i outs ++ effectsOf i later :=
  List.flatMap_append

/-- Which task an observation is about. -/
def Observation.task : Observation κ α ε → Nat
  | .handled i _ _ => i
  | .returned i _ => i

theorem effectsOf_of_ne {i : Nat} {out : List (Observation κ α ε)}
    (h : ∀ o ∈ out, o.task ≠ i) : effectsOf i out = [] := by
  apply List.flatMap_eq_nil_iff.mpr
  intro o ho
  cases o with
  | handled j request effects => exact if_neg (h _ ho)
  | returned j result => rfl

theorem advance_task (s : State κ ρ α σ) (i : Nat) (request : κ) (next : ρ → Dialogue κ ρ α) :
    ∀ o ∈ (advance handle s i request next).2, o.task = i := by
  intro o ho
  unfold advance at ho
  simp only at ho
  split at ho
  · simp only [List.mem_cons, List.not_mem_nil, or_false] at ho
    rcases ho with rfl | rfl <;> rfl
  · rw [List.mem_singleton.mp ho]
    rfl

end GlideRust.Lib.Tasks

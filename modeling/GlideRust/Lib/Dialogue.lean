import Mathlib.Tactic.Common

/-!
# Request and reply dialogues

A client sends requests one at a time and chooses the next one from the reply to
the last. It is answered either by a given list of replies, or by a server that
other clients use at the same time: their requests are handled before, between
and after the requests of the dialogue.
-/

namespace GlideRust.Lib

/-- A client program: it is done, or sends a request and continues on the reply. -/
inductive Dialogue (κ ρ α : Type) where
  | done (result : α)
  | send (request : κ) (next : ρ → Dialogue κ ρ α)

namespace Dialogue

variable {κ ρ α σ ε : Type}

/-- The same dialogue with its result read differently. -/
def map {β : Type} (f : α → β) : Dialogue κ ρ α → Dialogue κ ρ β
  | .done result => .done (f result)
  | .send request next => .send request fun reply => (next reply).map f

/-- The requests sent when the replies arrive in the given order. -/
def sent : Dialogue κ ρ α → List ρ → List κ
  | .done _, _ => []
  | .send request _, [] => [request]
  | .send request next, reply :: replies => request :: (next reply).sent replies

/-- What handling one request comes to. -/
structure Handled (σ ρ ε : Type) where
  state : σ
  reply : ρ
  effects : List ε

/-- The server state after requests of other clients. -/
def handleAll (handle : κ → σ → Handled σ ρ ε) (requests : List κ) (s : σ) : σ :=
  requests.foldl (fun s request => (handle request s).state) s

@[simp] theorem handleAll_append (handle : κ → σ → Handled σ ρ ε) (first later : List κ)
    (s : σ) : handleAll handle (first ++ later) s =
      handleAll handle later (handleAll handle first s) := by
  simp [handleAll]

/-- A completed dialogue: its result, the server state after it and the effects
of its own requests. -/
structure Completed (σ α ε : Type) where
  result : α
  state : σ
  effects : List ε

/-- A dialogue with a server. The requests `others i` of other clients are
handled after `i` requests of the dialogue itself. -/
def serve (handle : κ → σ → Handled σ ρ ε) :
    Dialogue κ ρ α → (Nat → List κ) → σ → Completed σ α ε
  | .done result, others, s => ⟨result, handleAll handle (others 0) s, []⟩
  | .send request next, others, s =>
      let handled := handle request (handleAll handle (others 0) s)
      let later := (next handled.reply).serve handle (fun i => others (i + 1)) handled.state
      { later with effects := handled.effects ++ later.effects }

/-- A dialogue whose first reply settles it is served like its one request. -/
theorem serve_send_done {handle : κ → σ → Handled σ ρ ε} {request : κ}
    {next : ρ → Dialogue κ ρ α} {others : Nat → List κ} {s : σ} {result : α}
    (h : next (handle request (handleAll handle (others 0) s)).reply = .done result) :
    (send request next).serve handle others s =
      let handled := handle request (handleAll handle (others 0) s)
      ⟨result, handleAll handle (others 1) handled.state, handled.effects⟩ := by
  simp [serve, h]

/-- A first request without any effect on the server only lets other clients
through. -/
theorem serve_send_unchanged {handle : κ → σ → Handled σ ρ ε} {request : κ}
    {next : ρ → Dialogue κ ρ α} {others : Nat → List κ} {s : σ} {reply : ρ}
    (h : handle request (handleAll handle (others 0) s) =
      ⟨handleAll handle (others 0) s, reply, []⟩) :
    (send request next).serve handle others s =
      (next reply).serve handle (fun i => others (i + 1)) (handleAll handle (others 0) s) := by
  simp [serve, h]

end Dialogue

end GlideRust.Lib

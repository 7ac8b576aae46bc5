import Mathlib.Data.List.Basic
import Mathlib.Tactic.Common

/-!
# An unbounded channel and a first-come mutex

Both are the sequential objects behind the asynchronous ones: a suspended
receiver or lock request is a party that has not moved yet, so suspension
itself needs no state here. A released mutex is handed to the longest waiting
party before anybody can ask for it again.
-/

namespace GlideRust.Lib.AsyncPrimitives

/-! ## Channel -/

/-- The receiving end of an unbounded queue, and whether a sender still exists. -/
structure Channel (α : Type*) where
  buffer : List α
  senderAlive : Bool

/-- What one look at the receiving end finds. -/
inductive Received (α : Type*) where
  | item (a : α)
  | empty
  | disconnected

namespace Channel

variable {α : Type*}

def new : Channel α := ⟨[], true⟩

/-- Enqueue at the back. -/
def send (ch : Channel α) (a : α) : Channel α := { ch with buffer := ch.buffer ++ [a] }

/-- The last sender goes away; buffered items stay. -/
def dropSender (ch : Channel α) : Channel α := { ch with senderAlive := false }

/-- Take the front item. A channel without sender disconnects only once it is drained. -/
def receive (ch : Channel α) : Received α × Channel α :=
  match ch.buffer with
  | a :: rest => (.item a, { ch with buffer := rest })
  | [] => (if ch.senderAlive then .empty else .disconnected, ch)

theorem receive_item {ch : Channel α} {a : α} {rest : List α} (h : ch.buffer = a :: rest) :
    ch.receive = (.item a, { ch with buffer := rest }) := by
  simp [receive, h]

theorem receive_empty {ch : Channel α} (h : ch.buffer = []) (hs : ch.senderAlive = true) :
    ch.receive = (.empty, ch) := by
  simp [receive, h, hs]

theorem receive_disconnected {ch : Channel α} (h : ch.buffer = [])
    (hs : ch.senderAlive = false) : ch.receive = (.disconnected, ch) := by
  simp [receive, h, hs]

/-- The three outcomes of a look, each with the channel it came from. -/
theorem receive_cases (ch : Channel α) :
    (∃ a rest, ch.buffer = a :: rest ∧ ch.receive = (.item a, { ch with buffer := rest })) ∨
    (ch.buffer = [] ∧ ch.senderAlive = true ∧ ch.receive = (.empty, ch)) ∨
    (ch.buffer = [] ∧ ch.senderAlive = false ∧ ch.receive = (.disconnected, ch)) := by
  cases hb : ch.buffer with
  | cons a rest => exact Or.inl ⟨a, rest, rfl, receive_item hb⟩
  | nil =>
      cases hs : ch.senderAlive with
      | true => exact Or.inr (Or.inl ⟨rfl, rfl, receive_empty hb hs⟩)
      | false => exact Or.inr (Or.inr ⟨rfl, rfl, receive_disconnected hb hs⟩)

end Channel

/-! ## Mutex -/

/-- A first-come mutex. A free mutex has no waiters, because a release hands it over. -/
structure FairMutex (α : Type*) where
  holder : Option α
  waiters : List α
  idle_of_free : holder = none → waiters = []

namespace FairMutex

variable {α : Type*}

def new : FairMutex α := ⟨none, [], fun _ => rfl⟩

/-- Take a free mutex, or join the end of the queue. -/
def acquire (m : FairMutex α) (c : α) : FairMutex α :=
  match m.holder with
  | none => ⟨some c, m.waiters, by simp⟩
  | some d => ⟨some d, m.waiters ++ [c], by simp⟩

/-- Hand the mutex to the first waiter, if there is one. -/
def release (m : FairMutex α) : FairMutex α :=
  match m.waiters with
  | [] => new
  | c :: rest => ⟨some c, rest, by simp⟩

/-- A party gives up its request or its ownership. -/
def abandon [DecidableEq α] (m : FairMutex α) (c : α) : FairMutex α :=
  if m.holder = some c then m.release
  else ⟨m.holder, m.waiters.filter (· ≠ c), fun h => by simp [m.idle_of_free h]⟩

theorem acquire_of_free {m : FairMutex α} (c : α) (h : m.holder = none) :
    (m.acquire c).holder = some c := by
  unfold acquire
  split
  · rfl
  · simp_all

theorem acquire_of_held {m : FairMutex α} (c : α) {d : α} (h : m.holder = some d) :
    (m.acquire c).holder = some d ∧ (m.acquire c).waiters = m.waiters ++ [c] := by
  unfold acquire
  split
  · simp_all
  · simp_all

/-- Whoever waited either owns the mutex after a release or still waits. -/
theorem release_of_waiting {m : FairMutex α} {c : α} (h : c ∈ m.waiters) :
    (m.release).holder = some c ∨ c ∈ (m.release).waiters := by
  unfold release
  cases hw : m.waiters with
  | nil => simp [hw] at h
  | cons d rest =>
      rw [hw] at h
      rcases List.mem_cons.mp h with rfl | h
      · exact Or.inl rfl
      · exact Or.inr h

/-- Somebody else's request survives a party giving up. -/
theorem abandon_of_waiting [DecidableEq α] {m : FairMutex α} {c d : α} (hne : c ≠ d)
    (h : c ∈ m.waiters) : (m.abandon d).holder = some c ∨ c ∈ (m.abandon d).waiters := by
  unfold abandon
  split
  · exact release_of_waiting h
  · exact Or.inr (List.mem_filter.mpr ⟨h, by simpa using hne⟩)

/-- Somebody else's ownership survives a party giving up. -/
theorem abandon_of_held [DecidableEq α] {m : FairMutex α} {c d : α} (hne : c ≠ d)
    (h : m.holder = some c) : (m.abandon d).holder = some c := by
  unfold abandon
  rw [if_neg (by rw [h]; simpa using hne)]
  exact h

/-- A mutex somebody waits for is held. -/
theorem holder_of_waiting {m : FairMutex α} {c : α} (h : c ∈ m.waiters) : m.holder ≠ none := by
  intro hf
  rw [m.idle_of_free hf] at h
  exact List.not_mem_nil h

/-! ### The line at the mutex -/

/-- Everybody who owns the mutex or waits for it, in the order of service. -/
def line (m : FairMutex α) : List α := m.holder.toList ++ m.waiters

theorem line_of_held {m : FairMutex α} {c : α} (h : m.holder = some c) :
    m.line = c :: m.waiters := by
  rw [line, h, Option.toList_some, List.singleton_append]

theorem line_eq_nil_iff (m : FairMutex α) : m.line = [] ↔ m.holder = none := by
  constructor
  · intro h
    cases hm : m.holder with
    | none => rfl
    | some c => simp [line, hm] at h
  · intro h
    rw [line, h, m.idle_of_free h]
    rfl

theorem holder_eq_head? (m : FairMutex α) : m.holder = m.line.head? := by
  cases hm : m.holder with
  | none => rw [(line_eq_nil_iff m).mpr hm, List.head?_nil]
  | some c => rw [line_of_held hm, List.head?_cons]

/-- A request joins at the end. -/
theorem line_acquire (m : FairMutex α) (c : α) : (m.acquire c).line = m.line ++ [c] := by
  cases hm : m.holder with
  | none => simp [acquire, line, hm, m.idle_of_free hm]
  | some d => simp [acquire, line, hm]

/-- A release serves the front. -/
theorem line_release (m : FairMutex α) : m.release.line = m.line.tail := by
  cases hm : m.holder with
  | none => simp [release, line, hm, m.idle_of_free hm, new]
  | some d =>
      rw [line_of_held hm, List.tail_cons, release]
      split <;> simp_all [line, new]

/-- Giving up takes a party out of the line and leaves the order of the others. -/
theorem line_abandon [DecidableEq α] {m : FairMutex α} (hnodup : m.line.Nodup) (c : α) :
    (m.abandon c).line = m.line.filter (· ≠ c) := by
  unfold abandon
  split
  · rename_i hc
    rw [line_release, line_of_held hc, List.tail_cons]
    rw [line_of_held hc, List.nodup_cons] at hnodup
    rw [List.filter_cons_of_neg (by simp)]
    symm
    rw [List.filter_eq_self]
    intro d hd
    simpa using ne_of_mem_of_not_mem hd hnodup.1
  · rename_i hc
    have hholder : m.holder.toList.filter (· ≠ c) = m.holder.toList := by
      rw [List.filter_eq_self]
      intro d hd
      rw [Option.mem_toList] at hd
      simp only [decide_eq_true_eq, ne_eq]
      rintro rfl
      exact hc hd
    rw [line, line, List.filter_append, hholder]

end FairMutex

end GlideRust.Lib.AsyncPrimitives

import GlideRust.Client.Push

/-!
# When the non-blocking receive waits

`try_get_pubsub_message` goes through the same mutex as `get_pubsub_message`,
and the latter keeps its guard while it awaits a push. A pending try call runs
to completion by its own polls exactly when nobody else owns the mutex.

## Implementation notes

The lock invariant is one-directional: it says what the phases of calls imply
about the mutex. The converse is not needed to decide who can move.
-/

namespace GlideRust.Client.TryReceive

open Redis Error Lib AsyncPrimitives Push

/-! ## The lock invariant -/

/-- A receiving call owns the mutex; a locking call owns it or waits for it. -/
structure LockInv (m : FairMutex CallId) (calls : CallId → Option Call) : Prop where
  receiving : ∀ c method, calls c = some ⟨method, .receiving⟩ → m.holder = some c
  locking : ∀ c method, calls c = some ⟨method, .locking⟩ →
    m.holder = some c ∨ c ∈ m.waiters

namespace LockInv

variable {m : FairMutex CallId} {calls : CallId → Option Call}

/-- The invariant after one call moved, from what it says about that call and
about all others. -/
theorem update {m' : FairMutex CallId} {c : CallId} {method : Method} {phase : Phase}
    (hrec : phase = .receiving → m'.holder = some c)
    (hlock : phase = .locking → m'.holder = some c ∨ c ∈ m'.waiters)
    (hothers : ∀ d ≠ c, ∀ method',
      (calls d = some ⟨method', .receiving⟩ → m'.holder = some d) ∧
      (calls d = some ⟨method', .locking⟩ → m'.holder = some d ∨ d ∈ m'.waiters)) :
    LockInv m' (Function.update calls c (some ⟨method, phase⟩)) := by
  constructor
  · intro d method' hd
    by_cases hdc : d = c
    · subst hdc
      rw [Function.update_self] at hd
      exact hrec (congrArg Call.phase (Option.some.inj hd))
    · rw [Function.update_of_ne hdc] at hd
      exact (hothers d hdc method').1 hd
  · intro d method' hd
    by_cases hdc : d = c
    · subst hdc
      rw [Function.update_self] at hd
      exact hlock (congrArg Call.phase (Option.some.inj hd))
    · rw [Function.update_of_ne hdc] at hd
      exact (hothers d hdc method').2 hd

/-- A call outside the lock protocol may change without touching the mutex. -/
theorem set_outside (inv : LockInv m calls) (c : CallId) (method : Method) {phase : Phase}
    (hr : phase ≠ .receiving) (hl : phase ≠ .locking) :
    LockInv m (Function.update calls c (some ⟨method, phase⟩)) := by
  apply update (fun h => absurd h hr) (fun h => absurd h hl)
  intro d _ method'
  exact ⟨inv.receiving d method', inv.locking d method'⟩

theorem acquire (inv : LockInv m calls) (c : CallId) (method : Method) :
    LockInv (m.acquire c) (Function.update calls c
      (some ⟨method, if m.holder = none then .receiving else .locking⟩)) := by
  cases hm : m.holder with
  | none =>
      have hnew := FairMutex.acquire_of_free c hm
      apply update (fun _ => hnew) (fun _ => Or.inl hnew)
      intro d _ method'
      constructor
      · intro hd
        have hheld := inv.receiving d method' hd
        rw [hm] at hheld
        cases hheld
      · intro hd
        rcases inv.locking d method' hd with hheld | hwait
        · rw [hm] at hheld
          cases hheld
        · exact absurd hm (FairMutex.holder_of_waiting hwait)
  | some e =>
      obtain ⟨hsame, hqueue⟩ := FairMutex.acquire_of_held c hm
      apply update
      · intro h
        simp at h
      · intro _
        right
        rw [hqueue]
        simp
      · intro d _ method'
        constructor
        · intro hd
          rw [hsame, ← hm]
          exact inv.receiving d method' hd
        · intro hd
          rw [hsame, hqueue, ← hm]
          rcases inv.locking d method' hd with hheld | hwait
          · exact Or.inl hheld
          · exact Or.inr (List.mem_append_left _ hwait)

theorem granted (inv : LockInv m calls) {c : CallId} (method : Method)
    (hc : m.holder = some c) :
    LockInv m (Function.update calls c (some ⟨method, .receiving⟩)) := by
  apply update (fun _ => hc) (fun _ => Or.inl hc)
  intro d _ method'
  exact ⟨inv.receiving d method', inv.locking d method'⟩

/-- A call that gives up its guard or its place leaves the others where they are. -/
theorem abandon (inv : LockInv m calls) (c : CallId) (method : Method) :
    LockInv (m.abandon c) (Function.update calls c (some ⟨method, .ended⟩)) := by
  apply update (fun h => by cases h) (fun h => by cases h)
  intro d hdc method'
  constructor
  · intro hd
    exact FairMutex.abandon_of_held hdc (inv.receiving d method' hd)
  · intro hd
    rcases inv.locking d method' hd with hheld | hwait
    · exact Or.inl (FairMutex.abandon_of_held hdc hheld)
    · exact FairMutex.abandon_of_waiting hdc hwait

/-- A call that returns releases the guard it owns. -/
theorem release (inv : LockInv m calls) {c : CallId} (method : Method)
    (hc : m.holder = some c) :
    LockInv m.release (Function.update calls c (some ⟨method, .ended⟩)) := by
  have h := inv.abandon c method
  rw [FairMutex.abandon, if_pos hc] at h
  exact h

end LockInv

/-- The invariant of a client with a push channel. -/
def Locked (s : ClientState) : Prop :=
  ∃ shared, s.pubsubRx = some shared ∧ LockInv shared.mutex s.calls

variable {R : RedisCrate}

theorem locked_connected : Locked (connected true) := by
  refine ⟨_, rfl, ?_, ?_⟩
  · intro c method hc
    cases hc
  · intro c method hc
    cases hc

theorem pollReceiving_locked {s t : ClientState} {shared : PushRx} {c : CallId}
    {method : Method} {out : List Returned} (hrx : s.pubsubRx = some shared)
    (inv : LockInv shared.mutex s.calls) (hc : s.calls c = some ⟨method, .receiving⟩)
    (h : pollReceiving R s c method shared = (t, out)) : Locked t := by
  have hown := inv.receiving c method hc
  rcases shared.rx.receive_cases with
    ⟨push, rest, -, hr⟩ | ⟨-, -, hr⟩ | ⟨-, -, hr⟩
  · cases hm : pushToMessage R push with
    | some msg =>
        simp only [pollReceiving, hr, hm, finish, Prod.mk.injEq] at h
        rw [← h.1]
        exact ⟨_, rfl, inv.release method hown⟩
    | none =>
        simp only [pollReceiving, hr, hm, Prod.mk.injEq] at h
        rw [← h.1]
        exact ⟨_, rfl, inv⟩
  · cases method with
    | getPubsubMessage =>
        simp only [pollReceiving, hr, Prod.mk.injEq] at h
        rw [← h.1]
        exact ⟨shared, hrx, inv⟩
    | tryGetPubsubMessage =>
        simp only [pollReceiving, hr, finish, Prod.mk.injEq] at h
        rw [← h.1]
        exact ⟨_, rfl, inv.release _ hown⟩
  · simp only [pollReceiving, hr, finish, Prod.mk.injEq] at h
    rw [← h.1]
    exact ⟨_, rfl, inv.release method hown⟩

/-- Every accepted input keeps the lock invariant. -/
theorem step_locked {s t : ClientState} {event : Event} {out : List Returned}
    (hs : Locked s) (h : step R s event = some (t, out)) : Locked t := by
  obtain ⟨shared, hrx, inv⟩ := hs
  cases event with
  | push info =>
      obtain ⟨shared', hrx', -, rfl, -⟩ := step_push_cases h
      obtain rfl : shared = shared' := Option.some.inj (hrx.symm.trans hrx')
      exact ⟨_, rfl, inv⟩
  | dropSender =>
      obtain ⟨shared', hrx', rfl, -⟩ := step_dropSender_cases h
      obtain rfl : shared = shared' := Option.some.inj (hrx.symm.trans hrx')
      exact ⟨_, rfl, inv⟩
  | call c method =>
      obtain ⟨-, rfl, -⟩ := step_call_cases h
      exact ⟨shared, hrx, inv.set_outside c method (by simp) (by simp)⟩
  | poll c =>
      obtain ⟨method, ⟨hc, hp⟩ | ⟨shared', hrx', hc, hp⟩ | ⟨shared', hrx', hc, hp⟩⟩ :=
        step_poll_cases h
      · simp only [pollCreated, hrx, pubsubRx, Prod.mk.injEq] at hp
        rw [← hp.1]
        exact ⟨_, rfl, inv.acquire c method⟩
      · obtain rfl : shared = shared' := Option.some.inj (hrx.symm.trans hrx')
        simp only [pollLocking] at hp
        split at hp
        · rename_i hown
          obtain ⟨rfl, -⟩ := Prod.mk.inj hp
          exact ⟨shared, hrx, inv.granted method hown⟩
        · obtain ⟨rfl, -⟩ := Prod.mk.inj hp
          exact ⟨shared, hrx, inv⟩
      · obtain rfl : shared = shared' := Option.some.inj (hrx.symm.trans hrx')
        exact pollReceiving_locked hrx inv hc hp
  | cancel c =>
      obtain ⟨call, hc, -, rfl, -⟩ := step_cancel_cases h
      cases hp : call.phase with
      | created =>
          simp only [Locked, dropCall, hp]
          exact ⟨shared, hrx, inv.set_outside c call.method (by simp) (by simp)⟩
      | locking | receiving | ended =>
          simp only [Locked, dropCall, hp, setCall, hrx, Option.map_some]
          exact ⟨_, rfl, inv.abandon c call.method⟩

theorem reachable_locked {s : ClientState}
    (h : Machine.Reachable (step R) (connected true) s) : Locked s := by
  obtain ⟨events, outs, hrun⟩ := h
  exact Machine.run_state_invariant Locked locked_connected
    (fun _ _ _ _ hs hstep => step_locked hs hstep) hrun

/-! ## Completing alone -/

variable (R) in
/-- What a try call returns when nobody else moves: the first buffered message,
or the answer of the drained queue. -/
def tryOutcome (ch : Channel PushInfo) : Result (Option PubSubMessage) :=
  match messages R ch.buffer with
  | msg :: _ => .ok (some msg)
  | [] => if ch.senderAlive then .ok none else .error channelClosed

/-- A try call that was made and has not returned. -/
def Pending (s : ClientState) (c : CallId) : Prop :=
  ∃ phase, s.calls c = some ⟨.tryGetPubsubMessage, phase⟩ ∧ phase ≠ .ended

variable (R) in
/-- The call returns after some polls of its own, with no other input in between. -/
def CompletesAlone (s : ClientState) (c : CallId) (r : Result (Option PubSubMessage)) : Prop :=
  Machine.FinishesAlone (step R) (fun event => event = .poll c) s (c, .tried r)

variable (R) in
/-- The call completes alone, and with `Ok(None)` when no message is buffered. -/
def NeverWaits (s : ClientState) (c : CallId) : Prop :=
  ∃ r, CompletesAlone R s c r ∧
    ∀ shared, s.pubsubRx = some shared → messages R shared.rx.buffer = [] → r = .ok none

/-- A silent poll of the call's own brings it closer to a solo completion. -/
theorem CompletesAlone.of_poll {s t : ClientState} {c : CallId}
    {r : Result (Option PubSubMessage)} (h : step R s (.poll c) = some (t, []))
    (ht : CompletesAlone R t c r) : CompletesAlone R s c r :=
  Machine.FinishesAlone.of_step rfl h ht

/-- A poll that returns the result completes the call. -/
theorem CompletesAlone.of_return {s t : ClientState} {c : CallId}
    {r : Result (Option PubSubMessage)} (h : step R s (.poll c) = some (t, [(c, .tried r)])) :
    CompletesAlone R s c r :=
  Machine.FinishesAlone.last rfl h List.mem_cons_self

theorem tryOutcome_skip {ch : Channel PushInfo} {push : PushInfo} {rest : List PushInfo}
    (hb : ch.buffer = push :: rest) (hm : pushToMessage R push = none) :
    tryOutcome R { ch with buffer := rest } = tryOutcome R ch := by
  simp only [tryOutcome, hb, messages_cons_none R hm]

theorem tryOutcome_message {ch : Channel PushInfo} {push : PushInfo} {rest : List PushInfo}
    {msg : PubSubMessage} (hb : ch.buffer = push :: rest)
    (hm : pushToMessage R push = some msg) : tryOutcome R ch = .ok (some msg) := by
  simp only [tryOutcome, hb, messages_cons_some R hm]

/-- One iteration of the try loop: either it returns the outcome of the queue,
or it skips one push without changing that outcome. -/
theorem pollReceiving_try (s : ClientState) (c : CallId) (shared : PushRx) :
    (∃ rest, rest.length < shared.rx.buffer.length ∧
      pollReceiving R s c .tryGetPubsubMessage shared =
        ({ s with pubsubRx := some { shared with rx := { shared.rx with buffer := rest } } },
          []) ∧
      tryOutcome R { shared.rx with buffer := rest } = tryOutcome R shared.rx) ∨
    (∃ shared', pollReceiving R s c .tryGetPubsubMessage shared =
      finish s c .tryGetPubsubMessage shared' (.tried (tryOutcome R shared.rx))) := by
  rcases shared.rx.receive_cases with
    ⟨push, rest, hb, hr⟩ | ⟨hb, hs, hr⟩ | ⟨hb, hs, hr⟩
  · cases hm : pushToMessage R push with
    | some msg =>
        right
        simp only [pollReceiving, hr, hm, tryOutcome_message hb hm, returnMessage]
        exact ⟨_, rfl⟩
    | none =>
        left
        refine ⟨rest, by simp [hb], ?_, tryOutcome_skip hb hm⟩
        simp only [pollReceiving, hr, hm]
  · right
    have hout : tryOutcome R shared.rx = .ok none := by simp [tryOutcome, messages, hb, hs]
    simp only [pollReceiving, hr, hout]
    exact ⟨_, rfl⟩
  · right
    have hout : tryOutcome R shared.rx = .error channelClosed := by
      simp [tryOutcome, messages, hb, hs]
    simp only [pollReceiving, hr, hout, returnError]
    exact ⟨_, rfl⟩

/-- Inside the loop, a try call drains pushes until it returns. -/
theorem receiving_completes {s : ClientState} {c : CallId} {rx : Channel PushInfo}
    {mutex : FairMutex CallId} (hrx : s.pubsubRx = some ⟨rx, mutex⟩)
    (hc : s.calls c = some ⟨.tryGetPubsubMessage, .receiving⟩) :
    CompletesAlone R s c (tryOutcome R rx) := by
  have hpoll (s : ClientState) (shared : PushRx) (hrx : s.pubsubRx = some shared)
      (hc : s.calls c = some ⟨.tryGetPubsubMessage, .receiving⟩) :
      step R s (.poll c) = some (pollReceiving R s c .tryGetPubsubMessage shared) := by
    simp only [step, hc, poll, hrx]
  -- induction on the number of buffered pushes, each poll taking one of them
  induction hn : rx.buffer.length using Nat.strongRecOn generalizing s rx with
  | ind n ih =>
      subst hn
      rcases pollReceiving_try (R := R) s c ⟨rx, mutex⟩ with
        ⟨rest, hlt, hstep, hout⟩ | ⟨shared', hstep⟩
      · apply CompletesAlone.of_poll
        · rw [hpoll s ⟨rx, mutex⟩ hrx hc, hstep]
        · rw [← hout]
          exact ih rest.length hlt rfl hc rfl
      · apply CompletesAlone.of_return
        rw [hpoll s ⟨rx, mutex⟩ hrx hc, hstep]
        rfl

/-- A pending try call that owns the mutex, or finds it free, completes alone. -/
theorem completes_of_available {s : ClientState} {c : CallId} {shared : PushRx}
    (hrx : s.pubsubRx = some shared) (inv : LockInv shared.mutex s.calls)
    (hp : Pending s c) (hm : shared.mutex.holder = none ∨ shared.mutex.holder = some c) :
    CompletesAlone R s c (tryOutcome R shared.rx) := by
  obtain ⟨phase, hc, hended⟩ := hp
  -- the lock future is ready: the next poll enters the loop
  have hgranted {s : ClientState} {rx : Channel PushInfo} {mutex : FairMutex CallId}
      (hrx : s.pubsubRx = some ⟨rx, mutex⟩)
      (hc : s.calls c = some ⟨.tryGetPubsubMessage, .locking⟩)
      (hown : mutex.holder = some c) : CompletesAlone R s c (tryOutcome R rx) := by
    have hstep : step R s (.poll c) =
        some (setCall s c ⟨.tryGetPubsubMessage, .receiving⟩, []) := by
      simp only [step, hc, poll, hrx, pollLocking, if_pos hown]
    exact .of_poll hstep (receiving_completes hrx (Function.update_self ..))
  cases phase with
  | created =>
      have hstep : step R s (.poll c) = some (setCall
          { s with pubsubRx := some { shared with mutex := shared.mutex.acquire c } } c
          ⟨.tryGetPubsubMessage,
            if shared.mutex.holder = none then .receiving else .locking⟩, []) := by
        simp only [step, hc, poll, pollCreated, hrx, pubsubRx]
      apply CompletesAlone.of_poll hstep
      rcases hm with hfree | hown
      · rw [if_pos hfree]
        exact receiving_completes rfl (Function.update_self ..)
      · rw [if_neg (by rw [hown]; simp)]
        exact hgranted rfl (Function.update_self ..) (FairMutex.acquire_of_held c hown).1
  | locking =>
      rcases hm with hfree | hown
      · rcases inv.locking c _ hc with hheld | hwait
        · rw [hfree] at hheld
          cases hheld
        · exact absurd hfree (FairMutex.holder_of_waiting hwait)
      · exact hgranted hrx hc hown
  | receiving => exact receiving_completes hrx hc
  | ended => exact absurd rfl hended

/-- A pending call outside the loop never returns by its own polls while
somebody else owns the mutex. -/
theorem not_completes_of_held {s : ClientState} {c d : CallId} {shared : PushRx}
    (hrx : s.pubsubRx = some shared) (inv : LockInv shared.mutex s.calls)
    (hp : Pending s c) (hd : shared.mutex.holder = some d) (hne : d ≠ c)
    (r : Result (Option PubSubMessage)) : ¬ CompletesAlone R s c r := by
  -- own polls only ever join the queue, and leave the owner in place
  let Stuck (s : ClientState) : Prop := ∃ shared phase, s.pubsubRx = some shared ∧
    shared.mutex.holder = some d ∧ s.calls c = some ⟨.tryGetPubsubMessage, phase⟩ ∧
    (phase = .created ∨ phase = .locking)
  have hstuck : ∀ s event t out, Stuck s → event = .poll c →
      step R s event = some (t, out) → Stuck t ∧ out = [] := by
    rintro s event t out ⟨shared, phase, hrx, hd, hc, hphase⟩ rfl hstep
    rcases hphase with rfl | rfl
    · simp only [step, hc, poll, pollCreated, hrx, pubsubRx, hd, reduceCtorEq, if_false,
        Option.some.injEq, Prod.mk.injEq] at hstep
      obtain ⟨rfl, rfl⟩ := hstep
      exact ⟨⟨_, _, rfl, (FairMutex.acquire_of_held c hd).1, Function.update_self ..,
        Or.inr rfl⟩, rfl⟩
    · have hnot : ¬ shared.mutex.holder = some c := by
        rw [hd]
        simpa using hne
      simp only [step, hc, poll, hrx, pollLocking, if_neg hnot, Option.some.injEq,
        Prod.mk.injEq] at hstep
      obtain ⟨rfl, rfl⟩ := hstep
      exact ⟨⟨shared, _, hrx, hd, hc, Or.inr rfl⟩, rfl⟩
  apply Machine.not_finishesAlone Stuck hstuck
  obtain ⟨phase, hc, hended⟩ := hp
  refine ⟨shared, phase, hrx, hd, hc, ?_⟩
  cases phase with
  | created => exact Or.inl rfl
  | locking => exact Or.inr rfl
  | receiving =>
      have hown := inv.receiving c _ hc
      rw [hd] at hown
      exact absurd (Option.some.inj hown) hne
  | ended => exact absurd rfl hended

/-- A solo completion returns the outcome of the queue and nothing else. -/
theorem completes_eq {s : ClientState} {c : CallId} {shared : PushRx}
    (hrx : s.pubsubRx = some shared) (hp : Pending s c)
    {r : Result (Option PubSubMessage)} (h : CompletesAlone R s c r) :
    r = tryOutcome R shared.rx := by
  let outcome := tryOutcome R shared.rx
  let Live (s : ClientState) : Prop := ∃ shared, s.pubsubRx = some shared ∧ Pending s c ∧
    tryOutcome R shared.rx = outcome
  let Ended (s : ClientState) : Prop := ∃ method, s.calls c = some ⟨method, .ended⟩
  have hlive : ∀ s event t out, Live s → event = .poll c → step R s event = some (t, out) →
      (Live t ∧ out = []) ∨ (Ended t ∧ out = [(c, .tried outcome)]) := by
    rintro s event t out ⟨shared, hrx, ⟨phase, hc, hended⟩, hout⟩ rfl hstep
    cases phase with
    | created =>
        simp only [step, hc, poll, pollCreated, hrx, pubsubRx, Option.some.injEq,
          Prod.mk.injEq] at hstep
        obtain ⟨rfl, rfl⟩ := hstep
        refine Or.inl ⟨⟨_, rfl, ⟨_, Function.update_self .., ?_⟩, hout⟩, rfl⟩
        split <;> simp
    | locking =>
        simp only [step, hc, poll, hrx, pollLocking] at hstep
        split at hstep
        · simp only [Option.some.injEq, Prod.mk.injEq] at hstep
          obtain ⟨rfl, rfl⟩ := hstep
          exact Or.inl ⟨⟨shared, hrx, ⟨_, Function.update_self .., by simp⟩, hout⟩, rfl⟩
        · simp only [Option.some.injEq, Prod.mk.injEq] at hstep
          obtain ⟨rfl, rfl⟩ := hstep
          exact Or.inl ⟨⟨shared, hrx, ⟨_, hc, hended⟩, hout⟩, rfl⟩
    | receiving =>
        simp only [step, hc, poll, hrx, Option.some.injEq] at hstep
        rcases pollReceiving_try (R := R) s c shared with
          ⟨rest, -, hpoll, hskip⟩ | ⟨shared', hpoll⟩
        · rw [hpoll, Prod.mk.injEq] at hstep
          obtain ⟨rfl, rfl⟩ := hstep
          exact Or.inl ⟨⟨_, rfl, ⟨_, hc, hended⟩, hskip.trans hout⟩, rfl⟩
        · rw [hpoll, finish, Prod.mk.injEq, hout] at hstep
          obtain ⟨rfl, rfl⟩ := hstep
          exact Or.inr ⟨⟨_, Function.update_self ..⟩, rfl⟩
    | ended => exact absurd rfl hended
  have hended : ∀ s event, Ended s → event = .poll c → step R s event = none := by
    rintro s event ⟨method, hc⟩ rfl
    simp only [step, hc, poll]
  have heq := Machine.FinishesAlone.eq Live Ended (c, .tried outcome) hlive hended
    ⟨shared, hrx, hp, rfl⟩ h
  simpa using heq

/-- In every reachable state, a pending try call never waits exactly when no
other call owns the mutex and the queue is not both drained and closed. With
the mutex at hand it completes alone with the outcome of the queue: the first
message, `Ok(None)`, or the closed channel. -/
theorem tryGet_neverWaits_iff (R : RedisCrate) {s : ClientState} {c : CallId}
    (hs : Machine.Reachable (step R) (connected true) s) (hp : Pending s c) :
    ∃ shared, s.pubsubRx = some shared ∧
      (NeverWaits R s c ↔
        (shared.mutex.holder = none ∨ shared.mutex.holder = some c) ∧
        (shared.rx.senderAlive = true ∨ messages R shared.rx.buffer ≠ [])) ∧
      (shared.mutex.holder = none ∨ shared.mutex.holder = some c →
        CompletesAlone R s c (tryOutcome R shared.rx)) := by
  obtain ⟨shared, hrx, inv⟩ := reachable_locked hs
  refine ⟨shared, hrx, ?_, completes_of_available hrx inv hp⟩
  constructor
  · rintro ⟨r, hr, hnone⟩
    constructor
    · cases hm : shared.mutex.holder with
      | none => exact Or.inl rfl
      | some d =>
          right
          by_contra hne
          have hdc : d ≠ c := by
            rintro rfl
            exact hne rfl
          exact not_completes_of_held hrx inv hp hm hdc r hr
    · by_contra hcon
      have hgone : shared.rx.senderAlive = false := by
        simpa using fun h => hcon (Or.inl h)
      have hempty : messages R shared.rx.buffer = [] := by
        by_contra h
        exact hcon (Or.inr h)
      have hout := completes_eq hrx hp hr
      rw [hnone shared hrx hempty] at hout
      simp [tryOutcome, hempty, hgone] at hout
  · rintro ⟨hm, hq⟩
    refine ⟨_, completes_of_available hrx inv hp hm, ?_⟩
    intro shared' hrx' hempty
    obtain rfl : shared = shared' := Option.some.inj (hrx.symm.trans hrx')
    have halive : shared.rx.senderAlive = true := by
      rcases hq with h | h
      · exact h
      · exact absurd hempty h
    simp [tryOutcome, hempty, halive]

/-- A waiting reader takes the mutex, and a try call queues behind it. -/
def behindReader : List Event :=
  [.call 0 .getPubsubMessage, .poll 0, .call 1 .tryGetPubsubMessage, .poll 1]

/-- A lone try call, before its first poll. -/
theorem tryGet_neverWaits_alone :
    ∃ s, Machine.Reachable (step .stringsOnly) (connected true) s ∧ Pending s 1 ∧
      NeverWaits .stringsOnly s 1 := by
  have hrun : ∃ s outs, Machine.run (step .stringsOnly) (connected true)
      [.call 1 .tryGetPubsubMessage] = some (s, outs) ∧ Pending s 1 ∧
      s.pubsubRx = some ⟨Channel.new, FairMutex.new⟩ :=
    ⟨_, _, rfl, ⟨.created, rfl, by simp⟩, rfl⟩
  obtain ⟨s, outs, hr, hp, hrx⟩ := hrun
  have hs : Machine.Reachable (step .stringsOnly) (connected true) s := ⟨_, outs, hr⟩
  obtain ⟨shared, hrx', hiff, -⟩ := tryGet_neverWaits_iff .stringsOnly hs hp
  obtain rfl := Option.some.inj (hrx.symm.trans hrx')
  exact ⟨s, hs, hp, hiff.mpr ⟨Or.inl rfl, Or.inl rfl⟩⟩

/-- Behind a suspended `get_pubsub_message` the try call cannot return, although
the channel is open and empty. -/
theorem tryGet_waits_behind_reader :
    ¬ ∀ s c, Machine.Reachable (step .stringsOnly) (connected true) s → Pending s c →
      NeverWaits .stringsOnly s c := by
  intro hall
  have hrun : ∃ s outs shared, Machine.run (step .stringsOnly) (connected true)
      behindReader = some (s, outs) ∧ Pending s 1 ∧ s.pubsubRx = some shared ∧
      shared.mutex.holder = some 0 :=
    ⟨_, _, _, rfl, ⟨.locking, rfl, by simp⟩, rfl, rfl⟩
  obtain ⟨s, outs, shared, hr, hp, hrx, hown⟩ := hrun
  have hs : Machine.Reachable (step .stringsOnly) (connected true) s := ⟨_, outs, hr⟩
  obtain ⟨shared', hrx', inv⟩ := reachable_locked hs
  obtain rfl : shared = shared' := Option.some.inj (hrx.symm.trans hrx')
  obtain ⟨r, hc, -⟩ := hall s 1 hs hp
  exact not_completes_of_held hrx inv hp hown (by decide) r hc

end GlideRust.Client.TryReceive

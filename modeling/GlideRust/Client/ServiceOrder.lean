import GlideRust.Client.Delivery
import GlideRust.Client.TryReceive

/-!
# The order in which waiting calls are served

Calls that have been polled stand in one line at the receiver's mutex. A call
joins the line at its end, and only the call at the front can return. From this
follow the order of service, that a buffered message never stays behind while a
call is pending, and that a closed channel is reported for good.

## Implementation notes

The line is the holder of the mutex followed by its waiters. Everything below is
read off four kinds of moves of that line; the queue of pushes enters only where
a result is looked at.
-/

namespace GlideRust.Client.ServiceOrder

open Redis Error Lib AsyncPrimitives Push
open TryReceive (LockInv Locked reachable_locked step_locked locked_connected)

variable {R : RedisCrate}

/-! ## The line -/

/-- A call that has asked for the mutex and is not over. -/
def Joined (calls : CallId → Option Call) (c : CallId) : Prop :=
  ∃ method phase, calls c = some ⟨method, phase⟩ ∧ (phase = .locking ∨ phase = .receiving)

/-- A call that has returned or was dropped. -/
def Over (calls : CallId → Option Call) (c : CallId) : Prop :=
  ∃ method, calls c = some ⟨method, .ended⟩

section Update

variable {calls : CallId → Option Call} {c : CallId} {method : Method} {phase : Phase}

theorem joined_iff (hc : calls c = some ⟨method, phase⟩) :
    Joined calls c ↔ phase = .locking ∨ phase = .receiving := by
  constructor
  · rintro ⟨method', phase', hc', hphase⟩
    rw [hc, Option.some.injEq, Call.mk.injEq] at hc'
    rw [hc'.2]
    exact hphase
  · intro hphase
    exact ⟨method, phase, hc, hphase⟩

theorem joined_update_self :
    Joined (Function.update calls c (some ⟨method, phase⟩)) c ↔
      phase = .locking ∨ phase = .receiving :=
  joined_iff (Function.update_self ..)

theorem joined_update_of_ne {d : CallId} (hne : d ≠ c) :
    Joined (Function.update calls c (some ⟨method, phase⟩)) d ↔ Joined calls d := by
  simp only [Joined, Function.update_of_ne hne]

end Update

/-- The line holds the calls that have joined, each once. -/
structure Lined (line : List CallId) (calls : CallId → Option Call) : Prop where
  nodup : line.Nodup
  mem_iff : ∀ c, c ∈ line ↔ Joined calls c

/-- What an accepted input does to the line: a call joins at the end, the front
returns, a call is taken out, or the line stays as it is. -/
inductive LineMove (line : List CallId) (calls : CallId → Option Call) :
    List CallId → (CallId → Option Call) → List Returned → Prop
  | join {c : CallId} {method : Method} {phase : Phase}
      (created : calls c = some ⟨method, .created⟩)
      (waits : phase = .locking ∨ phase = .receiving) :
      LineMove line calls (line ++ [c]) (Function.update calls c (some ⟨method, phase⟩)) []
  | serve {c : CallId} {method : Method} {rest : List CallId} (r : CallResult)
      (front : line = c :: rest) :
      LineMove line calls rest (Function.update calls c (some ⟨method, .ended⟩)) [(c, r)]
  | leave (c : CallId) (method : Method) :
      LineMove line calls (line.filter (· ≠ c))
        (Function.update calls c (some ⟨method, .ended⟩)) []
  | stay {calls' : CallId → Option Call} (same : ∀ d, Joined calls' d ↔ Joined calls d) :
      LineMove line calls line calls' []

namespace LineMove

variable {line line' : List CallId} {calls calls' : CallId → Option Call} {out : List Returned}

/-- A call whose phase does not change between waiting and not waiting. -/
theorem stay_update {c : CallId} {method : Method} {phase : Phase}
    (h : Joined calls c ↔ phase = .locking ∨ phase = .receiving) :
    LineMove line calls line (Function.update calls c (some ⟨method, phase⟩)) [] := by
  apply stay
  intro d
  by_cases hd : d = c
  · rw [hd, joined_update_self, h]
  · exact joined_update_of_ne hd

theorem lined (h : LineMove line calls line' calls' out) (inv : Lined line calls) :
    Lined line' calls' := by
  cases h with
  | @join c method phase created waits =>
      have hout : c ∉ line := by
        rw [inv.mem_iff c, joined_iff created]
        simp
      constructor
      · rw [List.nodup_append]
        refine ⟨inv.nodup, by simp, ?_⟩
        intro d hd e he
        rw [List.mem_singleton.mp he]
        exact ne_of_mem_of_not_mem hd hout
      · intro d
        rw [List.mem_append, List.mem_singleton]
        by_cases hd : d = c
        · rw [hd, joined_update_self]
          exact iff_of_true (Or.inr rfl) waits
        · rw [joined_update_of_ne hd, inv.mem_iff d]
          simp [hd]
  | @serve c method rest r front =>
      rw [front] at inv
      have hnodup := List.nodup_cons.mp inv.nodup
      refine ⟨hnodup.2, ?_⟩
      intro d
      by_cases hd : d = c
      · rw [hd, joined_update_self]
        exact iff_of_false hnodup.1 (by simp)
      · rw [joined_update_of_ne hd, ← inv.mem_iff d, List.mem_cons]
        simp [hd]
  | leave c method =>
      refine ⟨inv.nodup.filter _, ?_⟩
      intro d
      rw [List.mem_filter, decide_eq_true_eq]
      by_cases hd : d = c
      · rw [hd, joined_update_self]
        simp
      · rw [joined_update_of_ne hd, inv.mem_iff d]
        simp [hd]
  | stay same =>
      refine ⟨inv.nodup, ?_⟩
      intro d
      rw [same d, inv.mem_iff d]

end LineMove

/-! ## Every input is a move of the line -/

theorem pollCreated_line {s t : ClientState} {shared : PushRx} {c : CallId} {method : Method}
    {out : List Returned} (hrx : s.pubsubRx = some shared)
    (hc : s.calls c = some ⟨method, .created⟩) (h : pollCreated s c method = (t, out)) :
    ∃ shared', t.pubsubRx = some shared' ∧
      LineMove shared.mutex.line s.calls shared'.mutex.line t.calls out := by
  simp only [pollCreated, hrx, pubsubRx, setCall, Prod.mk.injEq] at h
  obtain ⟨rfl, rfl⟩ := h
  refine ⟨_, rfl, ?_⟩
  rw [FairMutex.line_acquire]
  apply LineMove.join hc
  split
  · exact Or.inr rfl
  · exact Or.inl rfl

theorem pollLocking_line {s t : ClientState} {shared : PushRx} {c : CallId} {method : Method}
    {out : List Returned} (hrx : s.pubsubRx = some shared)
    (hc : s.calls c = some ⟨method, .locking⟩) (h : pollLocking s c method shared = (t, out)) :
    ∃ shared', t.pubsubRx = some shared' ∧
      LineMove shared.mutex.line s.calls shared'.mutex.line t.calls out := by
  simp only [pollLocking] at h
  split at h
  · simp only [setCall, Prod.mk.injEq] at h
    obtain ⟨rfl, rfl⟩ := h
    refine ⟨shared, hrx, LineMove.stay_update ?_⟩
    exact iff_of_true ⟨method, .locking, hc, Or.inl rfl⟩ (Or.inr rfl)
  · simp only [Prod.mk.injEq] at h
    obtain ⟨rfl, rfl⟩ := h
    exact ⟨shared, hrx, LineMove.stay fun d => Iff.rfl⟩

/-- The call that returns is the holder of the mutex, and its release serves the front. -/
theorem finish_line (s : ClientState) {shared shared' : PushRx} {c : CallId} (method : Method)
    (hown : shared.mutex.holder = some c) (hmutex : shared'.mutex = shared.mutex)
    (r : CallResult) :
    ∃ shared'', (finish s c method shared' r).1.pubsubRx = some shared'' ∧
      LineMove shared.mutex.line s.calls shared''.mutex.line
        (finish s c method shared' r).1.calls (finish s c method shared' r).2 := by
  refine ⟨_, rfl, ?_⟩
  simp only [finish, setCall, hmutex, FairMutex.line_release]
  apply LineMove.serve
  rw [FairMutex.line_of_held hown, List.tail_cons]

theorem pollReceiving_line {s t : ClientState} {shared : PushRx} {c : CallId} {method : Method}
    {out : List Returned} (hrx : s.pubsubRx = some shared)
    (hown : shared.mutex.holder = some c) (h : pollReceiving R s c method shared = (t, out)) :
    ∃ shared', t.pubsubRx = some shared' ∧
      LineMove shared.mutex.line s.calls shared'.mutex.line t.calls out := by
  rcases shared.rx.receive_cases with
    ⟨push, rest, -, hr⟩ | ⟨-, -, hr⟩ | ⟨-, -, hr⟩
  · cases hm : pushToMessage R push with
    | some msg =>
        simp only [pollReceiving, hr, hm] at h
        have hmutex : { shared with rx := { shared.rx with buffer := rest } }.mutex =
            shared.mutex := rfl
        have hline := finish_line s method hown hmutex (returnMessage msg method)
        rw [h] at hline
        exact hline
    | none =>
        simp only [pollReceiving, hr, hm, Prod.mk.injEq] at h
        obtain ⟨rfl, rfl⟩ := h
        exact ⟨_, rfl, LineMove.stay fun d => Iff.rfl⟩
  · cases method with
    | getPubsubMessage =>
        simp only [pollReceiving, hr, Prod.mk.injEq] at h
        obtain ⟨rfl, rfl⟩ := h
        exact ⟨shared, hrx, LineMove.stay fun d => Iff.rfl⟩
    | tryGetPubsubMessage =>
        simp only [pollReceiving, hr] at h
        have hline := finish_line s .tryGetPubsubMessage hown rfl (.tried (.ok none))
        rw [h] at hline
        exact hline
  · simp only [pollReceiving, hr] at h
    have hline := finish_line s method hown rfl (returnError channelClosed method)
    rw [h] at hline
    exact hline

theorem dropCall_line {s : ClientState} {shared : PushRx} {c : CallId} {call : Call}
    (hrx : s.pubsubRx = some shared) (hc : s.calls c = some call)
    (inv : Lined shared.mutex.line s.calls) :
    ∃ shared', (dropCall s c call).pubsubRx = some shared' ∧
      LineMove shared.mutex.line s.calls shared'.mutex.line (dropCall s c call).calls [] := by
  rw [dropCall_calls]
  have hmutex : (∃ phase, call.phase = phase ∧ phase ≠ .created) →
      (dropCall s c call).pubsubRx = some { shared with mutex := shared.mutex.abandon c } := by
    rintro ⟨phase, rfl, hphase⟩
    unfold dropCall
    split
    · exact absurd (by assumption) hphase
    · simp only [setCall, hrx, Option.map_some]
  cases hp : call.phase with
  | created =>
      refine ⟨shared, ?_, LineMove.stay_update ?_⟩
      · simp only [dropCall, hp, setCall, hrx]
      · rw [joined_iff hc, hp]
        simp
  | locking | receiving | ended =>
      refine ⟨_, hmutex ⟨_, hp, by simp⟩, ?_⟩
      rw [FairMutex.line_abandon inv.nodup]
      exact LineMove.leave c call.method

/-- Every accepted input moves the line in one of the four ways. -/
theorem step_line {s t : ClientState} {shared : PushRx} {event : Event} {out : List Returned}
    (hrx : s.pubsubRx = some shared) (lock : LockInv shared.mutex s.calls)
    (inv : Lined shared.mutex.line s.calls) (h : step R s event = some (t, out)) :
    ∃ shared', t.pubsubRx = some shared' ∧
      LineMove shared.mutex.line s.calls shared'.mutex.line t.calls out := by
  cases event with
  | push info =>
      obtain ⟨shared', hrx', -, rfl, rfl⟩ := step_push_cases h
      obtain rfl : shared = shared' := Option.some.inj (hrx.symm.trans hrx')
      exact ⟨_, rfl, LineMove.stay fun d => Iff.rfl⟩
  | dropSender =>
      obtain ⟨shared', hrx', rfl, rfl⟩ := step_dropSender_cases h
      obtain rfl : shared = shared' := Option.some.inj (hrx.symm.trans hrx')
      exact ⟨_, rfl, LineMove.stay fun d => Iff.rfl⟩
  | call c method =>
      obtain ⟨hfree, rfl, rfl⟩ := step_call_cases h
      refine ⟨shared, hrx, LineMove.stay_update ?_⟩
      refine iff_of_false ?_ (by simp)
      rintro ⟨method', phase', hphase, -⟩
      rw [hfree] at hphase
      cases hphase
  | poll c =>
      obtain ⟨method, ⟨hc, hp⟩ | ⟨shared', hrx', hc, hp⟩ | ⟨shared', hrx', hc, hp⟩⟩ :=
        step_poll_cases h
      · exact pollCreated_line hrx hc hp
      · obtain rfl : shared = shared' := Option.some.inj (hrx.symm.trans hrx')
        exact pollLocking_line hrx hc hp
      · obtain rfl : shared = shared' := Option.some.inj (hrx.symm.trans hrx')
        exact pollReceiving_line hrx (lock.receiving c method hc) hp
  | cancel c =>
      obtain ⟨call, hc, -, rfl, rfl⟩ := step_cancel_cases h
      exact dropCall_line hrx hc inv

/-- The invariant of a client with a push channel: who stands in the line. -/
def Standing (s : ClientState) : Prop :=
  ∃ shared, s.pubsubRx = some shared ∧ LockInv shared.mutex s.calls ∧
    Lined shared.mutex.line s.calls

theorem standing_connected : Standing (connected true) := by
  obtain ⟨shared, hrx, lock⟩ := locked_connected
  refine ⟨shared, hrx, lock, ?_⟩
  obtain rfl : shared = ⟨Channel.new, FairMutex.new⟩ := (Option.some.inj hrx).symm
  refine ⟨List.nodup_nil, ?_⟩
  intro c
  refine iff_of_false List.not_mem_nil ?_
  rintro ⟨method, phase, hc, -⟩
  cases hc

theorem step_standing {s t : ClientState} {event : Event} {out : List Returned}
    (hs : Standing s) (h : step R s event = some (t, out)) : Standing t := by
  obtain ⟨shared, hrx, lock, inv⟩ := hs
  obtain ⟨shared', hrx', hmove⟩ := step_line hrx lock inv h
  obtain ⟨shared'', hrx'', lock'⟩ := step_locked ⟨shared, hrx, lock⟩ h
  obtain rfl : shared' = shared'' := Option.some.inj (hrx'.symm.trans hrx'')
  exact ⟨shared', hrx', lock', hmove.lined inv⟩

theorem reachable_standing {s : ClientState}
    (h : Machine.Reachable (step R) (connected true) s) : Standing s := by
  obtain ⟨events, outs, hrun⟩ := h
  exact Machine.run_state_invariant Standing standing_connected
    (fun _ _ _ _ hs hstep => step_standing hs hstep) hrun

/-! ## First come, first served -/

/-- One call is over, or it stands in the line and the other one not before it. -/
def Ahead (line : List CallId) (calls : CallId → Option Call) (c d : CallId) : Prop :=
  Over calls c ∨ c ∈ line ∧ (d ∉ line ∨ List.Sublist [c, d] line)

/-- A call behind another one is not at the front. -/
theorem not_front_of_sublist {c d : CallId} {rest : List CallId} (hnodup : (d :: rest).Nodup)
    (hne : c ≠ d) : ¬ List.Sublist [c, d] (d :: rest) := by
  intro hsub
  have hrest : List.Sublist [c, d] rest := by
    cases hsub with
    | cons _ hsub => exact hsub
    | cons_cons => exact absurd rfl hne
  exact (List.nodup_cons.mp hnodup).1 (hrest.subset (by simp))

namespace LineMove

variable {line line' : List CallId} {calls calls' : CallId → Option Call} {out : List Returned}
variable {c d : CallId}

/-- A move that does not end the first call keeps it ahead. -/
theorem ahead (h : LineMove line calls line' calls' out) (inv : Lined line calls)
    (hin : c ∈ line) (hafter : d ∉ line ∨ List.Sublist [c, d] line) (hne : c ≠ d) :
    Ahead line' calls' c d ∧ ∀ r, (d, r) ∉ out := by
  cases h with
  | @join e method phase created waits =>
      refine ⟨Or.inr ⟨List.mem_append_left _ hin, ?_⟩, by simp⟩
      rcases hafter with hnot | hsub
      · by_cases he : d = e
        · right
          rw [← he]
          exact (List.singleton_sublist.mpr hin).append (List.Sublist.refl [d])
        · left
          simp [hnot, he]
      · exact Or.inr (hsub.trans (List.sublist_append_left _ _))
  | @serve e method rest r front =>
      subst front
      have hfront : d ≠ e := by
        rintro rfl
        rcases hafter with hnot | hsub
        · exact hnot List.mem_cons_self
        · exact not_front_of_sublist inv.nodup hne hsub
      refine ⟨?_, by simp [hfront]⟩
      rcases List.mem_cons.mp hin with rfl | hrest
      · exact Or.inl ⟨method, Function.update_self ..⟩
      · refine Or.inr ⟨hrest, ?_⟩
        rcases hafter with hnot | hsub
        · exact Or.inl fun hd => hnot (List.mem_cons_of_mem e hd)
        · right
          cases hsub with
          | cons _ hsub => exact hsub
          | cons_cons _ hsub =>
              -- the front is the first call itself, which stands only once in the line
              exact absurd hrest (List.nodup_cons.mp inv.nodup).1
  | leave e method =>
      refine ⟨?_, by simp⟩
      by_cases he : c = e
      · rw [he]
        exact Or.inl ⟨method, Function.update_self ..⟩
      · refine Or.inr ⟨by simp [hin, he], ?_⟩
        by_cases hd : d = e
        · left
          simp [hd]
        · rcases hafter with hnot | hsub
          · exact Or.inl fun hmem => hnot (List.mem_of_mem_filter hmem)
          · right
            have hboth : [c, d].filter (· ≠ e) = [c, d] := by simp [he, hd]
            rw [← hboth]
            exact hsub.filter _
  | stay same => exact ⟨Or.inr ⟨hin, hafter⟩, by simp⟩

end LineMove

/-- Calls are served in the order in which they asked for the receiver. Once a
call has been polled, no call that has not been polled by then returns before the
first one is over, whatever is pushed, polled, started or dropped in between. -/
theorem first_come_first_served {events later : List Event} {s t : ClientState}
    {outs₀ outs : List Returned} {c d : CallId} {r : CallResult}
    (hrun : Machine.run (step R) (connected true) events = some (s, outs₀))
    (hc : Joined s.calls c) (hd : ¬ Joined s.calls d)
    (hlater : Machine.run (step R) s later = some (t, outs)) (hreturned : (d, r) ∈ outs) :
    ∃ earlier rest u outs', later = earlier ++ rest ∧
      Machine.run (step R) s earlier = some (u, outs') ∧ Over u.calls c ∧
      ∀ r', (d, r') ∉ outs' := by
  have hne : c ≠ d := by
    rintro rfl
    exact hd hc
  obtain ⟨shared, hrx, lock, inv⟩ := reachable_standing ⟨events, outs₀, hrun⟩
  have hahead : Ahead shared.mutex.line s.calls c d :=
    Or.inr ⟨(inv.mem_iff c).mpr hc, Or.inl fun hin => hd ((inv.mem_iff d).mp hin)⟩
  clear hrun hc hd
  -- induction on the later inputs, as long as the first call stands in the line
  induction later generalizing s outs shared with
  | nil =>
      cases hlater
      exact absurd hreturned List.not_mem_nil
  | cons event rest ih =>
      rcases hahead with hover | ⟨hin, hafter⟩
      · exact ⟨[], event :: rest, s, [], rfl, rfl, hover, fun _ => List.not_mem_nil⟩
      · obtain ⟨mid, out, outs', hstep, hrest, rfl⟩ := Machine.run_cons_eq_some.mp hlater
        obtain ⟨shared', hrx', hmove⟩ := step_line hrx lock inv hstep
        obtain ⟨hahead', hsilent⟩ := hmove.ahead inv hin hafter hne
        obtain ⟨shared'', hrx'', lock', inv'⟩ := step_standing ⟨shared, hrx, lock, inv⟩ hstep
        obtain rfl : shared' = shared'' := Option.some.inj (hrx'.symm.trans hrx'')
        have hreturned' : (d, r) ∈ outs' := by
          rcases List.mem_append.mp hreturned with hnow | hthen
          · exact absurd hnow (hsilent r)
          · exact hthen
        obtain ⟨earlier, rest', u, outs'', rfl, hearlier, hover, hnone⟩ :=
          ih hrest hreturned' shared' hrx' lock' inv' hahead'
        refine ⟨event :: earlier, rest', u, out ++ outs'', rfl,
          Machine.run_cons_eq_some.mpr ⟨mid, out, outs'', hstep, hearlier, rfl⟩, hover, ?_⟩
        intro r' hmem
        rcases List.mem_append.mp hmem with hnow | hthen
        · exact hsilent r' hnow
        · exact hnone r' hthen

/-- Two readers: the first one waits for the receiver before the second is polled. -/
def twoReaders : List Event :=
  [.call 0 .getPubsubMessage, .poll 0, .call 1 .getPubsubMessage]

/-- Two messages, polled for by the second reader first. -/
def twoMessages : List Event :=
  [.poll 1, .push ⟨.message, [.bulkString [99], .bulkString [49]]⟩,
    .push ⟨.message, [.bulkString [99], .bulkString [50]]⟩, .poll 1, .poll 0, .poll 1, .poll 1]

theorem first_come_first_served_readers :
    ∃ s t earlier rest u outs',
      Machine.run (step .stringsOnly) (connected true) twoReaders = some (s, []) ∧
      Machine.run (step .stringsOnly) s twoMessages =
        some (t, [(0, .got (.ok ⟨.message, [99], [49], none⟩)),
          (1, .got (.ok ⟨.message, [99], [50], none⟩))]) ∧
      twoMessages = earlier ++ rest ∧
      Machine.run (step .stringsOnly) s earlier = some (u, outs') ∧ Over u.calls 0 ∧
      ∀ r', (1, r') ∉ outs' := by
  have hruns : ∃ s t, Machine.run (step .stringsOnly) (connected true) twoReaders = some (s, []) ∧
      s.calls 0 = some ⟨.getPubsubMessage, .receiving⟩ ∧
      s.calls 1 = some ⟨.getPubsubMessage, .created⟩ ∧
      Machine.run (step .stringsOnly) s twoMessages =
        some (t, [(0, .got (.ok ⟨.message, [99], [49], none⟩)),
          (1, .got (.ok ⟨.message, [99], [50], none⟩))]) :=
    ⟨_, _, rfl, rfl, rfl, rfl⟩
  obtain ⟨s, t, hrun, hfirst, hsecond, hlater⟩ := hruns
  have hjoined : Joined s.calls 0 := ⟨_, _, hfirst, Or.inr rfl⟩
  have hcreated : ¬ Joined s.calls 1 := by
    rw [joined_iff hsecond]
    simp
  obtain ⟨earlier, rest, u, outs', hsplit, hearlier, hover, hnone⟩ :=
    first_come_first_served hrun hjoined hcreated hlater (List.mem_cons_of_mem _ List.mem_cons_self)
  exact ⟨s, t, earlier, rest, u, outs', hrun, hlater, hsplit, hearlier, hover, hnone⟩

/-! ## Calls that return by their own polls -/

variable (R) in
/-- What a call at the front of the line returns without any other input: the
first buffered message or the answer of the drained queue, if there is one. -/
def readyResult (method : Method) (ch : Channel PushInfo) : Option CallResult :=
  match messages R ch.buffer with
  | msg :: _ => some (returnMessage msg method)
  | [] =>
      if ch.senderAlive then
        match method with
        | .getPubsubMessage => none
        | .tryGetPubsubMessage => some (.tried (.ok none))
      else some (returnError channelClosed method)

theorem readyResult_skip {ch : Channel PushInfo} {push : PushInfo} {rest : List PushInfo}
    (hb : ch.buffer = push :: rest) (hm : pushToMessage R push = none) (method : Method) :
    readyResult R method { ch with buffer := rest } = readyResult R method ch := by
  simp only [readyResult, hb, messages_cons_none R hm]

theorem readyResult_message {ch : Channel PushInfo} {push : PushInfo} {rest : List PushInfo}
    {msg : PubSubMessage} (hb : ch.buffer = push :: rest)
    (hm : pushToMessage R push = some msg) (method : Method) :
    readyResult R method ch = some (returnMessage msg method) := by
  simp only [readyResult, hb, messages_cons_some R hm]

theorem readyResult_drained {ch : Channel PushInfo} (hb : ch.buffer = [])
    (hs : ch.senderAlive = true) :
    readyResult R .getPubsubMessage ch = none ∧
      readyResult R .tryGetPubsubMessage ch = some (.tried (.ok none)) := by
  simp [readyResult, messages, hb, hs]

theorem readyResult_closed {ch : Channel PushInfo} (hb : ch.buffer = [])
    (hs : ch.senderAlive = false) (method : Method) :
    readyResult R method ch = some (returnError channelClosed method) := by
  simp [readyResult, messages, hb, hs]

/-- One iteration of either loop: it skips one push without changing what is
ready, returns what is ready, or finds nothing and waits. -/
theorem pollReceiving_ready (s : ClientState) (c : CallId) (method : Method) (shared : PushRx) :
    (∃ rest, rest.length < shared.rx.buffer.length ∧
      pollReceiving R s c method shared =
        ({ s with pubsubRx := some { shared with rx := { shared.rx with buffer := rest } } },
          []) ∧
      readyResult R method { shared.rx with buffer := rest } = readyResult R method shared.rx) ∨
    (∃ shared' r, readyResult R method shared.rx = some r ∧
      pollReceiving R s c method shared = finish s c method shared' r) ∨
    (readyResult R method shared.rx = none ∧ pollReceiving R s c method shared = (s, [])) := by
  rcases shared.rx.receive_cases with
    ⟨push, rest, hb, hr⟩ | ⟨hb, hs, hr⟩ | ⟨hb, hs, hr⟩
  · cases hm : pushToMessage R push with
    | some msg =>
        refine Or.inr (Or.inl ⟨{ shared with rx := { shared.rx with buffer := rest } }, _,
          readyResult_message hb hm method, ?_⟩)
        simp only [pollReceiving, hr, hm]
    | none =>
        refine Or.inl ⟨rest, by simp [hb], ?_, readyResult_skip hb hm method⟩
        simp only [pollReceiving, hr, hm]
  · obtain ⟨hget, htry⟩ := readyResult_drained (R := R) hb hs
    cases method with
    | getPubsubMessage =>
        refine Or.inr (Or.inr ⟨hget, ?_⟩)
        simp only [pollReceiving, hr]
    | tryGetPubsubMessage =>
        refine Or.inr (Or.inl ⟨shared, _, htry, ?_⟩)
        simp only [pollReceiving, hr]
  · refine Or.inr (Or.inl ⟨shared, _, readyResult_closed hb hs method, ?_⟩)
    simp only [pollReceiving, hr]

variable (R) in
/-- The call returns after some polls of its own, with no other input in between. -/
def ReturnsAlone (s : ClientState) (c : CallId) (r : CallResult) : Prop :=
  Machine.FinishesAlone (step R) (fun event => event = .poll c) s (c, r)

theorem ReturnsAlone.of_poll {s t : ClientState} {c : CallId} {r : CallResult}
    (h : step R s (.poll c) = some (t, [])) (ht : ReturnsAlone R t c r) : ReturnsAlone R s c r :=
  Machine.FinishesAlone.of_step rfl h ht

/-- Inside the loop, a call for which something is ready drains pushes until it
returns. -/
theorem receiving_returns {s : ClientState} {c : CallId} {method : Method}
    {rx : Channel PushInfo} {mutex : FairMutex CallId} {r : CallResult}
    (hrx : s.pubsubRx = some ⟨rx, mutex⟩) (hc : s.calls c = some ⟨method, .receiving⟩)
    (hready : readyResult R method rx = some r) : ReturnsAlone R s c r := by
  -- induction on the number of buffered pushes, each poll taking one of them
  induction hn : rx.buffer.length using Nat.strongRecOn generalizing s rx with
  | ind n ih =>
      subst hn
      have hpoll : step R s (.poll c) =
          some (pollReceiving R s c method ⟨rx, mutex⟩) := by
        simp only [step, hc, poll, hrx]
      rcases pollReceiving_ready (R := R) s c method ⟨rx, mutex⟩ with
        ⟨rest, hlt, hstep, hsame⟩ | ⟨shared', r', hready', hstep⟩ | ⟨hnone, -⟩
      · rw [hstep] at hpoll
        apply ReturnsAlone.of_poll hpoll
        exact ih rest.length hlt rfl hc (hsame.trans hready) rfl
      · obtain rfl : r = r' := Option.some.inj (hready.symm.trans hready')
        rw [hstep] at hpoll
        exact Machine.FinishesAlone.last rfl hpoll List.mem_cons_self
      · rw [hready] at hnone
        cases hnone

/-- A call that owns the mutex or finds it free returns what is ready. -/
theorem front_returns {s : ClientState} {c : CallId} {method : Method} {phase : Phase}
    {shared : PushRx} {r : CallResult} (hrx : s.pubsubRx = some shared)
    (lock : LockInv shared.mutex s.calls) (hc : s.calls c = some ⟨method, phase⟩)
    (hphase : phase ≠ .ended)
    (hfront : shared.mutex.holder = none ∨ shared.mutex.holder = some c)
    (hready : readyResult R method shared.rx = some r) : ReturnsAlone R s c r := by
  -- the lock future is ready: the next poll enters the loop
  have hgranted {s : ClientState} {rx : Channel PushInfo} {mutex : FairMutex CallId}
      (hrx : s.pubsubRx = some ⟨rx, mutex⟩) (hc : s.calls c = some ⟨method, .locking⟩)
      (hown : mutex.holder = some c) (hready : readyResult R method rx = some r) :
      ReturnsAlone R s c r := by
    have hstep : step R s (.poll c) = some (setCall s c ⟨method, .receiving⟩, []) := by
      simp only [step, hc, poll, hrx, pollLocking, if_pos hown]
    apply ReturnsAlone.of_poll hstep
    exact receiving_returns hrx (Function.update_self ..) hready
  cases phase with
  | created =>
      have hstep : step R s (.poll c) = some (setCall
          { s with pubsubRx := some { shared with mutex := shared.mutex.acquire c } } c
          ⟨method, if shared.mutex.holder = none then .receiving else .locking⟩, []) := by
        simp only [step, hc, poll, pollCreated, hrx, pubsubRx]
      apply ReturnsAlone.of_poll hstep
      rcases hfront with hfree | hown
      · rw [if_pos hfree]
        exact receiving_returns rfl (Function.update_self ..) hready
      · rw [if_neg (by rw [hown]; simp)]
        exact hgranted rfl (Function.update_self ..) (FairMutex.acquire_of_held c hown).1 hready
  | locking =>
      rcases hfront with hfree | hown
      · rcases lock.locking c _ hc with hheld | hwait
        · rw [hfree] at hheld
          cases hheld
        · exact absurd hfree (FairMutex.holder_of_waiting hwait)
      · exact hgranted hrx hc hown hready
  | receiving => exact receiving_returns hrx hc hready
  | ended => exact absurd rfl hphase

/-- A call that was made and is not over. -/
def Pending (s : ClientState) (c : CallId) (method : Method) : Prop :=
  ∃ phase, s.calls c = some ⟨method, phase⟩ ∧ phase ≠ .ended

/-- A poll of a pending call either stays silent, and then changes neither what
is ready nor who else owns the mutex, or returns what is ready. -/
theorem step_own_poll {s t : ClientState} {c : CallId} {method : Method} {shared : PushRx}
    {out : List Returned} (hrx : s.pubsubRx = some shared) (hp : Pending s c method)
    (h : step R s (.poll c) = some (t, out)) :
    (out = [] ∧ Pending t c method ∧ ∃ shared', t.pubsubRx = some shared' ∧
      readyResult R method shared'.rx = readyResult R method shared.rx ∧
      ∀ d, shared.mutex.holder = some d → shared'.mutex.holder = some d) ∨
    (s.calls c = some ⟨method, .receiving⟩ ∧ Over t.calls c ∧
      ∃ r, readyResult R method shared.rx = some r ∧ out = [(c, r)]) := by
  obtain ⟨phase, hc, hphase⟩ := hp
  cases phase with
  | created =>
      simp only [step, hc, poll, pollCreated, hrx, pubsubRx, Option.some.injEq,
        Prod.mk.injEq] at h
      obtain ⟨rfl, rfl⟩ := h
      refine Or.inl ⟨rfl, ⟨_, Function.update_self .., ?_⟩, _, rfl, rfl, ?_⟩
      · split <;> simp
      · intro d hd
        exact (FairMutex.acquire_of_held c hd).1
  | locking =>
      simp only [step, hc, poll, hrx, pollLocking, Option.some.injEq] at h
      split at h
      · obtain ⟨rfl, rfl⟩ := Prod.mk.inj h
        exact Or.inl ⟨rfl, ⟨_, Function.update_self .., by simp⟩, shared, hrx, rfl,
          fun d hd => hd⟩
      · obtain ⟨rfl, rfl⟩ := Prod.mk.inj h
        exact Or.inl ⟨rfl, ⟨_, hc, hphase⟩, shared, hrx, rfl, fun d hd => hd⟩
  | receiving =>
      simp only [step, hc, poll, hrx, Option.some.injEq] at h
      rcases pollReceiving_ready (R := R) s c method shared with
        ⟨rest, -, hstep, hsame⟩ | ⟨shared', r, hready, hstep⟩ | ⟨-, hstep⟩
      · rw [hstep, Prod.mk.injEq] at h
        obtain ⟨rfl, rfl⟩ := h
        exact Or.inl ⟨rfl, ⟨_, hc, hphase⟩, _, rfl, hsame, fun d hd => hd⟩
      · rw [hstep, finish, Prod.mk.injEq] at h
        obtain ⟨rfl, rfl⟩ := h
        exact Or.inr ⟨hc, ⟨method, Function.update_self ..⟩, r, hready, rfl⟩
      · rw [hstep, Prod.mk.injEq] at h
        obtain ⟨rfl, rfl⟩ := h
        exact Or.inl ⟨rfl, ⟨_, hc, hphase⟩, shared, hrx, rfl, fun d hd => hd⟩
  | ended => exact absurd rfl hphase

/-- Behind another owner of the mutex, a call does not return by its own polls. -/
theorem not_returnsAlone_of_held {s : ClientState} {c d : CallId} {method : Method}
    {shared : PushRx} (hs : Standing s) (hrx : s.pubsubRx = some shared)
    (hp : Pending s c method) (hd : shared.mutex.holder = some d) (hne : d ≠ c) (r : CallResult) :
    ¬ ReturnsAlone R s c r := by
  let Stuck (s : ClientState) : Prop := Standing s ∧ Pending s c method ∧
    ∃ shared, s.pubsubRx = some shared ∧ shared.mutex.holder = some d
  apply Machine.not_finishesAlone Stuck _ ⟨hs, hp, shared, hrx, hd⟩
  rintro s event t out ⟨hs, hp, shared, hrx, hd⟩ rfl hstep
  have ht := step_standing hs hstep
  rcases step_own_poll hrx hp hstep with ⟨hout, hp', shared', hrx', -, hkeep⟩ | ⟨hc, -, -⟩
  · exact ⟨⟨ht, hp', shared', hrx', hkeep d hd⟩, hout⟩
  · obtain ⟨shared', hrx', lock, -⟩ := hs
    obtain rfl : shared = shared' := Option.some.inj (hrx.symm.trans hrx')
    rw [lock.receiving c method hc] at hd
    exact absurd (Option.some.inj hd).symm hne

/-- With nothing ready, a call does not return by its own polls. -/
theorem not_returnsAlone_of_none {s : ClientState} {c : CallId} {method : Method}
    {shared : PushRx} (hrx : s.pubsubRx = some shared) (hp : Pending s c method)
    (hnone : readyResult R method shared.rx = none) (r : CallResult) :
    ¬ ReturnsAlone R s c r := by
  let Stuck (s : ClientState) : Prop := Pending s c method ∧
    ∃ shared, s.pubsubRx = some shared ∧ readyResult R method shared.rx = none
  apply Machine.not_finishesAlone Stuck _ ⟨hp, shared, hrx, hnone⟩
  rintro s event t out ⟨hp, shared, hrx, hnone⟩ rfl hstep
  rcases step_own_poll hrx hp hstep with ⟨hout, hp', shared', hrx', hsame, -⟩ | ⟨-, -, r, hr, -⟩
  · exact ⟨⟨hp', shared', hrx', hsame.trans hnone⟩, hout⟩
  · rw [hnone] at hr
    cases hr

/-- A call that returns by its own polls returns what is ready. -/
theorem returnsAlone_eq {s : ClientState} {c : CallId} {method : Method} {shared : PushRx}
    {r r' : CallResult} (hrx : s.pubsubRx = some shared) (hp : Pending s c method)
    (hready : readyResult R method shared.rx = some r) (h : ReturnsAlone R s c r') : r' = r := by
  let Live (s : ClientState) : Prop := Pending s c method ∧
    ∃ shared, s.pubsubRx = some shared ∧ readyResult R method shared.rx = some r
  have hlive : ∀ s event t out, Live s → event = .poll c → step R s event = some (t, out) →
      (Live t ∧ out = []) ∨ (Over t.calls c ∧ out = [(c, r)]) := by
    rintro s event t out ⟨hp, shared, hrx, hready⟩ rfl hstep
    rcases step_own_poll hrx hp hstep with
      ⟨hout, hp', shared', hrx', hsame, -⟩ | ⟨-, hover, r', hr', hout⟩
    · exact Or.inl ⟨⟨hp', shared', hrx', hsame.trans hready⟩, hout⟩
    · obtain rfl : r = r' := Option.some.inj (hready.symm.trans hr')
      exact Or.inr ⟨hover, hout⟩
  have hover : ∀ s event, Over s.calls c → event = .poll c → step R s event = none := by
    rintro s event ⟨method, hc⟩ rfl
    simp only [step, hc, poll]
  have heq := Machine.FinishesAlone.eq Live (fun s => Over s.calls c) (c, r) hlive hover
    ⟨hp, shared, hrx, hready⟩ h
  simpa using heq

/-- A pending call returns by its own polls exactly when nobody else owns the
receiver and a result is ready; and as long as a message is buffered or the
channel is closed, some pending call can return by its own polls, the one at the
front of the line if there is a line. -/
theorem pending_calls_progress {s : ClientState} {c : CallId} {method : Method}
    (hs : Machine.Reachable (step R) (connected true) s) (hp : Pending s c method) :
    ∃ shared, s.pubsubRx = some shared ∧
      (∀ r, ReturnsAlone R s c r ↔
        (shared.mutex.holder = none ∨ shared.mutex.holder = some c) ∧
          readyResult R method shared.rx = some r) ∧
      (messages R shared.rx.buffer ≠ [] ∨ shared.rx.senderAlive = false →
        ∃ d method' r, Pending s d method' ∧ d = shared.mutex.line.headD c ∧
          readyResult R method' shared.rx = some r ∧ ReturnsAlone R s d r) := by
  have hstanding := reachable_standing hs
  obtain ⟨shared, hrx, lock, inv⟩ := reachable_standing hs
  refine ⟨shared, hrx, ?_, ?_⟩
  · intro r
    constructor
    · intro hr
      constructor
      · cases hm : shared.mutex.holder with
        | none => exact Or.inl rfl
        | some d =>
            by_contra hne
            have hdc : d ≠ c := by
              rintro rfl
              exact hne (Or.inr rfl)
            exact not_returnsAlone_of_held hstanding hrx hp hm hdc r hr
      · cases hready : readyResult R method shared.rx with
        | none => exact absurd hr (not_returnsAlone_of_none hrx hp hready r)
        | some r' => rw [returnsAlone_eq hrx hp hready hr]
    · rintro ⟨hfront, hready⟩
      obtain ⟨phase, hc, hphase⟩ := hp
      exact front_returns hrx lock hc hphase hfront hready
  · intro havailable
    have hready : ∀ method', ∃ r, readyResult R method' shared.rx = some r := by
      intro method'
      unfold readyResult
      cases hmessages : messages R shared.rx.buffer with
      | cons msg rest => exact ⟨_, rfl⟩
      | nil =>
          rcases havailable with hsome | hgone
          · exact absurd hmessages hsome
          · simp [hgone]
    cases hline : shared.mutex.line with
    | nil =>
        obtain ⟨r, hr⟩ := hready method
        obtain ⟨phase, hc, hphase⟩ := hp
        have hfree := (FairMutex.line_eq_nil_iff shared.mutex).mp hline
        exact ⟨c, method, r, ⟨phase, hc, hphase⟩, rfl, hr,
          front_returns hrx lock hc hphase (Or.inl hfree) hr⟩
    | cons d rest =>
        have hin : d ∈ shared.mutex.line := by
          rw [hline]
          exact List.mem_cons_self
        obtain ⟨method', phase, hd, hwaits⟩ := (inv.mem_iff d).mp hin
        have hphase : phase ≠ .ended := by
          rintro rfl
          simp at hwaits
        have hown : shared.mutex.holder = some d := by
          rw [FairMutex.holder_eq_head?, hline, List.head?_cons]
        obtain ⟨r, hr⟩ := hready method'
        exact ⟨d, method', r, ⟨phase, hd, hphase⟩, rfl, hr,
          front_returns hrx lock hd hphase (Or.inr hown) hr⟩

theorem pending_calls_progress_readers :
    ∃ s, Machine.Reachable (step .stringsOnly) (connected true) s ∧
      Pending s 1 .getPubsubMessage ∧
      ReturnsAlone .stringsOnly s 0 (.got (.ok ⟨.message, [99], [49], none⟩)) ∧
      ∀ r, ¬ ReturnsAlone .stringsOnly s 1 r := by
  have hrun : ∃ s shared, Machine.run (step .stringsOnly) (connected true)
        (twoReaders ++ [.push ⟨.message, [.bulkString [99], .bulkString [49]]⟩]) = some (s, []) ∧
      s.calls 0 = some ⟨.getPubsubMessage, .receiving⟩ ∧
      s.calls 1 = some ⟨.getPubsubMessage, .created⟩ ∧
      s.pubsubRx = some shared ∧ shared.mutex.holder = some 0 ∧
      readyResult .stringsOnly .getPubsubMessage shared.rx =
        some (.got (.ok ⟨.message, [99], [49], none⟩)) :=
    ⟨_, _, rfl, rfl, rfl, rfl, rfl, rfl⟩
  obtain ⟨s, shared, hrun, hfirst, hsecond, hrx, hown, hready⟩ := hrun
  have hs : Machine.Reachable (step .stringsOnly) (connected true) s := ⟨_, _, hrun⟩
  have hp0 : Pending s 0 .getPubsubMessage := ⟨_, hfirst, by simp⟩
  have hp1 : Pending s 1 .getPubsubMessage := ⟨_, hsecond, by simp⟩
  obtain ⟨shared₀, hrx₀, hiff₀, -⟩ := pending_calls_progress hs hp0
  obtain rfl := Option.some.inj (hrx.symm.trans hrx₀)
  obtain ⟨shared₁, hrx₁, hiff₁, -⟩ := pending_calls_progress hs hp1
  obtain rfl := Option.some.inj (hrx.symm.trans hrx₁)
  refine ⟨s, hs, hp1, (hiff₀ _).mpr ⟨Or.inr hown, hready⟩, ?_⟩
  intro r hr
  have hfront := ((hiff₁ r).mp hr).1
  rw [hown] at hfront
  simp at hfront

/-! ## A closed channel -/

/-- A result that reports the closed channel. -/
def IsClosed (o : Returned) : Prop := ∃ method, o.2 = returnError channelClosed method

/-- Results after a reported closed channel report it again. -/
def ClosedForGood (outs : List Returned) : Prop :=
  ∀ before o after, outs = before ++ o :: after → IsClosed o → ∀ o' ∈ after, IsClosed o'

theorem delivered_of_isClosed {outs : List Returned} (h : ∀ o ∈ outs, IsClosed o) :
    Delivery.delivered outs = [] := by
  rw [Delivery.delivered, List.filterMap_eq_nil_iff]
  intro o ho
  obtain ⟨method, hclosed⟩ := h o ho
  rw [hclosed]
  cases method <;> rfl

theorem queueStep_length {ch ch' : Channel PushInfo} {event : Event} {out : List Returned}
    (h : Delivery.QueueStep R ch event ch' out) : out.length ≤ 1 := by
  cases h <;> simp

/-- On a drained queue without sender, an input returns at most the closed channel. -/
theorem queueStep_closed {ch ch' : Channel PushInfo} {event : Event} {out : List Returned}
    (h : Delivery.QueueStep R ch event ch' out) (hdrained : ch.buffer = [])
    (hgone : ch.senderAlive = false) : ∀ o ∈ out, IsClosed o := by
  cases h with
  | enqueue info alive =>
      rw [hgone] at alive
      cases alive
  | disconnect | silent => simp
  | skip front | deliver front =>
      rw [hdrained] at front
      cases front
  | nothing drained alive =>
      rw [hgone] at alive
      cases alive
  | @closed c method drained gone =>
      intro o ho
      rw [List.mem_singleton.mp ho]
      exact ⟨method, rfl⟩

theorem reportsClosed_of_mem {outs : List Returned} {o : Returned} (ho : o ∈ outs)
    (hclosed : IsClosed o) : Delivery.ReportsClosed outs := by
  obtain ⟨method, hmethod⟩ := hclosed
  refine ⟨o.1, method, ?_⟩
  rw [← hmethod]
  exact ho

theorem closedForGood_step {ch ch' : Channel PushInfo} {event : Event} {events : List Event}
    {outs out : List Returned} (h : Delivery.QueueStep R ch event ch' out)
    (hconserved : Delivery.Conserved R events outs ch) (hgood : ClosedForGood outs) :
    ClosedForGood (outs ++ out) := by
  intro before o after hsplit hclosed o' ho'
  have hlast : ∀ between, out = between ++ o :: after → after = [] := by
    intro between hout
    have hlength := queueStep_length h
    rw [hout, List.length_append, List.length_cons] at hlength
    apply List.eq_nil_of_length_eq_zero
    omega
  -- the report is the result of this input, which is the last one, or an earlier result
  rcases List.append_eq_append_iff.mp hsplit with ⟨between, -, hout⟩ | ⟨rest, hbefore, hafter⟩
  · rw [hlast between hout] at ho'
    exact absurd ho' List.not_mem_nil
  · cases rest with
    | nil =>
        rw [hlast [] hafter.symm] at ho'
        exact absurd ho' List.not_mem_nil
    | cons o₁ rest =>
        rw [List.cons_append, List.cons.injEq] at hafter
        obtain ⟨rfl, rfl⟩ := hafter
        have hmem : o ∈ outs := by
          rw [hbefore]
          simp
        obtain ⟨hdrained, hgone⟩ := hconserved.drained (reportsClosed_of_mem hmem hclosed)
        rcases List.mem_append.mp ho' with hrest | hnow
        · exact hgood before o rest hbefore hclosed o' hrest
        · exact queueStep_closed h hdrained hgone o' hnow

/-- In every run the closed channel is reported only after every message that was
pushed has been returned, and after the first such report every call that
returns, of whatever clone and method, reports it as well. -/
theorem closed_channel_is_final {events : List Event} {t : ClientState} {outs : List Returned}
    (hrun : Machine.run (step R) (connected true) events = some (t, outs)) :
    ∀ before o after, outs = before ++ o :: after → IsClosed o →
      Delivery.delivered before = messages R (Delivery.enqueued events) ∧
        ∀ o' ∈ after, IsClosed o' := by
  have hinv : ∃ shared, t.pubsubRx = some shared ∧ Delivery.Conserved R events outs shared.rx ∧
      ClosedForGood outs := by
    refine Machine.run_invariant (fun events outs s => ∃ shared, s.pubsubRx = some shared ∧
      Delivery.Conserved R events outs shared.rx ∧ ClosedForGood outs) ?_ ?_ events t outs hrun
    · obtain ⟨⟨shared, hrx, hconserved⟩, -⟩ :=
        Delivery.run_conserved (R := R) (Machine.run_nil (connected true))
      refine ⟨shared, hrx, hconserved, ?_⟩
      intro before o after hsplit
      simp at hsplit
    · rintro events outs s event t out ⟨shared, hrx, hconserved, hgood⟩ hstep
      obtain ⟨shared', hrx', hqueue⟩ := Delivery.step_queue hrx hstep
      exact ⟨shared', hrx', hqueue.conserved hconserved,
        closedForGood_step hqueue hconserved hgood⟩
  obtain ⟨shared, -, hconserved, hgood⟩ := hinv
  intro before o after hsplit hclosed
  have hafter := hgood before o after hsplit hclosed
  refine ⟨?_, hafter⟩
  have hmem : o ∈ outs := by
    rw [hsplit]
    simp
  obtain ⟨hdrained, -⟩ := hconserved.drained (reportsClosed_of_mem hmem hclosed)
  have hlast : Delivery.delivered (o :: after) = [] := by
    apply delivered_of_isClosed
    intro o' ho'
    rcases List.mem_cons.mp ho' with rfl | hrest
    · exact hclosed
    · exact hafter o' hrest
  calc Delivery.delivered before
      = Delivery.delivered before ++ Delivery.delivered (o :: after) := by
        rw [hlast, List.append_nil]
    _ = Delivery.delivered outs := by rw [← Delivery.delivered_append, ← hsplit]
    _ = messages R (Delivery.enqueued events) := by
        rw [hconserved.fifo, hdrained]
        simp [messages]

/-- A message, a sender that goes away, and two calls after the last message. -/
def closing : List Event :=
  [.push ⟨.message, [.bulkString [99], .bulkString [49]]⟩, .dropSender,
    .call 0 .getPubsubMessage, .poll 0, .poll 0, .call 1 .tryGetPubsubMessage, .poll 1, .poll 1,
    .call 2 .getPubsubMessage, .poll 2, .poll 2]

theorem closed_channel_is_final_closing :
    ∃ t, Machine.run (step .stringsOnly) (connected true) closing =
        some (t, [(0, .got (.ok ⟨.message, [99], [49], none⟩)), (1, .tried (.error channelClosed)),
          (2, .got (.error channelClosed))]) ∧
      messages .stringsOnly (Delivery.enqueued closing) = [⟨.message, [99], [49], none⟩] := by
  have hrun : ∃ t, Machine.run (step .stringsOnly) (connected true) closing =
      some (t, [(0, .got (.ok ⟨.message, [99], [49], none⟩)), (1, .tried (.error channelClosed)),
        (2, .got (.error channelClosed))]) := ⟨_, rfl⟩
  obtain ⟨t, hrun⟩ := hrun
  refine ⟨t, hrun, ?_⟩
  rw [← (closed_channel_is_final hrun [_] _ [_] rfl ⟨.tryGetPubsubMessage, rfl⟩).1]
  rfl

end GlideRust.Client.ServiceOrder

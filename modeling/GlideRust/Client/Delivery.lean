import GlideRust.Client.Push

/-!
# Exactly-once delivery in queue order

Seen from the queue, every accepted input of the client machine is one of seven
moves. The queue view forgets the mutex and the calls, and the history of a run
is read off its inputs (what was enqueued) and its observations (what was
returned). The delivery invariant is proved on the queue view once and holds
for every interleaving of the machine.
-/

namespace GlideRust.Client.Delivery

open Redis Error Lib AsyncPrimitives Push

variable (R : RedisCrate)

/-- What an input does to the queue and what is returned to a caller. -/
inductive QueueStep (ch : Channel PushInfo) :
    Event → Channel PushInfo → List Returned → Prop
  | enqueue (info : PushInfo) (alive : ch.senderAlive = true) :
      QueueStep ch (.push info) (ch.send info) []
  | disconnect : QueueStep ch .dropSender ch.dropSender []
  | silent {event : Event} (hpush : ∀ info, event ≠ .push info) : QueueStep ch event ch []
  | skip {c : CallId} {push : PushInfo} {rest : List PushInfo}
      (front : ch.buffer = push :: rest) (plain : pushToMessage R push = none) :
      QueueStep ch (.poll c) { ch with buffer := rest } []
  | deliver {c : CallId} {method : Method} {push : PushInfo} {rest : List PushInfo}
      {msg : PubSubMessage} (front : ch.buffer = push :: rest)
      (decoded : pushToMessage R push = some msg) :
      QueueStep ch (.poll c) { ch with buffer := rest } [(c, returnMessage msg method)]
  | nothing {c : CallId} (drained : ch.buffer = []) (alive : ch.senderAlive = true) :
      QueueStep ch (.poll c) ch [(c, .tried (.ok none))]
  | closed {c : CallId} {method : Method} (drained : ch.buffer = [])
      (gone : ch.senderAlive = false) :
      QueueStep ch (.poll c) ch [(c, returnError channelClosed method)]

variable {R}

theorem pollCreated_queue {s t : ClientState} {shared : PushRx} {c : CallId}
    {method : Method} {out : List Returned} (hrx : s.pubsubRx = some shared)
    (h : pollCreated s c method = (t, out)) :
    ∃ shared', t.pubsubRx = some shared' ∧ QueueStep R shared.rx (.poll c) shared'.rx out := by
  simp only [pollCreated, hrx, pubsubRx, setCall, Prod.mk.injEq] at h
  obtain ⟨rfl, rfl⟩ := h
  exact ⟨_, rfl, .silent (by intro info; simp)⟩

theorem pollLocking_queue {s t : ClientState} {shared : PushRx} {c : CallId}
    {method : Method} {out : List Returned} (hrx : s.pubsubRx = some shared)
    (h : pollLocking s c method shared = (t, out)) :
    ∃ shared', t.pubsubRx = some shared' ∧ QueueStep R shared.rx (.poll c) shared'.rx out := by
  simp only [pollLocking] at h
  split at h
  · simp only [setCall, Prod.mk.injEq] at h
    obtain ⟨rfl, rfl⟩ := h
    exact ⟨shared, hrx, .silent (by intro info; simp)⟩
  · simp only [Prod.mk.injEq] at h
    obtain ⟨rfl, rfl⟩ := h
    exact ⟨shared, hrx, .silent (by intro info; simp)⟩

theorem pollReceiving_queue {s t : ClientState} {shared : PushRx} {c : CallId}
    {method : Method} {out : List Returned} (hrx : s.pubsubRx = some shared)
    (h : pollReceiving R s c method shared = (t, out)) :
    ∃ shared', t.pubsubRx = some shared' ∧ QueueStep R shared.rx (.poll c) shared'.rx out := by
  rcases shared.rx.receive_cases with
    ⟨push, rest, hb, hr⟩ | ⟨hb, hs, hr⟩ | ⟨hb, hs, hr⟩
  · cases hm : pushToMessage R push with
    | some msg =>
        simp only [pollReceiving, hr, hm, finish, setCall, Prod.mk.injEq] at h
        obtain ⟨rfl, rfl⟩ := h
        exact ⟨_, rfl, .deliver hb hm⟩
    | none =>
        simp only [pollReceiving, hr, hm, Prod.mk.injEq] at h
        obtain ⟨rfl, rfl⟩ := h
        exact ⟨_, rfl, .skip hb hm⟩
  · cases method with
    | getPubsubMessage =>
        simp only [pollReceiving, hr, Prod.mk.injEq] at h
        obtain ⟨rfl, rfl⟩ := h
        exact ⟨shared, hrx, .silent (by intro info; simp)⟩
    | tryGetPubsubMessage =>
        simp only [pollReceiving, hr, finish, setCall, Prod.mk.injEq] at h
        obtain ⟨rfl, rfl⟩ := h
        exact ⟨_, rfl, .nothing hb hs⟩
  · simp only [pollReceiving, hr, finish, setCall, Prod.mk.injEq] at h
    obtain ⟨rfl, rfl⟩ := h
    exact ⟨_, rfl, .closed hb hs⟩

/-- Every accepted input of the machine is a move of the queue view. -/
theorem step_queue {s t : ClientState} {shared : PushRx} {event : Event}
    {out : List Returned} (hrx : s.pubsubRx = some shared)
    (h : step R s event = some (t, out)) :
    ∃ shared', t.pubsubRx = some shared' ∧ QueueStep R shared.rx event shared'.rx out := by
  cases event with
  | push info =>
      obtain ⟨shared', hrx', alive, rfl, rfl⟩ := step_push_cases h
      obtain rfl : shared = shared' := Option.some.inj (hrx.symm.trans hrx')
      exact ⟨_, rfl, .enqueue info alive⟩
  | dropSender =>
      obtain ⟨shared', hrx', rfl, rfl⟩ := step_dropSender_cases h
      obtain rfl : shared = shared' := Option.some.inj (hrx.symm.trans hrx')
      exact ⟨_, rfl, .disconnect⟩
  | call c method =>
      obtain ⟨-, rfl, rfl⟩ := step_call_cases h
      exact ⟨shared, hrx, .silent (by intro info; simp)⟩
  | poll c =>
      obtain ⟨method, ⟨-, hp⟩ | ⟨shared', hrx', -, hp⟩ | ⟨shared', hrx', -, hp⟩⟩ :=
        step_poll_cases h
      · exact pollCreated_queue hrx hp
      · obtain rfl : shared = shared' := Option.some.inj (hrx.symm.trans hrx')
        exact pollLocking_queue hrx hp
      · obtain rfl : shared = shared' := Option.some.inj (hrx.symm.trans hrx')
        exact pollReceiving_queue hrx hp
  | cancel c =>
      obtain ⟨call, -, -, rfl, rfl⟩ := step_cancel_cases h
      obtain ⟨mutex, hm⟩ := dropCall_rx hrx c call
      exact ⟨_, hm, .silent (by intro info; simp)⟩

/-! ## The delivery invariant -/

def pushed? : Event → Option PushInfo
  | .push info => some info
  | _ => none

/-- The pushes enqueued by a list of inputs, in order. -/
def enqueued (events : List Event) : List PushInfo := events.filterMap pushed?

/-- The messages handed to callers, in the order in which they left the queue. -/
def delivered (outs : List Returned) : List PubSubMessage :=
  outs.filterMap fun o => o.2.message?

@[simp] theorem enqueued_push (events : List Event) (info : PushInfo) :
    enqueued (events ++ [.push info]) = enqueued events ++ [info] := by
  simp [enqueued, pushed?]

theorem enqueued_other (events : List Event) {event : Event}
    (h : ∀ info, event ≠ .push info) : enqueued (events ++ [event]) = enqueued events := by
  cases event with
  | push info => exact absurd rfl (h info)
  | dropSender | call | poll | cancel => simp [enqueued, pushed?]

@[simp] theorem delivered_append (outs out : List Returned) :
    delivered (outs ++ out) = delivered outs ++ delivered out := by
  simp [delivered]

@[simp] theorem delivered_nil : delivered [] = [] := rfl

@[simp] theorem delivered_message (c : CallId) (msg : PubSubMessage) (method : Method) :
    delivered [(c, returnMessage msg method)] = [msg] := by
  cases method <;> rfl

@[simp] theorem delivered_error (c : CallId) (err : GlideError) (method : Method) :
    delivered [(c, returnError err method)] = [] := by
  cases method <;> rfl

/-- A reported closed channel among the results. -/
def ReportsClosed (outs : List Returned) : Prop :=
  ∃ c method, (c, returnError channelClosed method) ∈ outs

theorem not_reportsClosed_message {c d : CallId} {msg : PubSubMessage} {m m' : Method} :
    (c, returnError channelClosed m) ≠ (d, returnMessage msg m') := by
  cases m <;> cases m' <;> simp [returnError, returnMessage]

/-- Enqueued messages are the delivered ones followed by the buffered ones, and
a closed channel was reported only with nothing left to deliver. -/
structure Conserved (R : RedisCrate) (events : List Event) (outs : List Returned)
    (ch : Channel PushInfo) : Prop where
  fifo : messages R (enqueued events) = delivered outs ++ messages R ch.buffer
  drained : ReportsClosed outs → ch.buffer = [] ∧ ch.senderAlive = false

/-- One move of the queue view keeps the conservation law. -/
theorem QueueStep.conserved {ch ch' : Channel PushInfo} {event : Event}
    {out outs : List Returned} {events : List Event} (h : QueueStep R ch event ch' out)
    (inv : Conserved R events outs ch) :
    Conserved R (events ++ [event]) (outs ++ out) ch' := by
  have hpoll (c : CallId) : enqueued (events ++ [.poll c]) = enqueued events :=
    enqueued_other events (by intro info; simp)
  cases h with
  | enqueue info alive =>
      constructor
      · calc messages R (enqueued (events ++ [.push info]))
            = messages R (enqueued events) ++ messages R [info] := by
              rw [enqueued_push, messages_append]
          _ = delivered outs ++ messages R ch.buffer ++ messages R [info] := by
              rw [inv.fifo]
          _ = delivered (outs ++ []) ++ messages R (ch.send info).buffer := by
              simp [Channel.send]
      · intro hc
        have hgone := (inv.drained (by simpa using hc)).2
        rw [alive] at hgone
        cases hgone
  | disconnect =>
      constructor
      · rw [enqueued_other events (by intro info; simp), inv.fifo]
        simp [Channel.dropSender]
      · intro hc
        exact ⟨(inv.drained (by simpa using hc)).1, rfl⟩
  | silent hpush =>
      constructor
      · rw [enqueued_other events hpush, inv.fifo]
        simp
      · intro hc
        exact inv.drained (by simpa using hc)
  | skip front plain =>
      constructor
      · rw [hpoll, inv.fifo, front, messages_cons_none R plain]
        simp
      · intro hc
        have hd := (inv.drained (by simpa using hc)).1
        rw [front] at hd
        cases hd
  | @deliver c method push rest msg front decoded =>
      constructor
      · calc messages R (enqueued (events ++ [.poll c]))
            = delivered outs ++ messages R ch.buffer := by rw [hpoll, inv.fifo]
          _ = delivered outs ++ msg :: messages R rest := by
              rw [front, messages_cons_some R decoded]
          _ = delivered (outs ++ [(c, returnMessage msg method)]) ++ messages R rest := by
              simp
      · rintro ⟨d, method', hd⟩
        rcases List.mem_append.mp hd with hd | hd
        · have hempty := (inv.drained ⟨d, method', hd⟩).1
          rw [front] at hempty
          cases hempty
        · exact absurd (List.mem_singleton.mp hd) not_reportsClosed_message
  | nothing hempty alive =>
      constructor
      · rw [hpoll, inv.fifo]
        simp [delivered, CallResult.message?]
      · rintro ⟨d, method', hd⟩
        rcases List.mem_append.mp hd with hd | hd
        · exact inv.drained ⟨d, method', hd⟩
        · have heq := List.mem_singleton.mp hd
          cases method' <;> simp [returnError] at heq
  | closed hempty gone =>
      constructor
      · rw [hpoll, inv.fifo]
        simp
      · intro _
        exact ⟨hempty, gone⟩

/-- Every call that returned is over, and no call returned twice. -/
structure ReturnedOnce (outs : List Returned) (s : ClientState) : Prop where
  ended : ∀ o ∈ outs, ∃ method, s.calls o.1 = some ⟨method, .ended⟩
  nodup : (outs.map Prod.fst).Nodup

/-- A call that is over stays over. -/
theorem step_ended {s t : ClientState} {event : Event} {out : List Returned} {c : CallId}
    {method : Method} (h : step R s event = some (t, out))
    (hc : s.calls c = some ⟨method, .ended⟩) : t.calls c = some ⟨method, .ended⟩ := by
  have keep {d : CallId} {call : Call} (hne : c ≠ d) :
      Function.update s.calls d (some call) c = some ⟨method, .ended⟩ := by
    rw [Function.update_of_ne hne, hc]
  cases event with
  | push info =>
      obtain ⟨shared, -, -, rfl, -⟩ := step_push_cases h
      exact hc
  | dropSender =>
      obtain ⟨shared, -, rfl, -⟩ := step_dropSender_cases h
      exact hc
  | call d m =>
      obtain ⟨hfree, rfl, -⟩ := step_call_cases h
      apply keep
      rintro rfl
      rw [hfree] at hc
      cases hc
  | poll d =>
      obtain ⟨m, phase, phase', hd, hp, ht, -⟩ := step_poll_calls h
      rw [ht]
      apply keep
      rintro rfl
      rw [hc] at hd
      exact hp (congrArg Call.phase (Option.some.inj hd)).symm
  | cancel d =>
      obtain ⟨call, hd, hcan, rfl, -⟩ := step_cancel_cases h
      rw [dropCall_calls]
      apply keep
      rintro rfl
      obtain rfl : ⟨method, .ended⟩ = call := Option.some.inj (hc.symm.trans hd)
      simp [cancellable] at hcan

theorem step_returnedOnce {s t : ClientState} {event : Event} {out outs : List Returned}
    (h : step R s event = some (t, out)) (inv : ReturnedOnce outs s) :
    ReturnedOnce (outs ++ out) t := by
  have hkeep : ∀ o ∈ outs, ∃ method, t.calls o.1 = some ⟨method, .ended⟩ := by
    intro o ho
    obtain ⟨method, hm⟩ := inv.ended o ho
    exact ⟨method, step_ended h hm⟩
  have hsilent (hout : out = []) : ReturnedOnce (outs ++ out) t := by
    subst hout
    rw [List.append_nil]
    exact ⟨hkeep, inv.nodup⟩
  cases event with
  | push info =>
      obtain ⟨-, -, -, -, hout⟩ := step_push_cases h
      exact hsilent hout
  | dropSender =>
      obtain ⟨-, -, -, hout⟩ := step_dropSender_cases h
      exact hsilent hout
  | call d m => exact hsilent (step_call_cases h).2.2
  | cancel d =>
      obtain ⟨-, -, -, -, hout⟩ := step_cancel_cases h
      exact hsilent hout
  | poll c =>
      obtain ⟨method, phase, phase', hc, hp, ht, hout | ⟨r, rfl, rfl⟩⟩ := step_poll_calls h
      · exact hsilent hout
      · constructor
        · intro o ho
          rcases List.mem_append.mp ho with ho | ho
          · exact hkeep o ho
          · rw [List.mem_singleton.mp ho, ht]
            exact ⟨method, Function.update_self ..⟩
        · rw [List.map_append, List.nodup_append]
          refine ⟨inv.nodup, by simp, ?_⟩
          intro d hd e he hde
          obtain ⟨o, ho, rfl⟩ := List.mem_map.mp hd
          obtain ⟨m, hm⟩ := inv.ended o ho
          have hoc : o.1 = c := by simpa [hde] using he
          rw [hoc, hc] at hm
          exact hp (congrArg Call.phase (Option.some.inj hm))

/-- The invariant of whole runs: the queue law and the single return of each call. -/
theorem run_conserved {events : List Event} {t : ClientState} {outs : List Returned}
    (h : Machine.run (step R) (connected true) events = some (t, outs)) :
    (∃ shared, t.pubsubRx = some shared ∧ Conserved R events outs shared.rx) ∧
      ReturnedOnce outs t := by
  refine Machine.run_invariant
    (fun events outs s => (∃ shared, s.pubsubRx = some shared ∧
      Conserved R events outs shared.rx) ∧ ReturnedOnce outs s) ?_ ?_ events t outs h
  · refine ⟨⟨_, rfl, ?_, ?_⟩, ?_, ?_⟩
    · rfl
    · rintro ⟨c, method, hc⟩
      exact absurd hc List.not_mem_nil
    · intro o ho
      exact absurd ho List.not_mem_nil
    · exact List.nodup_nil
  · rintro events outs s event t out ⟨⟨shared, hrx, hcons⟩, honce⟩ hstep
    obtain ⟨shared', hrx', hq⟩ := step_queue hrx hstep
    exact ⟨⟨shared', hrx', hq.conserved hcons⟩, step_returnedOnce hstep honce⟩

/-! ## Delivery -/

/-- String replies and the bytes they carry. -/
inductive Carries : Value → Bytes → Prop
  | bulk (b : Bytes) : Carries (.bulkString b) b
  | simple (s : String) : Carries (.simpleString s) (utf8 s)

theorem valueToBytes_of_carries {v : Value} {b : Bytes} (h : Carries v b) :
    valueToBytes R v = b := by
  cases h <;> rfl

/-- In every run of a client with a push channel, the messages returned so far
followed by the buffered ones are the decoded pushes in order, no call returns
twice, and a closed channel is reported only after the last message. A message
frame decodes to its own kind, channel, payload and pattern. -/
theorem messages_delivered_once_in_order (R : RedisCrate) :
    (∀ events t outs, Machine.run (step R) (connected true) events = some (t, outs) →
      (∃ shared, t.pubsubRx = some shared ∧
        messages R (enqueued events) = delivered outs ++ messages R shared.rx.buffer) ∧
      delivered outs <+: messages R (enqueued events) ∧
      (outs.map Prod.fst).Nodup ∧
      (ReportsClosed outs → delivered outs = messages R (enqueued events))) ∧
    (∀ channel payload pattern c p q, Carries channel c → Carries payload p →
      Carries pattern q →
      pushToMessage R ⟨.message, [channel, payload]⟩ = some ⟨.message, c, p, none⟩ ∧
      pushToMessage R ⟨.sMessage, [channel, payload]⟩ = some ⟨.sMessage, c, p, none⟩ ∧
      pushToMessage R ⟨.pMessage, [pattern, channel, payload]⟩ =
        some ⟨.pMessage, c, p, some q⟩) := by
  constructor
  · intro events t outs h
    obtain ⟨⟨shared, hrx, hcons⟩, honce⟩ := run_conserved h
    refine ⟨⟨shared, hrx, hcons.fifo⟩, ?_, honce.nodup, ?_⟩
    · rw [hcons.fifo]
      exact List.prefix_append _ _
    · intro hclosed
      have hempty := (hcons.drained hclosed).1
      rw [hcons.fifo, hempty]
      simp [messages]
  · intro channel payload pattern c p q hc hp hq
    simp [pushToMessage, valueToBytes_of_carries hc, valueToBytes_of_carries hp,
      valueToBytes_of_carries hq]

/-- A subscription confirmation, one message, two racing calls and a closing channel. -/
def race : List Event :=
  [.push ⟨.subscribe, [.bulkString [99], .int 1]⟩,
    .push ⟨.message, [.bulkString [99], .bulkString [104, 105]]⟩,
    .call 0 .getPubsubMessage, .call 1 .tryGetPubsubMessage, .poll 0, .poll 1,
    .poll 0, .poll 0, .dropSender, .poll 1, .poll 1]

theorem messages_delivered_once_in_order_race :
    ∃ t outs, Machine.run (step .stringsOnly) (connected true) race = some (t, outs) ∧
      outs = [(0, .got (.ok ⟨.message, [99], [104, 105], none⟩)),
        (1, .tried (.error channelClosed))] ∧
      (outs.map Prod.fst).Nodup ∧
      pushToMessage .stringsOnly ⟨.message, [.bulkString [99], .bulkString [104, 105]]⟩ =
        some ⟨.message, [99], [104, 105], none⟩ := by
  refine ⟨_, _, rfl, rfl, ?_, ?_⟩
  · exact ((messages_delivered_once_in_order .stringsOnly).1 race _ _ rfl).2.2.1
  · exact ((messages_delivered_once_in_order .stringsOnly).2 _ _ _ _ _ _ (.bulk [99])
      (.bulk [104, 105]) (.bulk [])).1

end GlideRust.Client.Delivery

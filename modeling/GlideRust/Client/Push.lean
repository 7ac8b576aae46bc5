import GlideRust.Error
import GlideRust.Lib.AsyncPrimitives
import GlideRust.Lib.Machine
import Mathlib.Logic.Function.Basic

/-!
# The shared Pub/Sub receiver

All clones of a client share one push receiver behind an asynchronous mutex.
The machine below moves one party at a time: `glide-core` enqueues a push or
drops its sender, a clone starts a call, a pending call is polled through one
more iteration of its loop, or a pending call is dropped at an await point.

## Implementation notes

A poll of a receiving call takes at most one push. Longer polls are several
machine steps in a row, so every interleaving of threads and tasks is an input
list, and a call may also be dropped between any two pushes it skips.
-/

namespace GlideRust.Client.Push

open Redis Error Lib AsyncPrimitives

inductive PubSubMessageKind where
  | message
  | pMessage
  | sMessage
  deriving DecidableEq, Repr

structure PubSubMessage where
  kind : PubSubMessageKind
  channel : Bytes
  payload : Bytes
  pattern : Option Bytes
  deriving DecidableEq, Repr

variable (R : RedisCrate)

/-- `value_to_bytes`: a reply that is no string is rendered by its debug text. -/
def valueToBytes : Value → Bytes
  | .bulkString b => b
  | .simpleString s => utf8 s
  | other => utf8 (R.debug other)

/-- `push_to_message`: `none` for every push that carries no message. Frame
elements past the expected ones are not looked at. -/
def pushToMessage (push : PushInfo) : Option PubSubMessage :=
  let decode (kind : PubSubMessageKind) (hasPattern : Bool) : Option PubSubMessage :=
    if hasPattern then
      match push.data with
      | pattern :: channel :: payload :: _ =>
          some ⟨kind, valueToBytes R channel, valueToBytes R payload,
            some (valueToBytes R pattern)⟩
      | _ => none
    else
      match push.data with
      | channel :: payload :: _ =>
          some ⟨kind, valueToBytes R channel, valueToBytes R payload, none⟩
      | _ => none
  match push.kind with
  | .message => decode .message false
  | .sMessage => decode .sMessage false
  | .pMessage => decode .pMessage true
  | _ => none

/-- The messages a list of pushes carries, in order. -/
def messages (pushes : List PushInfo) : List PubSubMessage :=
  pushes.filterMap (pushToMessage R)

@[simp] theorem messages_append (ps qs : List PushInfo) :
    messages R (ps ++ qs) = messages R ps ++ messages R qs := by
  simp [messages]

theorem messages_cons_some {push : PushInfo} {msg : PubSubMessage}
    (h : pushToMessage R push = some msg) (rest : List PushInfo) :
    messages R (push :: rest) = msg :: messages R rest := by
  simp [messages, h]

theorem messages_cons_none {push : PushInfo} (h : pushToMessage R push = none)
    (rest : List PushInfo) : messages R (push :: rest) = messages R rest := by
  simp [messages, h]

/-! ## Calls on the clones of one client -/

/-- Calls are numbered; any number of them may be pending. -/
abbrev CallId := Nat

/-- Which of the two public methods a call runs. -/
inductive Method where
  | getPubsubMessage
  | tryGetPubsubMessage
  deriving DecidableEq, Repr

/-- Where a call stands: not polled yet, awaiting the mutex, inside the loop
with the guard in its hands, or over. -/
inductive Phase where
  | created
  | locking
  | receiving
  | ended
  deriving DecidableEq, Repr

structure Call where
  method : Method
  phase : Phase
  deriving DecidableEq, Repr

/-- What a call returns, at the result type of its method. -/
inductive CallResult where
  | got (r : Result PubSubMessage)
  | tried (r : Result (Option PubSubMessage))
  deriving DecidableEq

/-- `PushRx`: the queue and the mutex around its receiving end. -/
structure PushRx where
  rx : Channel PushInfo
  mutex : FairMutex CallId

/-- One client with all its clones. -/
structure ClientState where
  pubsubRx : Option PushRx
  calls : CallId → Option Call

/-- `make_push_channel`. -/
def makePushChannel (hasSubscriptions : Bool) : Option PushRx :=
  if hasSubscriptions then some ⟨Channel.new, FairMutex.new⟩ else none

/-- A freshly connected client without calls. -/
def connected (hasSubscriptions : Bool) : ClientState :=
  ⟨makePushChannel hasSubscriptions, fun _ => none⟩

def notConfigured : GlideError :=
  .request "client has no configured pub/sub subscriptions"

def channelClosed : GlideError := .request "pub/sub channel closed"

/-- `pubsub_rx`. -/
def pubsubRx : Option PushRx → Result PushRx
  | some rx => .ok rx
  | none => .error notConfigured

/-- A message at the result type of the method. -/
def returnMessage (msg : PubSubMessage) : Method → CallResult
  | .getPubsubMessage => .got (.ok msg)
  | .tryGetPubsubMessage => .tried (.ok (some msg))

/-- An error at the result type of the method. -/
def returnError (err : GlideError) : Method → CallResult
  | .getPubsubMessage => .got (.error err)
  | .tryGetPubsubMessage => .tried (.error err)

/-- The message a result hands to the caller. -/
def CallResult.message? : CallResult → Option PubSubMessage
  | .got (.ok msg) => some msg
  | .tried (.ok (some msg)) => some msg
  | _ => none

/-- Inputs of the machine. -/
inductive Event where
  | push (info : PushInfo)
  | dropSender
  | call (c : CallId) (method : Method)
  | poll (c : CallId)
  | cancel (c : CallId)

/-- A call and what it returned. -/
abbrev Returned := CallId × CallResult

def setCall (s : ClientState) (c : CallId) (call : Call) : ClientState :=
  { s with calls := Function.update s.calls c (some call) }

/-- The call is over and its guard, if it had one, is dropped. -/
def finish (s : ClientState) (c : CallId) (method : Method) (shared : PushRx)
    (result : CallResult) : ClientState × List Returned :=
  (setCall { s with pubsubRx := some { shared with mutex := shared.mutex.release } } c
    ⟨method, .ended⟩, [(c, result)])

/-- `pubsub_rx(rx)?.lock()`: either the guard at once, or a place in the queue. -/
def pollCreated (s : ClientState) (c : CallId) (method : Method) :
    ClientState × List Returned :=
  match pubsubRx s.pubsubRx with
  | .error err => (setCall s c ⟨method, .ended⟩, [(c, returnError err method)])
  | .ok shared =>
      let phase := if shared.mutex.holder = none then Phase.receiving else Phase.locking
      (setCall { s with pubsubRx := some { shared with mutex := shared.mutex.acquire c } } c
        ⟨method, phase⟩, [])

/-- The awaited lock: ready once the mutex was handed to this call. -/
def pollLocking (s : ClientState) (c : CallId) (method : Method) (shared : PushRx) :
    ClientState × List Returned :=
  if shared.mutex.holder = some c then (setCall s c ⟨method, .receiving⟩, []) else (s, [])

/-- One iteration of `recv_pubsub_message` or `try_recv_pubsub_message`. They
differ in one arm: on an empty open queue the former suspends and the latter
returns `Ok(None)`. -/
def pollReceiving (s : ClientState) (c : CallId) (method : Method) (shared : PushRx) :
    ClientState × List Returned :=
  match shared.rx.receive with
  | (.item push, rx) =>
      match pushToMessage R push with
      | some msg => finish s c method { shared with rx := rx } (returnMessage msg method)
      | none => ({ s with pubsubRx := some { shared with rx := rx } }, [])
  | (.empty, _) =>
      match method with
      | .getPubsubMessage => (s, [])
      | .tryGetPubsubMessage => finish s c method shared (.tried (.ok none))
  | (.disconnected, _) => finish s c method shared (returnError channelClosed method)

/-- Poll a pending call. -/
def poll (s : ClientState) (c : CallId) (call : Call) :
    Option (ClientState × List Returned) :=
  match call.phase, s.pubsubRx with
  | .created, _ => some (pollCreated s c call.method)
  | .locking, some shared => some (pollLocking s c call.method shared)
  | .receiving, some shared => some (pollReceiving R s c call.method shared)
  | _, _ => none

/-- Await points: the lock of either method, and the `recv` of the waiting one. -/
def cancellable (call : Call) : Bool :=
  match call.phase, call.method with
  | .created, _ => true
  | .locking, _ => true
  | .receiving, .getPubsubMessage => true
  | .receiving, .tryGetPubsubMessage => false
  | .ended, _ => false

/-- Dropping a pending call gives up its place in the queue or its guard. -/
def dropCall (s : ClientState) (c : CallId) (call : Call) : ClientState :=
  match call.phase with
  | .created => setCall s c ⟨call.method, .ended⟩
  | _ => setCall { s with pubsubRx := s.pubsubRx.map fun shared =>
      { shared with mutex := shared.mutex.abandon c } } c ⟨call.method, .ended⟩

/-- The machine. A push needs a live sender, and a call number is used once. -/
def step : Machine.Step ClientState Event Returned := fun s event =>
  match event with
  | .push info =>
      match s.pubsubRx with
      | some shared =>
          if shared.rx.senderAlive then
            some ({ s with pubsubRx := some { shared with rx := shared.rx.send info } }, [])
          else none
      | none => none
  | .dropSender =>
      match s.pubsubRx with
      | some shared =>
          some ({ s with pubsubRx := some { shared with rx := shared.rx.dropSender } }, [])
      | none => none
  | .call c method =>
      match s.calls c with
      | none => some (setCall s c ⟨method, .created⟩, [])
      | some _ => none
  | .poll c =>
      match s.calls c with
      | some call => poll R s c call
      | none => none
  | .cancel c =>
      match s.calls c with
      | some call => if cancellable call then some (dropCall s c call, []) else none
      | none => none

/-! ## What an accepted input says about the call it moves -/

variable {R}

/-- A polled call is in one of the three pending phases, and its poll does what
that phase does. -/
theorem step_poll_cases {s t : ClientState} {c : CallId} {out : List Returned}
    (h : step R s (.poll c) = some (t, out)) :
    ∃ method,
      (s.calls c = some ⟨method, .created⟩ ∧ pollCreated s c method = (t, out)) ∨
      (∃ shared, s.pubsubRx = some shared ∧ s.calls c = some ⟨method, .locking⟩ ∧
        pollLocking s c method shared = (t, out)) ∨
      (∃ shared, s.pubsubRx = some shared ∧ s.calls c = some ⟨method, .receiving⟩ ∧
        pollReceiving R s c method shared = (t, out)) := by
  simp only [step] at h
  split at h
  · rename_i call hcall
    obtain ⟨method, phase⟩ := call
    refine ⟨method, ?_⟩
    cases phase with
    | created =>
        simp only [poll, Option.some.injEq] at h
        exact Or.inl ⟨hcall, h⟩
    | locking =>
        cases hrx : s.pubsubRx with
        | none => simp [poll, hrx] at h
        | some shared =>
            simp only [poll, hrx, Option.some.injEq] at h
            exact Or.inr (Or.inl ⟨shared, rfl, hcall, h⟩)
    | receiving =>
        cases hrx : s.pubsubRx with
        | none => simp [poll, hrx] at h
        | some shared =>
            simp only [poll, hrx, Option.some.injEq] at h
            exact Or.inr (Or.inr ⟨shared, rfl, hcall, h⟩)
    | ended => simp [poll] at h
  · cases h

theorem step_cancel_cases {s t : ClientState} {c : CallId} {out : List Returned}
    (h : step R s (.cancel c) = some (t, out)) :
    ∃ call, s.calls c = some call ∧ cancellable call = true ∧
      t = dropCall s c call ∧ out = [] := by
  simp only [step] at h
  split at h
  · rename_i call hcall
    split at h
    · rename_i hc
      simp only [Option.some.injEq, Prod.mk.injEq] at h
      exact ⟨call, hcall, hc, h.1.symm, h.2.symm⟩
    · cases h
  · cases h

theorem step_call_cases {s t : ClientState} {c : CallId} {method : Method}
    {out : List Returned} (h : step R s (.call c method) = some (t, out)) :
    s.calls c = none ∧ t = setCall s c ⟨method, .created⟩ ∧ out = [] := by
  simp only [step] at h
  split at h
  · rename_i hc
    simp only [Option.some.injEq, Prod.mk.injEq] at h
    exact ⟨hc, h.1.symm, h.2.symm⟩
  · cases h

theorem step_push_cases {s t : ClientState} {info : PushInfo} {out : List Returned}
    (h : step R s (.push info) = some (t, out)) :
    ∃ shared, s.pubsubRx = some shared ∧ shared.rx.senderAlive = true ∧
      t = { s with pubsubRx := some { shared with rx := shared.rx.send info } } ∧ out = [] := by
  simp only [step] at h
  split at h
  · rename_i shared hrx
    split at h
    · rename_i alive
      simp only [Option.some.injEq, Prod.mk.injEq] at h
      exact ⟨shared, hrx, alive, h.1.symm, h.2.symm⟩
    · cases h
  · cases h

theorem step_dropSender_cases {s t : ClientState} {out : List Returned}
    (h : step R s .dropSender = some (t, out)) :
    ∃ shared, s.pubsubRx = some shared ∧
      t = { s with pubsubRx := some { shared with rx := shared.rx.dropSender } } ∧
      out = [] := by
  simp only [step] at h
  split at h
  · rename_i shared hrx
    simp only [Option.some.injEq, Prod.mk.injEq] at h
    exact ⟨shared, hrx, h.1.symm, h.2.symm⟩
  · cases h

/-- Dropping a call never touches the queue. -/
theorem dropCall_rx {s : ClientState} {shared : PushRx} (h : s.pubsubRx = some shared)
    (c : CallId) (call : Call) :
    ∃ mutex, (dropCall s c call).pubsubRx = some { shared with mutex := mutex } := by
  unfold dropCall
  split
  · exact ⟨shared.mutex, h⟩
  · exact ⟨shared.mutex.abandon c, by simp [setCall, h]⟩

theorem dropCall_calls (s : ClientState) (c : CallId) (call : Call) :
    (dropCall s c call).calls = Function.update s.calls c (some ⟨call.method, .ended⟩) := by
  unfold dropCall
  split <;> rfl

/-- A poll moves only the polled call, and returns a result exactly when the
call is over. -/
theorem step_poll_calls {s t : ClientState} {c : CallId} {out : List Returned}
    (h : step R s (.poll c) = some (t, out)) :
    ∃ method phase phase', s.calls c = some ⟨method, phase⟩ ∧ phase ≠ .ended ∧
      t.calls = Function.update s.calls c (some ⟨method, phase'⟩) ∧
      (out = [] ∨ ∃ r, out = [(c, r)] ∧ phase' = .ended) := by
  have same {call : Call} (hc : s.calls c = some call) :
      s.calls = Function.update s.calls c (some call) := by
    rw [← hc, Function.update_eq_self]
  obtain ⟨method, ⟨hc, hp⟩ | ⟨shared, -, hc, hp⟩ | ⟨shared, -, hc, hp⟩⟩ := step_poll_cases h
  · refine ⟨method, .created, ?_⟩
    cases hrx : s.pubsubRx with
    | none =>
        simp only [pollCreated, hrx, pubsubRx, Prod.mk.injEq] at hp
        obtain ⟨rfl, rfl⟩ := hp
        exact ⟨_, hc, by simp, rfl, Or.inr ⟨_, rfl, rfl⟩⟩
    | some shared =>
        simp only [pollCreated, hrx, pubsubRx, Prod.mk.injEq] at hp
        obtain ⟨rfl, rfl⟩ := hp
        exact ⟨_, hc, by simp, rfl, Or.inl rfl⟩
  · refine ⟨method, .locking, ?_⟩
    simp only [pollLocking] at hp
    split at hp
    · simp only [Prod.mk.injEq] at hp
      obtain ⟨rfl, rfl⟩ := hp
      exact ⟨_, hc, by simp, rfl, Or.inl rfl⟩
    · simp only [Prod.mk.injEq] at hp
      obtain ⟨rfl, rfl⟩ := hp
      exact ⟨_, hc, by simp, same hc, Or.inl rfl⟩
  · refine ⟨method, .receiving, ?_⟩
    rcases shared.rx.receive_cases with
      ⟨push, rest, -, hr⟩ | ⟨-, -, hr⟩ | ⟨-, -, hr⟩
    · cases hm : pushToMessage R push with
      | some msg =>
          simp only [pollReceiving, hr, hm, finish, Prod.mk.injEq] at hp
          obtain ⟨rfl, rfl⟩ := hp
          exact ⟨_, hc, by simp, rfl, Or.inr ⟨_, rfl, rfl⟩⟩
      | none =>
          simp only [pollReceiving, hr, hm, Prod.mk.injEq] at hp
          obtain ⟨rfl, rfl⟩ := hp
          exact ⟨_, hc, by simp, same hc, Or.inl rfl⟩
    · cases method with
      | getPubsubMessage =>
          simp only [pollReceiving, hr, Prod.mk.injEq] at hp
          obtain ⟨rfl, rfl⟩ := hp
          exact ⟨_, hc, by simp, same hc, Or.inl rfl⟩
      | tryGetPubsubMessage =>
          simp only [pollReceiving, hr, finish, Prod.mk.injEq] at hp
          obtain ⟨rfl, rfl⟩ := hp
          exact ⟨_, hc, by simp, rfl, Or.inr ⟨_, rfl, rfl⟩⟩
    · simp only [pollReceiving, hr, finish, Prod.mk.injEq] at hp
      obtain ⟨rfl, rfl⟩ := hp
      exact ⟨_, hc, by simp, rfl, Or.inr ⟨_, rfl, rfl⟩⟩

end GlideRust.Client.Push

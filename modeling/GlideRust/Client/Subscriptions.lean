import GlideRust.Client.Connect
import Mathlib.Data.Finset.Sort
import Mathlib.Data.List.Lex

/-!
# Runtime subscriptions and what they let through

A connected client changes its subscriptions with `SUBSCRIBE` and its relatives
and takes the messages that they let through from its push queue. The server
pushes a publication to the subscriptions in force when it is published, and a
new connection starts again from the subscriptions of the configuration.

## Implementation notes

The server is known by its documented commands. How it matches patterns and in
which order it goes through them is the record `Broker`. What happens on its
side is one history; the client's run is any interleaving of its own calls with
the arrival of a first part of the pushes.
-/

namespace GlideRust.Client.Subscriptions

open Redis Error Config Config.Lowering Lib LastWrite
open Push Delivery Connect

/-! ## The subscription commands -/

section Commands

variable {C : Type} [ToRedisArgs C]

/-- `pubsub_subscribe_impl`. -/
def pubsubSubscribeImpl (keyword : String) (channels : List C) : Cmd :=
  (Cmd.new.arg keyword).argEach channels

/-- The six methods, with the channels or patterns that they are given. -/
inductive SubscriptionCall (C : Type) where
  | subscribe (channels : List C)
  | unsubscribe (channels : List C)
  | psubscribe (patterns : List C)
  | punsubscribe (patterns : List C)
  | ssubscribe (channels : List C)
  | sunsubscribe (channels : List C)

/-- The command that each method sends. -/
def SubscriptionCall.command : SubscriptionCall C → Cmd
  | subscribe channels => pubsubSubscribeImpl "SUBSCRIBE" channels
  | unsubscribe channels => pubsubSubscribeImpl "UNSUBSCRIBE" channels
  | psubscribe patterns => pubsubSubscribeImpl "PSUBSCRIBE" patterns
  | punsubscribe patterns => pubsubSubscribeImpl "PUNSUBSCRIBE" patterns
  | ssubscribe channels => pubsubSubscribeImpl "SSUBSCRIBE" channels
  | sunsubscribe channels => pubsubSubscribeImpl "SUNSUBSCRIBE" channels

/-- The kind of subscription that a call is about. -/
def SubscriptionCall.mode : SubscriptionCall C → PubSubChannelMode
  | subscribe _ | unsubscribe _ => .exact
  | psubscribe _ | punsubscribe _ => .pattern
  | ssubscribe _ | sunsubscribe _ => .sharded

/-- The tokens of all the arguments together. -/
def SubscriptionCall.names : SubscriptionCall C → List Bytes
  | subscribe cs | unsubscribe cs | psubscribe cs | punsubscribe cs | ssubscribe cs
  | sunsubscribe cs => cs.flatMap writeRedisArgs

def SubscriptionCall.adds : SubscriptionCall C → Bool
  | subscribe _ | psubscribe _ | ssubscribe _ => true
  | unsubscribe _ | punsubscribe _ | sunsubscribe _ => false

end Commands

/-! ## The server's side of a connection -/

/-- What a connection is subscribed to, by kind. -/
abbrev Session := PubSubChannelMode → Finset Bytes

namespace Session

def subscribe (s : Session) (mode : PubSubChannelMode) (names : List Bytes) : Session :=
  Function.update s mode (s mode ∪ names.toFinset)

/-- Without a name, everything of the kind is unsubscribed. -/
def unsubscribe (s : Session) (mode : PubSubChannelMode) (names : List Bytes) : Session :=
  Function.update s mode (if names = [] then ∅ else s mode \ names.toFinset)

/-- The subscription commands as the server carries them out. A command to
subscribe that names nothing is refused and changes nothing. -/
def handle (s : Session) (cmd : Cmd) : Session :=
  match cmd.args with
  | [] => s
  | keyword :: names =>
      if keyword = utf8 "SUBSCRIBE" then s.subscribe .exact names
      else if keyword = utf8 "UNSUBSCRIBE" then s.unsubscribe .exact names
      else if keyword = utf8 "PSUBSCRIBE" then s.subscribe .pattern names
      else if keyword = utf8 "PUNSUBSCRIBE" then s.unsubscribe .pattern names
      else if keyword = utf8 "SSUBSCRIBE" then s.subscribe .sharded names
      else if keyword = utf8 "SUNSUBSCRIBE" then s.unsubscribe .sharded names
      else s

end Session

/-- A push that is no message, such as a confirmation. -/
structure Notice where
  push : PushInfo
  silent : push.kind ≠ .message ∧ push.kind ≠ .pMessage ∧ push.kind ≠ .sMessage

/-- What happens at the server, in its order. -/
inductive Occurrence (C : Type) where
  | call (call : SubscriptionCall C)
  | publish (channel payload : Bytes)
  | spublish (channel payload : Bytes)
  | reconnect
  | notice (notice : Notice)

/-- Pattern matching and the order in which subscribed patterns are served. -/
structure Broker where
  globMatch : Bytes → Bytes → Bool
  enumerate : Finset Bytes → List Bytes
  mem_enumerate : ∀ names name, name ∈ enumerate names ↔ name ∈ names
  nodup_enumerate : ∀ names, (enumerate names).Nodup

/-- The subscriptions that a connection request asks for. -/
def requested (info : Option Core.PubSubSubscriptionInfo) : Session := fun mode =>
  (info.bind fun info => info mode.toCore).getD ∅

variable {C : Type} [ToRedisArgs C]

def advance (initial s : Session) : Occurrence C → Session
  | .call call => s.handle call.command
  | .reconnect => initial
  | .publish _ _ | .spublish _ _ | .notice _ => s

/-- The session after a history that began with a new connection. -/
def sessionAfter (initial : Session) (history : List (Occurrence C)) : Session :=
  history.foldl (advance initial) initial

namespace Broker

variable (broker : Broker)

/-- The subscribed patterns that a channel matches. -/
def matching (s : Session) (channel : Bytes) : List Bytes :=
  (broker.enumerate (s .pattern)).filter fun pattern => broker.globMatch pattern channel

/-- The pushes of one occurrence. -/
def pushes (s : Session) : Occurrence C → List PushInfo
  | .publish channel payload =>
      (if channel ∈ s .exact then [⟨.message, [.bulkString channel, .bulkString payload]⟩]
        else []) ++
        (broker.matching s channel).map fun pattern =>
          ⟨.pMessage, [.bulkString pattern, .bulkString channel, .bulkString payload]⟩
  | .spublish channel payload =>
      if channel ∈ s .sharded then [⟨.sMessage, [.bulkString channel, .bulkString payload]⟩]
      else []
  | .notice notice => [notice.push]
  | .call _ | .reconnect => []

/-- All pushes of a history, from a session on. -/
def sent (initial : Session) : Session → List (Occurrence C) → List PushInfo
  | _, [] => []
  | s, o :: rest => broker.pushes s o ++ sent initial (advance initial s o) rest

/-- The messages that one occurrence means for a subscriber. -/
def received (s : Session) : Occurrence C → List PubSubMessage
  | .publish channel payload =>
      (if channel ∈ s .exact then [⟨.message, channel, payload, none⟩] else []) ++
        (broker.matching s channel).map fun pattern =>
          ⟨.pMessage, channel, payload, some pattern⟩
  | .spublish channel payload =>
      if channel ∈ s .sharded then [⟨.sMessage, channel, payload, none⟩] else []
  | .call _ | .reconnect | .notice _ => []

def expected (initial : Session) : Session → List (Occurrence C) → List PubSubMessage
  | _, [] => []
  | s, o :: rest => broker.received s o ++ expected initial (advance initial s o) rest

end Broker

/-! ## Subscriptions in force -/

/-- What an occurrence decides about one subscription. -/
def decides (initial : Session) (mode : PubSubChannelMode) (name : Bytes) :
    Occurrence C → Option Bool
  | .call call =>
      if call.mode = mode ∧
          (name ∈ call.names.toFinset ∨ call.adds = false ∧ call.names = []) then
        some call.adds
      else none
  | .reconnect => some (decide (name ∈ initial mode))
  | .publish _ _ | .spublish _ _ | .notice _ => none

/-- A subscription is in force when the last occurrence that decides about it put
it in force, or when nothing did and the connection began with it. -/
def InForce (initial : Session) (history : List (Occurrence C)) (mode : PubSubChannelMode)
    (name : Bytes) : Prop :=
  (lastGiven (decides initial mode name) history).getD (decide (name ∈ initial mode)) = true

theorem handle_command (s : Session) (call : SubscriptionCall C) :
    s.handle call.command = if call.adds then s.subscribe call.mode call.names
      else s.unsubscribe call.mode call.names := by
  cases call <;>
    simp only [SubscriptionCall.command, pubsubSubscribeImpl, Session.handle, Cmd.args_argEach,
      Cmd.args_arg, Cmd.args_new, writeRedisArgs_string, List.nil_append, List.singleton_append,
      SubscriptionCall.adds, SubscriptionCall.mode, SubscriptionCall.names, if_true] <;> rfl

theorem mem_subscribe (s : Session) (mode mode' : PubSubChannelMode) (names : List Bytes)
    (name : Bytes) :
    name ∈ s.subscribe mode names mode' ↔ name ∈ s mode' ∨ mode = mode' ∧ name ∈ names := by
  unfold Session.subscribe
  by_cases h : mode = mode'
  · subst h
    simp
  · simp [h, Function.update_of_ne (Ne.symm h)]

theorem mem_unsubscribe (s : Session) (mode mode' : PubSubChannelMode) (names : List Bytes)
    (name : Bytes) :
    name ∈ s.unsubscribe mode names mode' ↔
      name ∈ s mode' ∧ ¬(mode = mode' ∧ (name ∈ names ∨ names = [])) := by
  unfold Session.unsubscribe
  by_cases h : mode = mode'
  · subst h
    by_cases hnames : names = []
    · simp [hnames]
    · simp [hnames]
  · simp [h, Function.update_of_ne (Ne.symm h)]

/-- One occurrence overwrites what it decides and leaves the rest alone. -/
theorem mem_advance (initial s : Session) (o : Occurrence C) (mode : PubSubChannelMode)
    (name : Bytes) :
    decide (name ∈ advance initial s o mode) =
      ((decides initial mode name o).map id).getD (decide (name ∈ s mode)) := by
  rw [Option.map_id, id]
  cases o with
  | call call =>
      rw [advance, handle_command, decides]
      cases hadds : call.adds with
      | true =>
          simp only [if_true, mem_subscribe, Bool.true_eq_false, false_and, or_false,
            List.mem_toFinset]
          by_cases h : call.mode = mode ∧ name ∈ call.names
          · simp [h]
          · simp [h]
      | false =>
          simp only [Bool.false_eq_true, if_false, mem_unsubscribe, true_and, List.mem_toFinset]
          by_cases h : call.mode = mode ∧ (name ∈ call.names ∨ call.names = [])
          · simp [h]
          · simp [h]
  | reconnect => rfl
  | publish _ _ | spublish _ _ | notice _ => rfl

theorem mem_sessionAfter_iff (initial : Session) (history : List (Occurrence C))
    (mode : PubSubChannelMode) (name : Bytes) :
    name ∈ sessionAfter initial history mode ↔ InForce initial history mode name := by
  have hlast : decide (name ∈ history.foldl (advance initial) initial mode) =
      ((lastGiven (decides initial mode name) history).map id).getD
        (decide (name ∈ initial mode)) :=
    @get_foldl _ _ _ _ _ (advance initial) (fun s => decide (name ∈ s mode)) _
      (fun s o => mem_advance initial s o mode name) history initial
  rw [Option.map_id, id] at hlast
  rw [InForce, ← hlast, decide_eq_true_iff, sessionAfter]

/-! ## What the pushes carry -/

variable {R : RedisCrate} (broker : Broker)

theorem pushToMessage_notice (notice : Notice) : pushToMessage R notice.push = none := by
  obtain ⟨⟨kind, data⟩, hmessage, hpMessage, hsMessage⟩ := notice
  cases kind with
  | message => exact absurd rfl hmessage
  | pMessage => exact absurd rfl hpMessage
  | sMessage => exact absurd rfl hsMessage
  | _ => rfl

omit [ToRedisArgs C] in
theorem messages_pushes (s : Session) (o : Occurrence C) :
    messages R (broker.pushes s o) = broker.received s o := by
  cases o with
  | publish channel payload =>
      have hpatterns : messages R ((broker.matching s channel).map fun pattern =>
          ⟨.pMessage, [.bulkString pattern, .bulkString channel, .bulkString payload]⟩) =
            (broker.matching s channel).map fun pattern =>
              ⟨.pMessage, channel, payload, some pattern⟩ := by
        rw [messages, List.filterMap_map, ← List.filterMap_eq_map]
        rfl
      rw [Broker.pushes, Broker.received, messages_append, hpatterns]
      congr 1
      split <;> rfl
  | spublish channel payload =>
      rw [Broker.pushes, Broker.received]
      split <;> rfl
  | notice notice => exact messages_cons_none R (pushToMessage_notice notice) []
  | call call | reconnect => rfl

/-- The messages of a history are those of its occurrences, each at its session. -/
theorem messages_sent (initial s : Session) (history : List (Occurrence C)) :
    messages R (broker.sent initial s history) = broker.expected initial s history := by
  induction history generalizing s with
  | nil => rfl
  | cons o rest ih => rw [Broker.sent, Broker.expected, messages_append, messages_pushes, ih]

theorem mem_expected {initial s : Session} {history : List (Occurrence C)} {msg : PubSubMessage}
    (h : msg ∈ broker.expected initial s history) :
    ∃ before o after, history = before ++ o :: after ∧
      msg ∈ broker.received (before.foldl (advance initial) s) o := by
  induction history generalizing s with
  | nil => exact absurd h List.not_mem_nil
  | cons o rest ih =>
      rw [Broker.expected] at h
      rcases List.mem_append.mp h with hhead | htail
      · exact ⟨[], o, rest, rfl, hhead⟩
      · obtain ⟨before, o', after, rfl, hmem⟩ := ih htail
        exact ⟨o :: before, o', after, rfl, hmem⟩

theorem mem_matching (s : Session) (channel pattern : Bytes) :
    pattern ∈ broker.matching s channel ↔
      pattern ∈ s .pattern ∧ broker.globMatch pattern channel = true := by
  rw [Broker.matching, List.mem_filter, broker.mem_enumerate]

omit [ToRedisArgs C] in
/-- One publication is received at most once for each subscription. -/
theorem nodup_received (s : Session) (o : Occurrence C) : (broker.received s o).Nodup := by
  cases o with
  | publish channel payload =>
      have hpatterns : ((broker.matching s channel).map fun pattern =>
          (⟨.pMessage, channel, payload, some pattern⟩ : PubSubMessage)).Nodup := by
        apply List.Nodup.map
        · intro p q hpq
          simpa using hpq
        · exact (broker.nodup_enumerate _).filter _
      rw [Broker.received]
      split
      · refine List.nodup_cons.mpr ⟨?_, hpatterns⟩
        simp
      · exact hpatterns
  | spublish channel payload =>
      rw [Broker.received]
      split
      · exact List.nodup_singleton _
      · exact List.nodup_nil
  | call call | reconnect | notice notice => exact List.nodup_nil

/-- A message that a subscription in force let through when it was published. -/
inductive LetThrough (initial : Session) (history : List (Occurrence C)) : PubSubMessage → Prop
  | exact {before after channel payload}
      (published : history = before ++ .publish channel payload :: after)
      (inForce : InForce initial before .exact channel) :
      LetThrough initial history ⟨.message, channel, payload, none⟩
  | pattern {before after channel payload pattern}
      (published : history = before ++ .publish channel payload :: after)
      (inForce : InForce initial before .pattern pattern)
      (matched : broker.globMatch pattern channel = true) :
      LetThrough initial history ⟨.pMessage, channel, payload, some pattern⟩
  | sharded {before after channel payload}
      (published : history = before ++ .spublish channel payload :: after)
      (inForce : InForce initial before .sharded channel) :
      LetThrough initial history ⟨.sMessage, channel, payload, none⟩

theorem letThrough_of_mem_expected {initial : Session} {history : List (Occurrence C)}
    {msg : PubSubMessage} (h : msg ∈ broker.expected initial initial history) :
    LetThrough broker initial history msg := by
  obtain ⟨before, o, after, hhistory, hmem⟩ := mem_expected broker h
  change msg ∈ broker.received (sessionAfter initial before) o at hmem
  cases o with
  | publish channel payload =>
      rw [Broker.received, List.mem_append] at hmem
      rcases hmem with hexact | hpattern
      · split at hexact
        · rename_i hin
          rw [List.mem_singleton.mp hexact]
          exact .exact hhistory ((mem_sessionAfter_iff ..).mp hin)
        · exact absurd hexact List.not_mem_nil
      · obtain ⟨pattern, hmatching, rfl⟩ := List.mem_map.mp hpattern
        obtain ⟨hin, hmatch⟩ := (mem_matching ..).mp hmatching
        exact .pattern hhistory ((mem_sessionAfter_iff ..).mp hin) hmatch
  | spublish channel payload =>
      rw [Broker.received] at hmem
      split at hmem
      · rename_i hin
        rw [List.mem_singleton.mp hmem]
        exact .sharded hhistory ((mem_sessionAfter_iff ..).mp hin)
      · exact absurd hmem List.not_mem_nil
  | call call | reconnect | notice notice => exact absurd hmem List.not_mem_nil

/-! ## Delivery -/

/-- Everything that was sent has arrived, and nothing of it is left in the queue. -/
def CaughtUp (sent : List PushInfo) (events : List Event) (t : ClientState) : Prop :=
  enqueued events = sent ∧ ∃ shared, t.pubsubRx = some shared ∧ shared.rx.buffer = []

/-- A client without a channel returns no message. -/
theorem delivered_without {s t : ClientState} {events : List Event} {outs : List Returned}
    (hnone : s.pubsubRx = none) (hrun : Machine.run (step R) s events = some (t, outs)) :
    delivered outs = [] := by
  obtain ⟨-, -, herror⟩ := run_without hnone hrun
  rw [delivered, List.filterMap_eq_nil_iff]
  intro o ho
  obtain ⟨method, hresult⟩ := herror o ho
  rw [hresult]
  cases method <;> rfl

/-- What arrives is delivered in order, up to what is still in the queue. -/
theorem delivered_of_arrived {listens : Bool} {t : ClientState} {events : List Event}
    {outs : List Returned}
    (hrun : Machine.run (step R) (connected listens) events = some (t, outs)) :
    delivered outs <+: messages R (enqueued events) := by
  cases listens with
  | false =>
      rw [delivered_without rfl hrun]
      exact List.nil_prefix
  | true =>
      obtain ⟨⟨shared, -, hconserved⟩, -⟩ := run_conserved hrun
      rw [hconserved.fifo]
      exact List.prefix_append _ _

theorem delivered_of_caughtUp {listens : Bool} {t : ClientState} {events : List Event}
    {outs : List Returned} {sent : List PushInfo}
    (hrun : Machine.run (step R) (connected listens) events = some (t, outs))
    (hcaught : CaughtUp sent events t) : delivered outs = messages R sent := by
  obtain ⟨harrived, shared, hrx, hempty⟩ := hcaught
  cases listens with
  | false =>
      obtain ⟨hnone, -, -⟩ := run_without rfl hrun
      rw [delivered_without rfl hrun, ← harrived, hnone]
      rfl
  | true =>
      obtain ⟨⟨shared', hrx', hconserved⟩, -⟩ := run_conserved hrun
      rw [hrx] at hrx'
      cases hrx'
      rw [← harrived, hconserved.fifo, hempty]
      simp [messages]

theorem mem_expected_of_received {initial s : Session} {before after : List (Occurrence C)}
    {o : Occurrence C} {msg : PubSubMessage}
    (h : msg ∈ broker.received (before.foldl (advance initial) s) o) :
    msg ∈ broker.expected initial s (before ++ o :: after) := by
  induction before generalizing s with
  | nil => exact List.mem_append_left _ h
  | cons o' before ih => exact List.mem_append_right _ (ih h)

theorem mem_expected_iff_letThrough (initial : Session) (history : List (Occurrence C))
    (msg : PubSubMessage) :
    msg ∈ broker.expected initial initial history ↔ LetThrough broker initial history msg := by
  constructor
  · exact letThrough_of_mem_expected broker
  · intro h
    cases h with
    | exact published inForce =>
        rw [published]
        apply mem_expected_of_received
        have hin := (mem_sessionAfter_iff ..).mpr inForce
        rw [Broker.received, ← sessionAfter, if_pos hin]
        exact List.mem_append_left _ (List.mem_singleton_self _)
    | pattern published inForce matched =>
        rw [published]
        apply mem_expected_of_received
        have hin := (mem_sessionAfter_iff ..).mpr inForce
        apply List.mem_append_right
        exact List.mem_map_of_mem ((mem_matching ..).mpr ⟨hin, matched⟩)
    | sharded published inForce =>
        rw [published]
        apply mem_expected_of_received
        have hin := (mem_sessionAfter_iff ..).mpr inForce
        rw [Broker.received, ← sessionAfter, if_pos hin]
        exact List.mem_singleton_self _

variable {ω : Type}

/-- The subscriptions that a configuration asks the core for. -/
def initially (core : ConnectionRequest ω) (cfg : CommonConfig) : Session :=
  requested (cfg.commonRequest core).pubsubSubscriptions

theorem pubsubSubscriptions_commonRequest {core : ConnectionRequest ω}
    (hcore : core.pubsubSubscriptions = none) (cfg : CommonConfig) :
    (cfg.commonRequest core).pubsubSubscriptions =
      cfg.pubsubSubscriptions.map PubSubSubscriptions.toCore := by
  rw [CommonConfig.commonRequest_eq]
  simp only [hcore, Option.or_none]

theorem mem_initially_iff {core : ConnectionRequest ω} (hcore : core.pubsubSubscriptions = none)
    (cfg : CommonConfig) (mode : PubSubChannelMode) (name : Bytes) :
    name ∈ initially core cfg mode ↔ ∃ subs set, cfg.pubsubSubscriptions = some subs ∧
      subs.channels mode = some set ∧ name ∈ set := by
  rw [initially, pubsubSubscriptions_commonRequest hcore, requested]
  cases hsubs : cfg.pubsubSubscriptions with
  | none => simp
  | some subs =>
      rw [Option.map_some, Option.bind_some, toCore_apply]
      cases hset : subs.channels mode with
      | none => simp [hset]
      | some set => simp [hset]

/-- A connection begins with the configured subscriptions. Whatever the client
and the server do, and however the arrival of pushes interleaves with the calls
on all clones, a message is returned only if a subscription in force let it
through when it was published: the last call that decides about the subscription
since the connection was made put it in force, or the configuration did and no
call has. Messages come in the order of their publication, each once for each
subscription, and a client that has caught up has got all of them. -/
theorem subscriptions_in_force_decide_delivery (R : RedisCrate) (broker : Broker)
    (core : ConnectionRequest ω) (hcore : core.pubsubSubscriptions = none) (cfg : CommonConfig)
    (history : List (Occurrence C)) (events : List Event) (t : ClientState)
    (outs : List Returned)
    (hrun : Machine.run (step R) ⟨pushRx cfg, fun _ => none⟩ events = some (t, outs))
    (harrived : enqueued events <+:
      broker.sent (initially core cfg) (initially core cfg) history) :
    (∀ mode name, name ∈ initially core cfg mode ↔ ∃ subs set,
      cfg.pubsubSubscriptions = some subs ∧ subs.channels mode = some set ∧ name ∈ set) ∧
    delivered outs <+: broker.expected (initially core cfg) (initially core cfg) history ∧
    (∀ msg ∈ delivered outs, LetThrough broker (initially core cfg) history msg) ∧
    (CaughtUp (broker.sent (initially core cfg) (initially core cfg) history) events t →
      delivered outs = broker.expected (initially core cfg) (initially core cfg) history ∧
      ∀ msg, LetThrough broker (initially core cfg) history msg → msg ∈ delivered outs) ∧
    ∀ (before : List (Occurrence C)) (o : Occurrence C),
      (broker.received (sessionAfter (initially core cfg) before) o).Nodup := by
  have hfirst : delivered outs <+:
      broker.expected (initially core cfg) (initially core cfg) history := by
    rw [← messages_sent (R := R)]
    exact (delivered_of_arrived hrun).trans (harrived.filterMap _)
  refine ⟨mem_initially_iff hcore cfg, hfirst, ?_, ?_, ?_⟩
  · intro msg hmsg
    exact letThrough_of_mem_expected broker (hfirst.subset hmsg)
  · intro hcaught
    have hall := delivered_of_caughtUp hrun hcaught
    rw [messages_sent] at hall
    refine ⟨hall, ?_⟩
    intro msg hlet
    rw [hall]
    exact (mem_expected_iff_letThrough ..).mpr hlet
  · intro before o
    exact nodup_received broker _ o

/-- A server whose patterns match their own text only. -/
def literalBroker : Broker where
  globMatch pattern channel := decide (pattern = channel)
  enumerate names := names.sort (· ≤ ·)
  mem_enumerate _ _ := Finset.mem_sort _
  nodup_enumerate _ := Finset.sort_nodup _ _

def oneChannel : CommonConfig :=
  { CommonConfig.new [] with pubsubSubscriptions := some (subscribeAll [(.exact, [99])]) }

/-- A call to unsubscribe whose only argument writes no token unsubscribes from
everything, and a new connection subscribes again. -/
def lapse : List (Occurrence (List Bytes)) :=
  [.publish [99] [1], .call (.unsubscribe [[]]), .publish [99] [2], .reconnect,
    .publish [99] [3]]

/-- Both pushes arrive, and two calls take them. -/
def reader : List Event :=
  [.push ⟨.message, [.bulkString [99], .bulkString [1]]⟩, .call 0 .getPubsubMessage, .poll 0,
    .poll 0, .push ⟨.message, [.bulkString [99], .bulkString [3]]⟩, .call 1 .tryGetPubsubMessage,
    .poll 1, .poll 1]

theorem subscriptions_in_force_decide_delivery_lapse :
    ∃ t outs, Machine.run (step .stringsOnly) ⟨pushRx oneChannel, fun _ => none⟩ reader =
        some (t, outs) ∧
      delivered outs = [⟨.message, [99], [1], none⟩, ⟨.message, [99], [3], none⟩] ∧
      ∀ msg ∈ delivered outs,
        LetThrough literalBroker (initially defaultRequest oneChannel) lapse msg := by
  let initial := initially defaultRequest oneChannel
  let later := initial.handle (SubscriptionCall.unsubscribe [([] : List Bytes)]).command
  have hexact : [99] ∈ initial .exact ∧ [99] ∉ later .exact := by decide
  have hpattern : literalBroker.matching initial [99] = [] ∧
      literalBroker.matching later [99] = [] := by
    have hempty : initial .pattern = ∅ ∧ later .pattern = ∅ := by decide
    rw [Broker.matching, Broker.matching, hempty.1, hempty.2]
    exact ⟨congrArg (List.filter _) (Finset.sort_empty _),
      congrArg (List.filter _) (Finset.sort_empty _)⟩
  have hsent : literalBroker.sent initial initial lapse = enqueued reader := by
    change literalBroker.pushes initial _ ++ ([] ++ (literalBroker.pushes later _ ++ ([] ++
      (literalBroker.pushes initial _ ++ [])))) = _
    simp only [Broker.pushes, hexact, if_true, if_false, hpattern]
    rfl
  refine ⟨_, _, rfl, rfl, ?_⟩
  exact (subscriptions_in_force_decide_delivery .stringsOnly literalBroker defaultRequest rfl
    oneChannel lapse reader _ _ rfl (hsent ▸ List.prefix_rfl)).2.2.1

end GlideRust.Client.Subscriptions

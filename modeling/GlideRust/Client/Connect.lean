import GlideRust.Client.Delivery
import GlideRust.Config.Lowering

/-!
# Connecting, and what becomes of Pub/Sub calls

`connect` makes a push channel when the last given subscriptions name a channel,
or when `enable_pubsub` was called. The sending end goes to `glide-core` with the
request, the receiving end stays with the client. Whether a client's Pub/Sub
calls can ever return a message is thereby settled for all its runs.

## Implementation notes

`CoreClient::new` is not part of this repository. It is a parameter that sees the
request and whether a sender came with it.
-/

namespace GlideRust.Client.Connect

open Redis Error Config Config.Lowering Lib LastWrite
open Push Delivery

variable {ω γ : Type}

/-- What both `connect` functions make for the shared settings: `make_push_channel`
on the subscriptions and the flag of `enable_pubsub`. -/
def pushRx (cfg : CommonConfig) : Option PushRx :=
  let hasSubs := cfg.pubsubSubscriptions.any fun subs => !subs.isEmpty
  makePushChannel (hasSubs || cfg.forcePubsubChannel)

/-- `GlideClient`. -/
structure GlideClient (γ : Type) where
  inner : γ
  pubsubRx : Option PushRx
  db : Int64

/-- `GlideClusterClient`. -/
structure GlideClusterClient (γ : Type) where
  inner : γ
  pubsubRx : Option PushRx

section Connect

variable (new : ConnectionRequest ω → Bool → Except ConnectionError γ)

/-- `GlideClient::connect`. -/
def GlideClient.connect (core : ConnectionRequest ω) (config : GlideClientConfiguration) :
    Result (GlideClient γ) := do
  let db := config.databaseId
  let request := config.toRequest core
  let rx := pushRx config.common
  let inner ← mapConnectionErr (new request rx.isSome)
  return ⟨inner, rx, db⟩

/-- `GlideClusterClient::connect`. -/
def GlideClusterClient.connect (core : ConnectionRequest ω)
    (config : GlideClusterClientConfiguration) : Result (GlideClusterClient γ) := do
  let request := config.toRequest core
  let rx := pushRx config.common
  let inner ← mapConnectionErr (new request rx.isSome)
  return ⟨inner, rx⟩

end Connect

/-! ## When there is a channel -/

theorem isEmpty_iff (subs : PubSubSubscriptions) :
    subs.isEmpty = true ↔ ∀ mode set, subs.channels mode = some set → set = ∅ := by
  unfold PubSubSubscriptions.isEmpty
  rw [List.all_eq_true]
  constructor
  · intro hall mode set hset
    have hmode := hall mode (by cases mode <;> simp)
    rw [hset] at hmode
    exact of_decide_eq_true hmode
  · intro hempty mode _
    split
    · rename_i set hset
      exact decide_eq_true (hempty mode set hset)
    · rfl

/-- The builder calls ask for a channel: `enable_pubsub` is among them, or the
subscriptions that were given last name a channel. -/
def Listens (calls : List CommonSetter) : Prop :=
  CommonSetter.enablePubsub ∈ calls ∨
    ∃ subs mode set channel, lastGiven subscriptions? calls = some subs ∧
      subs.channels mode = some set ∧ channel ∈ set

theorem force_foldl (calls : List CommonSetter) (cfg : CommonConfig) :
    (calls.foldl CommonConfig.apply cfg).forcePubsubChannel = true ↔
      cfg.forcePubsubChannel = true ∨ CommonSetter.enablePubsub ∈ calls := by
  induction calls generalizing cfg with
  | nil => simp
  | cons call calls ih =>
      rw [List.foldl_cons, ih, List.mem_cons]
      cases call <;> simp [CommonConfig.apply]

theorem pushRx_isSome_iff (addresses : List NodeAddress) (calls : List CommonSetter) :
    (pushRx (calls.foldl CommonConfig.apply (.new addresses))).isSome = true ↔ Listens calls := by
  have hforce : (calls.foldl CommonConfig.apply (.new addresses)).forcePubsubChannel = true ↔
      CommonSetter.enablePubsub ∈ calls := by
    rw [force_foldl]
    simp [CommonConfig.new]
  have hsubs : (calls.foldl CommonConfig.apply (.new addresses)).pubsubSubscriptions =
      lastGiven subscriptions? calls := by
    rw [foldl_apply_eq_configured]
    rfl
  have hsome (b : Bool) : (makePushChannel b).isSome = b := by
    cases b <;> rfl
  rw [pushRx, hsome, hsubs, Bool.or_eq_true, hforce, Option.any_eq_true, Listens, or_comm]
  apply or_congr_right
  simp only [Bool.not_eq_true', ← Bool.not_eq_true, isEmpty_iff]
  push Not
  constructor
  · rintro ⟨subs, hlast, mode, set, hset, channel, hchannel⟩
    exact ⟨subs, mode, set, channel, hlast, hset, hchannel⟩
  · rintro ⟨subs, mode, set, channel, hlast, hset, hchannel⟩
    exact ⟨subs, hlast, mode, set, hset, channel, hchannel⟩

/-! ## What becomes of the calls -/

variable {R : RedisCrate}

def polled? : Event → Option CallId
  | .poll c => some c
  | _ => none

/-- A client without a receiver stays without one: no push reaches it, and the
poll of a call ends it with the error for a missing configuration. -/
theorem step_without {s t : ClientState} {event : Event} {out : List Returned}
    (hnone : s.pubsubRx = none) (hstep : step R s event = some (t, out)) :
    t.pubsubRx = none ∧ pushed? event = none ∧ out.map Prod.fst = (polled? event).toList ∧
      ∀ o ∈ out, ∃ method, o.2 = returnError notConfigured method := by
  cases event with
  | push info =>
      obtain ⟨shared, hrx, -⟩ := step_push_cases hstep
      rw [hnone] at hrx
      cases hrx
  | dropSender =>
      obtain ⟨shared, hrx, -⟩ := step_dropSender_cases hstep
      rw [hnone] at hrx
      cases hrx
  | call c method =>
      obtain ⟨-, rfl, rfl⟩ := step_call_cases hstep
      exact ⟨hnone, rfl, rfl, by simp⟩
  | poll c =>
      obtain ⟨method, ⟨-, hp⟩ | ⟨shared, hrx, -⟩ | ⟨shared, hrx, -⟩⟩ := step_poll_cases hstep
      · simp only [pollCreated, hnone, Push.pubsubRx, Prod.mk.injEq] at hp
        obtain ⟨rfl, rfl⟩ := hp
        refine ⟨hnone, rfl, rfl, ?_⟩
        intro o ho
        rw [List.mem_singleton.mp ho]
        exact ⟨method, rfl⟩
      · rw [hnone] at hrx
        cases hrx
      · rw [hnone] at hrx
        cases hrx
  | cancel c =>
      obtain ⟨call, -, -, rfl, rfl⟩ := step_cancel_cases hstep
      refine ⟨?_, rfl, rfl, by simp⟩
      unfold dropCall
      split
      · exact hnone
      · simp only [setCall, hnone, Option.map_none]

/-- No move of the queue reports a missing configuration. -/
theorem queueStep_configured {ch ch' : Lib.AsyncPrimitives.Channel PushInfo} {event : Event}
    {out : List Returned} (h : QueueStep R ch event ch' out) :
    ∀ o ∈ out, ∀ method, o.2 ≠ returnError notConfigured method := by
  have hdiffer : notConfigured ≠ channelClosed := by decide
  intro o ho method
  cases h with
  | enqueue | disconnect | silent | skip => cases ho
  | @deliver c method' push rest msg front decoded =>
      rw [List.mem_singleton.mp ho]
      cases method <;> cases method' <;> simp [returnMessage, returnError]
  | nothing drained alive =>
      rw [List.mem_singleton.mp ho]
      cases method <;> simp [returnError]
  | @closed c method' drained gone =>
      rw [List.mem_singleton.mp ho]
      cases method <;> cases method' <;> simp [returnError, hdiffer.symm]

/-- A client with a receiver keeps it, and none of its calls reports a missing
configuration. -/
theorem step_with {s t : ClientState} {event : Event} {out : List Returned}
    (hsome : s.pubsubRx.isSome = true) (hstep : step R s event = some (t, out)) :
    t.pubsubRx.isSome = true ∧ ∀ o ∈ out, ∀ method, o.2 ≠ returnError notConfigured method := by
  obtain ⟨shared, hrx⟩ := Option.isSome_iff_exists.mp hsome
  obtain ⟨shared', hrx', hqueue⟩ := step_queue hrx hstep
  refine ⟨?_, queueStep_configured hqueue⟩
  rw [hrx', Option.isSome_some]

/-- Without a channel every poll of every run ends its call with one error. -/
theorem run_without {s t : ClientState} {events : List Event} {outs : List Returned}
    (hnone : s.pubsubRx = none) (hrun : Machine.run (step R) s events = some (t, outs)) :
    enqueued events = [] ∧ outs.map Prod.fst = events.filterMap polled? ∧
      ∀ o ∈ outs, ∃ method, o.2 = returnError notConfigured method := by
  induction events generalizing s outs with
  | nil =>
      cases hrun
      simp [enqueued]
  | cons event rest ih =>
      obtain ⟨mid, out, later, hstep, hrest, rfl⟩ := Machine.run_cons_eq_some.mp hrun
      obtain ⟨hmid, hpushed, hout, herror⟩ := step_without hnone hstep
      obtain ⟨hpushed', hout', herror'⟩ := ih hmid hrest
      refine ⟨?_, ?_, ?_⟩
      · rw [enqueued, List.filterMap_cons_none hpushed]
        exact hpushed'
      · rw [List.map_append, hout, hout']
        cases hpoll : polled? event with
        | none => rw [List.filterMap_cons_none hpoll]; rfl
        | some c => rw [List.filterMap_cons_some hpoll]; rfl
      · rw [List.forall_mem_append]
        exact ⟨herror, herror'⟩

theorem run_with {s t : ClientState} {events : List Event} {outs : List Returned}
    (hsome : s.pubsubRx.isSome = true) (hrun : Machine.run (step R) s events = some (t, outs)) :
    ∀ o ∈ outs, ∀ method, o.2 ≠ returnError notConfigured method := by
  induction events generalizing s outs with
  | nil =>
      cases hrun
      simp
  | cons event rest ih =>
      obtain ⟨mid, out, later, hstep, hrest, rfl⟩ := Machine.run_cons_eq_some.mp hrun
      obtain ⟨hmid, hout⟩ := step_with hsome hstep
      rw [List.forall_mem_append]
      exact ⟨hout, ih hmid hrest⟩

/-! ## The whole of it -/

/-- How a client hears, that was connected with the given shared settings: what
it told the core, and what its calls return in all runs from there. -/
structure Hears (R : RedisCrate) (calls : List CommonSetter) (request : ConnectionRequest ω)
    (rx : Option PushRx) : Prop where
  channel : rx.isSome = true ↔ Listens calls
  subscribed : ∀ info kind set channel, request.pubsubSubscriptions = some info →
    info kind = some set → channel ∈ set → rx.isSome = true
  deaf : ¬Listens calls → ∀ events s outs,
    Machine.run (step R) ⟨rx, fun _ => none⟩ events = some (s, outs) →
      enqueued events = [] ∧ outs.map Prod.fst = events.filterMap polled? ∧
        ∀ o ∈ outs, ∃ method, o.2 = returnError notConfigured method
  configured : Listens calls → ∀ events s outs,
    Machine.run (step R) ⟨rx, fun _ => none⟩ events = some (s, outs) →
      ∀ o ∈ outs, ∀ method, o.2 ≠ returnError notConfigured method

theorem hears (R : RedisCrate) (addresses : List NodeAddress) {core request : ConnectionRequest ω}
    {calls : List CommonSetter} (hcore : core.pubsubSubscriptions = none)
    (hrequest : request.pubsubSubscriptions =
      (lower core addresses (settings calls)).pubsubSubscriptions) :
    Hears R calls request (pushRx (calls.foldl CommonConfig.apply (.new addresses))) := by
  have hchannel := pushRx_isSome_iff addresses calls
  refine ⟨hchannel, ?_, ?_, ?_⟩
  · intro info kind set channel hinfo hset hmem
    rw [hrequest, lower, hcore, Option.or_none] at hinfo
    obtain ⟨subs, hlast, rfl⟩ := Option.map_eq_some_iff.mp hinfo
    cases kind with
    | exact => exact hchannel.mpr (Or.inr ⟨subs, .exact, set, channel, hlast, hset, hmem⟩)
    | pattern => exact hchannel.mpr (Or.inr ⟨subs, .pattern, set, channel, hlast, hset, hmem⟩)
    | sharded => exact hchannel.mpr (Or.inr ⟨subs, .sharded, set, channel, hlast, hset, hmem⟩)
  · intro hdeaf events s outs hrun
    rw [← hchannel, Bool.not_eq_true, Option.isSome_eq_false_iff, Option.isNone_iff_eq_none] at hdeaf
    exact run_without hdeaf hrun
  · intro hopen events s outs hrun
    exact run_with (hchannel.mpr hopen) hrun

/-- Both `connect` functions hand the core the lowered request and, exactly when
the builder calls ask for it, the sender of a push channel. A request that
subscribes to anything always comes with a sender. Without a channel, every poll
of a Pub/Sub call, in every interleaving of calls on all clones, ends that call
with the error for a missing configuration; with one, no call ever does. -/
theorem pubsub_calls_follow_configuration (R : RedisCrate)
    (new : ConnectionRequest ω → Bool → Except ConnectionError γ) (core : ConnectionRequest ω)
    (hcore : core.pubsubSubscriptions = none) (addresses : List NodeAddress) :
    (∀ calls : List (Setter Int64), ∃ rx,
      Hears R (calls.filterMap common?)
        ((GlideClientConfiguration.build addresses calls).toRequest core) rx ∧
      GlideClient.connect new core (.build addresses calls) =
        (mapConnectionErr (new ((GlideClientConfiguration.build addresses calls).toRequest core)
          rx.isSome)).map fun inner => ⟨inner, rx, (lastGiven own? calls).getD 0⟩) ∧
    (∀ calls : List (Setter PeriodicChecks), ∃ rx,
      Hears R (calls.filterMap common?)
        ((GlideClusterClientConfiguration.build addresses calls).toRequest core) rx ∧
      GlideClusterClient.connect new core (.build addresses calls) =
        (mapConnectionErr (new
          ((GlideClusterClientConfiguration.build addresses calls).toRequest core)
          rx.isSome)).map fun inner => ⟨inner, rx⟩) := by
  constructor
  · intro calls
    have hcommon : (GlideClientConfiguration.build addresses calls).common =
        (calls.filterMap common?).foldl CommonConfig.apply (.new addresses) :=
      common_foldl (fun _ _ => rfl) (fun _ _ => rfl) calls _
    have hdb : (GlideClientConfiguration.build addresses calls).databaseId =
        (lastGiven own? calls).getD 0 :=
      congrArg ConnectionRequest.databaseId (standalone_toRequest_eq core addresses calls)
    refine ⟨_, hears R addresses hcore ?_, ?_⟩
    · rw [standalone_toRequest_eq]
    · rw [GlideClient.connect, hcommon, hdb]
      rfl
  · intro calls
    have hcommon : (GlideClusterClientConfiguration.build addresses calls).common =
        (calls.filterMap common?).foldl CommonConfig.apply (.new addresses) :=
      common_foldl (fun _ _ => rfl) (fun _ _ => rfl) calls _
    refine ⟨_, hears R addresses hcore ?_, ?_⟩
    · rw [cluster_toRequest_eq]
    · rw [GlideClusterClient.connect, hcommon]
      rfl

/-- Subscriptions that are withdrawn by giving empty ones leave no channel. -/
theorem pubsub_calls_follow_configuration_withdrawn :
    ∃ rx, rx.isSome = false ∧
      GlideClient.connect (fun (_ : ConnectionRequest Unit) sender => .ok sender) defaultRequest
        (.build [] [.common (.subscriptions (subscribeAll [(.exact, [97])])),
          .common (.subscriptions .new)]) = .ok ⟨false, rx, 0⟩ := by
  obtain ⟨rx, hhears, hconnect⟩ := (pubsub_calls_follow_configuration .stringsOnly
    (fun (_ : ConnectionRequest Unit) sender => .ok sender) defaultRequest rfl []).1
    [.common (.subscriptions (subscribeAll [(.exact, [97])])), .common (.subscriptions .new)]
  have hnot : ¬Listens ([.subscriptions (subscribeAll [(.exact, [97])]), .subscriptions .new]) := by
    rintro (hforce | ⟨subs, mode, set, channel, hlast, hset, -⟩)
    · simp at hforce
    · cases hlast
      cases hset
  have hnone : rx.isSome = false := by
    rw [← Bool.not_eq_true, hhears.channel]
    exact hnot
  refine ⟨rx, hnone, ?_⟩
  rw [hconnect, hnone]
  rfl

end GlideRust.Client.Connect

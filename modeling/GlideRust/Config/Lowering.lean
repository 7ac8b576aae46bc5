import Mathlib.Data.List.Induction
import GlideRust.Config.Clients
import GlideRust.Lib.LastWrite

/-!
# The request is determined by the last value of each setting

What a sequence of builder calls comes to is the record `Settings`: the last
argument of every overwriting setter and all certificate authorities in order.
`lower` says, field by field, which request belongs to such a record. The
lowering of both configurations is `lower` of the settings of their calls, so
that exchanging calls of different setters, or dropping a call that a later one
overrides, cannot change it.
-/

namespace GlideRust.Config.Lowering

open Redis Lib.LastWrite

variable {ω : Type}

/-! ## Settings -/

/-- The last argument given to each setter, and all arguments of `tls_ca_cert`.
`enable_pubsub` does not reach the request. -/
@[ext]
structure Settings where
  tls : Option TlsConfig
  clientIdentity : Option ClientIdentity
  credentials : Option ServerCredentials
  readFrom : Option ReadFrom
  requestTimeout : Option Lib.Duration
  connectionTimeout : Option Lib.Duration
  inflightRequestsLimit : Option UInt32
  clientName : Option String
  protocol : Option ProtocolVersion
  lazyConnect : Option Bool
  reconnectStrategy : Option BackoffStrategy
  subscriptions : Option PubSubSubscriptions
  caCerts : List Bytes

/-! What a call gives to each setting. -/

def tls? : CommonSetter → Option TlsConfig
  | .tls tls => some tls
  | _ => none

def caCert? : CommonSetter → Option Bytes
  | .tlsCaCert pem => some pem
  | _ => none

def clientIdentity? : CommonSetter → Option ClientIdentity
  | .clientIdentity certPem keyPem => some ⟨certPem, keyPem⟩
  | _ => none

def credentials? : CommonSetter → Option ServerCredentials
  | .credentials creds => some creds
  | _ => none

def readFrom? : CommonSetter → Option ReadFrom
  | .readFrom readFrom => some readFrom
  | _ => none

def requestTimeout? : CommonSetter → Option Lib.Duration
  | .requestTimeout timeout => some timeout
  | _ => none

def connectionTimeout? : CommonSetter → Option Lib.Duration
  | .connectionTimeout timeout => some timeout
  | _ => none

def inflightRequestsLimit? : CommonSetter → Option UInt32
  | .inflightRequestsLimit limit => some limit
  | _ => none

def clientName? : CommonSetter → Option String
  | .clientName name => some name
  | _ => none

def protocol? : CommonSetter → Option ProtocolVersion
  | .protocol protocol => some protocol
  | _ => none

def lazyConnect? : CommonSetter → Option Bool
  | .lazyConnect isLazy => some isLazy
  | _ => none

def reconnectStrategy? : CommonSetter → Option BackoffStrategy
  | .reconnectStrategy strategy => some strategy
  | _ => none

def subscriptions? : CommonSetter → Option PubSubSubscriptions
  | .subscriptions subs => some subs
  | _ => none

/-- Which setter a call is of. -/
inductive SetterName where
  | tls
  | tlsCaCert
  | clientIdentity
  | credentials
  | readFrom
  | requestTimeout
  | connectionTimeout
  | inflightRequestsLimit
  | clientName
  | protocol
  | lazyConnect
  | reconnectStrategy
  | subscriptions
  | enablePubsub
  deriving DecidableEq, Repr

def nameOf : CommonSetter → SetterName
  | .tls _ => .tls
  | .tlsCaCert _ => .tlsCaCert
  | .clientIdentity _ _ => .clientIdentity
  | .credentials _ => .credentials
  | .readFrom _ => .readFrom
  | .requestTimeout _ => .requestTimeout
  | .connectionTimeout _ => .connectionTimeout
  | .inflightRequestsLimit _ => .inflightRequestsLimit
  | .clientName _ => .clientName
  | .protocol _ => .protocol
  | .lazyConnect _ => .lazyConnect
  | .reconnectStrategy _ => .reconnectStrategy
  | .subscriptions _ => .subscriptions
  | .enablePubsub => .enablePubsub

/-- The settings that a sequence of shared setter calls comes to. -/
def settings (calls : List CommonSetter) : Settings where
  tls := lastGiven tls? calls
  clientIdentity := lastGiven clientIdentity? calls
  credentials := lastGiven credentials? calls
  readFrom := lastGiven readFrom? calls
  requestTimeout := lastGiven requestTimeout? calls
  connectionTimeout := lastGiven connectionTimeout? calls
  inflightRequestsLimit := lastGiven inflightRequestsLimit? calls
  clientName := lastGiven clientName? calls
  protocol := lastGiven protocol? calls
  lazyConnect := lastGiven lazyConnect? calls
  reconnectStrategy := lastGiven reconnectStrategy? calls
  subscriptions := lastGiven subscriptions? calls
  caCerts := calls.filterMap caCert?

/-- The request that belongs to settings: each given one under its documented
conversion, the others at their constant or at the core's default. Timeouts are
whole milliseconds, cut at the largest `u32`. -/
def lower (core : ConnectionRequest ω) (addresses : List NodeAddress) (s : Settings) :
    ConnectionRequest ω where
  addresses := addresses.map fun address => { host := address.host, port := address.port }
  tlsMode := some (match s.tls with
    | none => .noTls
    | some .noTls => .noTls
    | some .secureTls => .secureTls
    | some .insecureTls => .insecureTls)
  readFrom := some (match s.readFrom with
    | none => .primary
    | some .primary => .primary
    | some .preferReplica => .preferReplica
    | some (.azAffinity az) => .azAffinity az
    | some (.azAffinityReplicasAndPrimary az) => .azAffinityReplicasAndPrimary az
    | some .allNodes => .allNodes)
  protocol := some (match s.protocol with
    | none => .RESP3
    | some .RESP2 => .RESP2
    | some .RESP3 => .RESP3)
  clientName := s.clientName
  libName := some "GlideRust"
  lazyConnect := s.lazyConnect.getD false
  inflightRequestsLimit := s.inflightRequestsLimit
  tcpNodelay := true
  rootCerts := if s.caCerts = [] then core.rootCerts else s.caCerts
  clientCert := (s.clientIdentity.map fun identity => identity.certPem).getD core.clientCert
  clientKey := (s.clientIdentity.map fun identity => identity.keyPem).getD core.clientKey
  pubsubSubscriptions := (s.subscriptions.map fun subs kind =>
    match kind with
    | .exact => subs.channels .exact
    | .pattern => subs.channels .pattern
    | .sharded => subs.channels .sharded).or core.pubsubSubscriptions
  authenticationInfo := (s.credentials.map fun creds =>
    { username := creds.username
      password := creds.password
      iamConfig := creds.iamConfig.map fun iam =>
        { clusterName := iam.clusterName
          region := iam.region
          serviceType :=
            match iam.serviceType with
            | .elastiCache => .elastiCache
            | .memoryDB => .memoryDB
          refreshIntervalSeconds := iam.refreshIntervalSeconds } }).or core.authenticationInfo
  requestTimeout := (s.requestTimeout.map fun timeout =>
    UInt32.ofNat (min (timeout.secs.toNat * 1000 + timeout.nanos / 1000000) 4294967295)).or
      core.requestTimeout
  connectionTimeout := (s.connectionTimeout.map fun timeout =>
    UInt32.ofNat (min (timeout.secs.toNat * 1000 + timeout.nanos / 1000000) 4294967295)).or
      core.connectionTimeout
  connectionRetryStrategy := (s.reconnectStrategy.map fun strategy =>
    { exponentBase := strategy.exponentBase
      factor := strategy.factor
      numberOfRetries := strategy.numOfRetries
      jitterPercent := strategy.jitterPercent }).or core.connectionRetryStrategy
  clusterModeEnabled := core.clusterModeEnabled
  databaseId := core.databaseId
  periodicChecks := core.periodicChecks
  others := core.others

/-- The topology checks that belong to the last `periodic_checks`; an interval
is a whole number of seconds. -/
def lowerChecks : Option PeriodicChecks → Core.PeriodicCheck
  | none => .enabled
  | some .enabled => .enabled
  | some .disabled => .disabled
  | some (.manualInterval secs) => .manualInterval ⟨secs, 0, Lib.Duration.zero_lt_second⟩

/-! ## The conversions of the lowering -/

theorem durationAsMillisU32_eq (d : Lib.Duration) :
    durationAsMillisU32 d =
      UInt32.ofNat (min (d.secs.toNat * 1000 + d.nanos / 1000000) 4294967295) :=
  Lib.saturateU32_eq_ofNat_min d.asMillis

theorem toCore_getD_enabled (checks : Option PeriodicChecks) :
    (checks.getD .enabled).toCore = lowerChecks checks := by
  cases checks with
  | none => rfl
  | some checks => cases checks <;> rfl

theorem toCore_injective : Function.Injective PubSubChannelMode.toCore := by
  intro m m' h
  cases m <;> cases m' <;> first | rfl | cases h

/-- Whatever the order in which the map is walked, the core gets its entries. -/
theorem toCoreIn_apply (subs : PubSubSubscriptions) (order : List PubSubChannelMode)
    (mode : PubSubChannelMode) :
    subs.toCoreIn order mode.toCore = if mode ∈ order then subs.channels mode else none := by
  induction order using List.reverseRecOn with
  | nil => rfl
  | append_singleton order last ih =>
      simp only [PubSubSubscriptions.toCoreIn, List.foldl_append, List.foldl_cons,
        List.foldl_nil] at ih ⊢
      by_cases hlast : mode = last
      · subst hlast
        cases hset : subs.channels mode with
        | none => simpa [hset] using ih
        | some set => simp
      · have hkind : mode.toCore ≠ last.toCore := fun h => hlast (toCore_injective h)
        cases hset : subs.channels last with
        | none => simpa [hlast] using ih
        | some set => simpa [hlast, hkind] using ih

theorem toCore_apply (subs : PubSubSubscriptions) (mode : PubSubChannelMode) :
    subs.toCore mode.toCore = subs.channels mode := by
  rw [PubSubSubscriptions.toCore, toCoreIn_apply]
  cases mode <;> rfl

/-! ## The configuration after any calls -/

/-- The configuration with the given settings, `forcePubsubChannel` apart. -/
def configured (addresses : List NodeAddress) (s : Settings) (force : Bool) : CommonConfig where
  addresses := addresses
  tls := s.tls.getD .noTls
  credentials := s.credentials
  readFrom := s.readFrom.getD .primary
  requestTimeout := s.requestTimeout
  connectionTimeout := s.connectionTimeout
  reconnectStrategy := s.reconnectStrategy
  clientName := s.clientName
  protocol := s.protocol.getD .RESP3
  inflightRequestsLimit := s.inflightRequestsLimit
  lazyConnect := s.lazyConnect.getD false
  pubsubSubscriptions := s.subscriptions
  forcePubsubChannel := force
  rootCerts := s.caCerts
  clientIdentity := s.clientIdentity

theorem commonRequest_configured (core : ConnectionRequest ω) (addresses : List NodeAddress)
    (s : Settings) (force : Bool) :
    (configured addresses s force).commonRequest core = lower core addresses s := by
  obtain ⟨tls, identity, creds, readFrom, reqTimeout, connTimeout, limit, name, protocol, isLazy,
    strategy, subs, certs⟩ := s
  rw [CommonConfig.commonRequest_eq]
  ext1
  case tlsMode =>
    cases tls with
    | none => rfl
    | some tls => cases tls <;> rfl
  case readFrom =>
    cases readFrom with
    | none => rfl
    | some readFrom => cases readFrom <;> rfl
  case protocol =>
    cases protocol with
    | none => rfl
    | some protocol => cases protocol <;> rfl
  case rootCerts => cases certs <;> rfl
  case pubsubSubscriptions =>
    cases subs with
    | none => rfl
    | some subs =>
        refine congrArg some (funext fun kind => ?_)
        cases kind with
        | exact => exact toCore_apply subs .exact
        | pattern => exact toCore_apply subs .pattern
        | sharded => exact toCore_apply subs .sharded
  case authenticationInfo =>
    match creds with
    | none => rfl
    | some ⟨_, _, none⟩ => rfl
    | some ⟨_, _, some ⟨_, _, service, _⟩⟩ => cases service <;> rfl
  case requestTimeout =>
    cases reqTimeout with
    | none => rfl
    | some timeout => exact congrArg some (durationAsMillisU32_eq timeout)
  case connectionTimeout =>
    cases connTimeout with
    | none => rfl
    | some timeout => exact congrArg some (durationAsMillisU32_eq timeout)
  all_goals rfl

/-- An optional setting after any calls. -/
theorem option_foldl {β : Type} {pick : CommonSetter → Option β} {get : CommonConfig → Option β}
    (h : ∀ cfg call, get (cfg.apply call) = ((pick call).map some).getD (get cfg))
    (calls : List CommonSetter) {cfg : CommonConfig} (hnone : get cfg = none) :
    get (calls.foldl CommonConfig.apply cfg) = lastGiven pick calls := by
  rw [get_foldl h, hnone]
  cases lastGiven pick calls with
  | none => rfl
  | some value => rfl

/-- A setting with an initial value after any calls. -/
theorem value_foldl {β : Type} {pick : CommonSetter → Option β} {get : CommonConfig → β}
    (h : ∀ cfg call, get (cfg.apply call) = ((pick call).map id).getD (get cfg))
    (calls : List CommonSetter) (cfg : CommonConfig) :
    get (calls.foldl CommonConfig.apply cfg) = (lastGiven pick calls).getD (get cfg) := by
  rw [get_foldl h, Option.map_id_fun, id]

theorem addresses_foldl (calls : List CommonSetter) (cfg : CommonConfig) :
    (calls.foldl CommonConfig.apply cfg).addresses = cfg.addresses := by
  induction calls generalizing cfg with
  | nil => rfl
  | cons call calls ih =>
      rw [List.foldl_cons, ih]
      cases call <;> rfl

/-- The shared fields after any calls are those of the settings. -/
theorem foldl_apply_eq_configured (addresses : List NodeAddress) (calls : List CommonSetter) :
    calls.foldl CommonConfig.apply (.new addresses) =
      configured addresses (settings calls)
        (calls.foldl CommonConfig.apply (.new addresses)).forcePubsubChannel := by
  apply CommonConfig.ext
  · exact addresses_foldl calls _
  · exact value_foldl (fun _ call => by cases call <;> rfl) calls _
  · exact option_foldl (fun _ call => by cases call <;> rfl) calls rfl
  · exact value_foldl (fun _ call => by cases call <;> rfl) calls _
  · exact option_foldl (fun _ call => by cases call <;> rfl) calls rfl
  · exact option_foldl (fun _ call => by cases call <;> rfl) calls rfl
  · exact option_foldl (fun _ call => by cases call <;> rfl) calls rfl
  · exact option_foldl (fun _ call => by cases call <;> rfl) calls rfl
  · exact value_foldl (fun _ call => by cases call <;> rfl) calls _
  · exact option_foldl (fun _ call => by cases call <;> rfl) calls rfl
  · exact value_foldl (fun _ call => by cases call <;> rfl) calls _
  · exact option_foldl (fun _ call => by cases call <;> rfl) calls rfl
  · rfl
  · exact append_foldl (fun _ call => by cases call <;> simp [CommonConfig.apply, caCert?]) calls _
  · exact option_foldl (fun _ call => by cases call <;> rfl) calls rfl

/-! ## Both lowerings -/

variable {μ : Type}

def common? : Setter μ → Option CommonSetter
  | .common call => some call
  | .own _ => none

def own? : Setter μ → Option μ
  | .common _ => none
  | .own value => some value

/-- The shared fields of a configuration that is built by any calls, of either kind. -/
theorem common_foldl {κ : Type} {apply : κ → Setter μ → κ} {common : κ → CommonConfig}
    (hcommon : ∀ cfg call, common (apply cfg (.common call)) = (common cfg).apply call)
    (hown : ∀ cfg value, common (apply cfg (.own value)) = common cfg)
    (calls : List (Setter μ)) (cfg : κ) :
    common (calls.foldl apply cfg) =
      (calls.filterMap common?).foldl CommonConfig.apply (common cfg) := by
  induction calls generalizing cfg with
  | nil => rfl
  | cons call calls ih =>
      rw [List.foldl_cons, ih]
      cases call with
      | common call => rw [hcommon]; rfl
      | own value => rw [hown]; rfl

/-- The lowering of a standalone configuration. -/
theorem standalone_toRequest_eq (core : ConnectionRequest ω) (addresses : List NodeAddress)
    (calls : List (Setter Int64)) :
    (GlideClientConfiguration.build addresses calls).toRequest core =
      { lower core addresses (settings (calls.filterMap common?)) with
        clusterModeEnabled := false
        databaseId := (lastGiven own? calls).getD 0 } := by
  have hcommon : (GlideClientConfiguration.build addresses calls).common =
      (calls.filterMap common?).foldl CommonConfig.apply (.new addresses) :=
    common_foldl (fun _ _ => rfl) (fun _ _ => rfl) calls _
  have hdb : (GlideClientConfiguration.build addresses calls).databaseId =
      ((lastGiven own? calls).map id).getD 0 :=
    get_foldl (fun _ call => by cases call <;> rfl) calls _
  rw [Option.map_id_fun, id] at hdb
  rw [GlideClientConfiguration.toRequest, hcommon, foldl_apply_eq_configured,
    commonRequest_configured, hdb]

/-- The lowering of a cluster configuration. -/
theorem cluster_toRequest_eq (core : ConnectionRequest ω) (addresses : List NodeAddress)
    (calls : List (Setter PeriodicChecks)) :
    (GlideClusterClientConfiguration.build addresses calls).toRequest core =
      { lower core addresses (settings (calls.filterMap common?)) with
        clusterModeEnabled := true
        periodicChecks := some (lowerChecks (lastGiven own? calls)) } := by
  have hcommon : (GlideClusterClientConfiguration.build addresses calls).common =
      (calls.filterMap common?).foldl CommonConfig.apply (.new addresses) :=
    common_foldl (fun _ _ => rfl) (fun _ _ => rfl) calls _
  have hchecks : (GlideClusterClientConfiguration.build addresses calls).periodicChecks =
      ((lastGiven own? calls).map id).getD .enabled :=
    get_foldl (fun _ call => by cases call <;> rfl) calls _
  rw [Option.map_id_fun, id] at hchecks
  rw [GlideClusterClientConfiguration.toRequest, hcommon, foldl_apply_eq_configured,
    commonRequest_configured, hchecks, toCore_getD_enabled]

/-! ## Exchanging and dropping calls -/

/-- What the calls of a setter are given. -/
def Argument : SetterName → Type
  | .tls => TlsConfig
  | .tlsCaCert => Bytes
  | .clientIdentity => ClientIdentity
  | .credentials => ServerCredentials
  | .readFrom => ReadFrom
  | .requestTimeout => Lib.Duration
  | .connectionTimeout => Lib.Duration
  | .inflightRequestsLimit => UInt32
  | .clientName => String
  | .protocol => ProtocolVersion
  | .lazyConnect => Bool
  | .reconnectStrategy => BackoffStrategy
  | .subscriptions => PubSubSubscriptions
  | .enablePubsub => Unit

/-- What a call gives to the setting of a setter. -/
def given : (setter : SetterName) → CommonSetter → Option (Argument setter)
  | .tls => tls?
  | .tlsCaCert => caCert?
  | .clientIdentity => clientIdentity?
  | .credentials => credentials?
  | .readFrom => readFrom?
  | .requestTimeout => requestTimeout?
  | .connectionTimeout => connectionTimeout?
  | .inflightRequestsLimit => inflightRequestsLimit?
  | .clientName => clientName?
  | .protocol => protocol?
  | .lazyConnect => lazyConnect?
  | .reconnectStrategy => reconnectStrategy?
  | .subscriptions => subscriptions?
  | .enablePubsub => fun call => if nameOf call = .enablePubsub then some () else none

/-- A setting is given by the calls of its setter and by no others. -/
theorem isSome_given_iff (setter : SetterName) (call : CommonSetter) :
    (given setter call).isSome ↔ nameOf call = setter := by
  cases call <;> cases setter <;> first | exact iff_of_true rfl rfl | exact iff_of_false nofun nofun

theorem given_of_ne {setter : SetterName} {call : CommonSetter} (hne : nameOf call ≠ setter) :
    given setter call = none := by
  have hnot : ¬ (given setter call).isSome := fun hsome => hne ((isSome_given_iff _ _).mp hsome)
  exact Option.not_isSome_iff_eq_none.mp hnot

/-- Of two calls of different setters at most one gives a setting. -/
theorem given_exclusive (setter : SetterName) {x y : CommonSetter} (hne : nameOf x ≠ nameOf y) :
    given setter x = none ∨ given setter y = none := by
  by_cases hx : nameOf x = setter
  · exact .inr (given_of_ne fun hy => hne (hx.trans hy.symm))
  · exact .inl (given_of_ne hx)

/-- Of two calls of the same setter, both give a setting or neither does. -/
theorem given_together (setter : SetterName) {x y : CommonSetter} (heq : nameOf x = nameOf y) :
    given setter x = none ∨ (given setter y).isSome := by
  by_cases hx : nameOf x = setter
  · exact .inr ((isSome_given_iff _ _).mpr (heq.symm.trans hx))
  · exact .inl (given_of_ne hx)

/-- Two lists of calls that give every setting alike come to the same settings. -/
theorem settings_congr {calls calls' : List CommonSetter}
    (hlast : ∀ setter, lastGiven (given setter) calls = lastGiven (given setter) calls')
    (hcerts : calls.filterMap caCert? = calls'.filterMap caCert?) :
    settings calls = settings calls' :=
  Settings.ext (hlast .tls) (hlast .clientIdentity) (hlast .credentials) (hlast .readFrom)
    (hlast .requestTimeout) (hlast .connectionTimeout) (hlast .inflightRequestsLimit)
    (hlast .clientName) (hlast .protocol) (hlast .lazyConnect) (hlast .reconnectStrategy)
    (hlast .subscriptions) hcerts

theorem settings_swap {x y : CommonSetter} (hne : nameOf x ≠ nameOf y)
    (before after : List CommonSetter) :
    settings (before ++ x :: y :: after) = settings (before ++ y :: x :: after) := by
  apply settings_congr
  · intro setter
    exact lastGiven_swap (given_exclusive setter hne) before after
  · exact filterMap_swap (given_exclusive .tlsCaCert hne) before after

theorem settings_overwritten {x y : CommonSetter} (heq : nameOf x = nameOf y)
    (hca : nameOf x ≠ .tlsCaCert) (before between after : List CommonSetter) :
    settings (before ++ x :: (between ++ y :: after)) =
      settings (before ++ (between ++ y :: after)) := by
  apply settings_congr
  · intro setter
    exact lastGiven_overwritten (given_together setter heq) before between after
  · have hnone : given .tlsCaCert x = none := given_of_ne hca
    exact filterMap_skip hnone before (between ++ y :: after)

/-- Which setter a call is of; `none` is the configuration's own one. -/
def setterOf : Setter μ → Option SetterName
  | .common call => some (nameOf call)
  | .own _ => none

/-- All that a sequence of calls comes to. -/
def essence (calls : List (Setter μ)) : Settings × Option μ :=
  (settings (calls.filterMap common?), lastGiven own? calls)

theorem essence_swap {x y : Setter μ} (hne : setterOf x ≠ setterOf y)
    (before after : List (Setter μ)) :
    essence (before ++ x :: y :: after) = essence (before ++ y :: x :: after) := by
  cases x with
  | common a =>
      cases y with
      | common b =>
          have hab : nameOf a ≠ nameOf b := fun h => hne (congrArg some h)
          simp only [essence, List.filterMap_append, List.filterMap_cons, common?,
            settings_swap hab]
          rw [lastGiven_swap (.inl rfl)]
      | own v => rw [essence, filterMap_swap (.inr rfl), lastGiven_swap (.inl rfl), essence]
  | own v =>
      cases y with
      | common b => rw [essence, filterMap_swap (.inl rfl), lastGiven_swap (.inr rfl), essence]
      | own w => exact absurd rfl hne

theorem essence_overwritten {x y : Setter μ} (heq : setterOf x = setterOf y)
    (hca : setterOf x ≠ some .tlsCaCert) (before between after : List (Setter μ)) :
    essence (before ++ x :: (between ++ y :: after)) =
      essence (before ++ (between ++ y :: after)) := by
  cases x with
  | common a =>
      cases y with
      | common b =>
          have hab : nameOf a = nameOf b := Option.some.inj heq
          have ha : nameOf a ≠ .tlsCaCert := fun h => hca (congrArg some h)
          simp only [essence, List.filterMap_append, List.filterMap_cons, common?,
            settings_overwritten hab ha]
          rw [lastGiven_overwritten (.inl rfl)]
      | own v => cases heq
  | own v =>
      cases y with
      | common b => cases heq
      | own w =>
          rw [essence, filterMap_skip rfl, lastGiven_overwritten (.inr rfl), essence]

/-- A request that depends only on the last argument of each overwriting setter
and on all arguments of `tls_ca_cert`: calls of different setters commute, and
an earlier call of the same overwriting setter has no effect. -/
structure Determined (request : List (Setter μ) → ConnectionRequest ω) : Prop where
  by_essence : ∀ calls calls', essence calls = essence calls' → request calls = request calls'
  commute : ∀ before x y after, setterOf x ≠ setterOf y →
    request (before ++ x :: y :: after) = request (before ++ y :: x :: after)
  overwrite : ∀ before x between y after, setterOf x = setterOf y →
    setterOf x ≠ some .tlsCaCert → request (before ++ x :: (between ++ y :: after)) =
      request (before ++ (between ++ y :: after))

theorem Determined.of_essence {request : List (Setter μ) → ConnectionRequest ω}
    (h : ∀ calls calls', essence calls = essence calls' → request calls = request calls') :
    Determined request where
  by_essence := h
  commute := by
    intro before x y after hne
    exact h _ _ (essence_swap hne before after)
  overwrite := by
    intro before x between y after heq hca
    exact h _ _ (essence_overwritten heq hca before between after)

theorem determined_standalone (core : ConnectionRequest ω) (addresses : List NodeAddress) :
    Determined fun calls => (GlideClientConfiguration.build addresses calls).toRequest core := by
  apply Determined.of_essence
  intro calls calls' h
  obtain ⟨hsettings, hown⟩ := Prod.mk.inj h
  simp only [standalone_toRequest_eq, hsettings, hown]

theorem determined_cluster (core : ConnectionRequest ω) (addresses : List NodeAddress) :
    Determined fun calls =>
      (GlideClusterClientConfiguration.build addresses calls).toRequest core := by
  apply Determined.of_essence
  intro calls calls' h
  obtain ⟨hsettings, hown⟩ := Prod.mk.inj h
  simp only [cluster_toRequest_eq, hsettings, hown]

/-! ## Subscriptions -/

/-- Subscriptions built by any sequence of `subscribe` calls. -/
def subscribeAll (calls : List (PubSubChannelMode × Bytes)) : PubSubSubscriptions :=
  calls.foldl (fun subs call => subs.subscribe call.1 call.2) .new

/-- A set of channels, or none, is what the calls have subscribed to under a mode. -/
def HoldsExactly (calls : List (PubSubChannelMode × Bytes)) (mode : PubSubChannelMode)
    (entry : Option (Finset Bytes)) : Prop :=
  (entry = none ↔ ∀ channel, (mode, channel) ∉ calls) ∧
    ∀ set, entry = some set → ∀ channel, channel ∈ set ↔ (mode, channel) ∈ calls

theorem subscribeAll_exact (calls : List (PubSubChannelMode × Bytes)) (mode : PubSubChannelMode) :
    HoldsExactly calls mode ((subscribeAll calls).channels mode) := by
  unfold HoldsExactly
  induction calls using List.reverseRecOn with
  | nil => simp [subscribeAll, PubSubSubscriptions.new]
  | append_singleton calls call ih =>
      obtain ⟨m, ch⟩ := call
      obtain ⟨hnone, hsome⟩ := ih
      have hstep : (subscribeAll (calls ++ [(m, ch)])).channels mode =
          if mode = m then some (insert ch (((subscribeAll calls).channels m).getD ∅))
          else (subscribeAll calls).channels mode := by
        simp [subscribeAll, PubSubSubscriptions.subscribe]
      rw [hstep]
      by_cases hmode : mode = m
      · subst hmode
        rw [if_pos rfl]
        refine ⟨?_, ?_⟩
        · constructor
          · intro h
            cases h
          · intro h
            exact absurd (List.mem_append_right calls List.mem_cons_self) (h ch)
        · intro set hset channel
          rw [← Option.some.inj hset]
          cases hold : (subscribeAll calls).channels mode with
          | none =>
              have habsent := hnone.mp hold channel
              simp [habsent]
          | some old =>
              have hmem := hsome old hold channel
              simp [hmem, or_comm]
      · rw [if_neg hmode]
        have hkeep : ∀ channel, (mode, channel) ∈ calls ++ [(m, ch)] ↔ (mode, channel) ∈ calls := by
          intro channel
          simp [hmode]
        simp only [hkeep]
        exact ⟨hnone, hsome⟩

/-- The request asks for exactly the channels of the `subscribe` calls, those of
each mode under the kind of that name. -/
def SubscribesExactly (calls : List (PubSubChannelMode × Bytes)) (request : ConnectionRequest ω) :
    Prop :=
  ∃ info, request.pubsubSubscriptions = some info ∧ HoldsExactly calls .exact (info .exact) ∧
    HoldsExactly calls .pattern (info .pattern) ∧ HoldsExactly calls .sharded (info .sharded)

/-- Subscriptions that are given last arrive in full. -/
theorem lower_subscribesExactly (core : ConnectionRequest ω) (addresses : List NodeAddress)
    {s : Settings} {subs : List (PubSubChannelMode × Bytes)}
    (hsubs : s.subscriptions = some (subscribeAll subs)) :
    SubscribesExactly subs (lower core addresses s) := by
  obtain ⟨_, _, _, _, _, _, _, _, _, _, _, _, _⟩ := s
  cases hsubs
  exact ⟨_, rfl, subscribeAll_exact subs .exact, subscribeAll_exact subs .pattern,
    subscribeAll_exact subs .sharded⟩

/-! ## The lowering of both configurations -/

/-- For every address list, every sequence of builder calls and every core
default: the request is that of the last settings, it depends on nothing else,
the two kinds of configuration agree on all shared settings, and subscriptions
arrive as the exact sets of channels. Starting from `with_address` is starting
from a list of one address. -/
theorem lowering_by_last_settings (core : ConnectionRequest ω) (addresses : List NodeAddress) :
    (∀ calls, (GlideClientConfiguration.build addresses calls).toRequest core =
      { lower core addresses (settings (calls.filterMap common?)) with
        clusterModeEnabled := false
        databaseId := (lastGiven own? calls).getD 0 }) ∧
    (∀ calls, (GlideClusterClientConfiguration.build addresses calls).toRequest core =
      { lower core addresses (settings (calls.filterMap common?)) with
        clusterModeEnabled := true
        periodicChecks := some (lowerChecks (lastGiven own? calls)) }) ∧
    Determined (fun calls =>
      (GlideClientConfiguration.build addresses calls).toRequest core) ∧
    Determined (fun calls =>
      (GlideClusterClientConfiguration.build addresses calls).toRequest core) ∧
    (∀ calls clusterCalls, calls.filterMap common? = clusterCalls.filterMap common? →
      (GlideClusterClientConfiguration.build addresses clusterCalls).toRequest core =
        { (GlideClientConfiguration.build addresses calls).toRequest core with
          clusterModeEnabled := true
          databaseId := core.databaseId
          periodicChecks := some (lowerChecks (lastGiven own? clusterCalls)) }) ∧
    (∀ calls subs, lastGiven subscriptions? (calls.filterMap common?) = some (subscribeAll subs) →
      SubscribesExactly subs ((GlideClientConfiguration.build addresses calls).toRequest core)) ∧
    (∀ calls subs, lastGiven subscriptions? (calls.filterMap common?) = some (subscribeAll subs) →
      SubscribesExactly subs
        ((GlideClusterClientConfiguration.build addresses calls).toRequest core)) ∧
    (∀ host port (calls : List (Setter Int64)),
      calls.foldl GlideClientConfiguration.apply (.withAddress host port) =
        .build [⟨host, port⟩] calls) ∧
    (∀ host port (calls : List (Setter PeriodicChecks)),
      calls.foldl GlideClusterClientConfiguration.apply (.withAddress host port) =
        .build [⟨host, port⟩] calls) := by
  refine ⟨standalone_toRequest_eq core addresses, cluster_toRequest_eq core addresses,
    determined_standalone core addresses, determined_cluster core addresses, ?_, ?_, ?_,
    fun _ _ _ => rfl, fun _ _ _ => rfl⟩
  · intro calls clusterCalls hshared
    rw [standalone_toRequest_eq, cluster_toRequest_eq, hshared]
    rfl
  · intro calls subs hsubs
    rw [standalone_toRequest_eq]
    exact lower_subscribesExactly core addresses hsubs
  · intro calls subs hsubs
    rw [cluster_toRequest_eq]
    exact lower_subscribesExactly core addresses hsubs

/-- The defaults of the core's request struct. -/
def defaultRequest : ConnectionRequest Unit where
  addresses := []
  tlsMode := none
  readFrom := none
  protocol := none
  clientName := none
  libName := none
  lazyConnect := false
  inflightRequestsLimit := none
  tcpNodelay := false
  rootCerts := []
  clientCert := []
  clientKey := []
  pubsubSubscriptions := none
  authenticationInfo := none
  requestTimeout := none
  connectionTimeout := none
  connectionRetryStrategy := none
  clusterModeEnabled := false
  databaseId := 0
  periodicChecks := none
  others := ()

/-- Two nodes, a secret with IAM, a timeout beyond a second, a strategy whose
numbers differ, and subscriptions under two modes, each given after a call that
it overrides. -/
def repeatedCalls : List CommonSetter :=
  [.tls .insecureTls, .clientName "a", .tlsCaCert [1], .requestTimeout ⟨9, 0, by decide⟩,
    .credentials ⟨none, none, none⟩, .tls .secureTls, .readFrom (.azAffinity "az1"),
    .protocol .RESP2, .clientIdentity [5] [6],
    .credentials ⟨some "user", some "secret", some ⟨"cluster", "region", .memoryDB, some 60⟩⟩,
    .requestTimeout ⟨1, 500999999, by decide⟩, .connectionTimeout ⟨4294968, 0, by decide⟩,
    .reconnectStrategy ⟨5, 2, 3, some 20⟩, .tlsCaCert [2], .clientName "b",
    .subscriptions (subscribeAll [(.pattern, [42]), (.exact, [99]), (.pattern, [42])])]

/-- What the core is to subscribe to. -/
def repeatedChannels : Core.PubSubSubscriptionInfo
  | .exact => some {[99]}
  | .pattern => some {[42]}
  | .sharded => none

theorem lowering_of_repeated_calls :
    let standalone := (GlideClientConfiguration.build [⟨"n1", 6379⟩, ⟨"n2", 6380⟩]
      (.own 3 :: .own 4 :: repeatedCalls.map .common)).toRequest defaultRequest
    let cluster := (GlideClusterClientConfiguration.build [⟨"n1", 6379⟩, ⟨"n2", 6380⟩]
      (.own (.manualInterval 30) :: repeatedCalls.map .common)).toRequest defaultRequest
    standalone = { defaultRequest with
      addresses := [⟨"n1", 6379⟩, ⟨"n2", 6380⟩]
      tlsMode := some .secureTls
      readFrom := some (.azAffinity "az1")
      protocol := some .RESP2
      clientName := some "b"
      libName := some "GlideRust"
      tcpNodelay := true
      rootCerts := [[1], [2]]
      clientCert := [5]
      clientKey := [6]
      pubsubSubscriptions := some repeatedChannels
      authenticationInfo :=
        some ⟨some "user", some "secret", some ⟨"cluster", "region", .memoryDB, some 60⟩⟩
      requestTimeout := some 1500
      connectionTimeout := some 4294967295
      connectionRetryStrategy :=
        some { exponentBase := 3, factor := 2, numberOfRetries := 5, jitterPercent := some 20 }
      databaseId := 4 } ∧
    cluster = { standalone with
      clusterModeEnabled := true
      databaseId := 0
      periodicChecks := some (.manualInterval (.fromSecs 30)) } := by
  obtain ⟨hstandalone, -, -, -, hcluster, -⟩ :=
    lowering_by_last_settings defaultRequest [⟨"n1", 6379⟩, ⟨"n2", 6380⟩]
  refine ⟨?_, hcluster _ _ rfl⟩
  rw [hstandalone]
  ext1
  case pubsubSubscriptions => exact congrArg some (funext fun kind => by cases kind <;> decide)
  all_goals decide

end GlideRust.Config.Lowering

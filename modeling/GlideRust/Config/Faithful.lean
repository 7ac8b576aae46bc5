import GlideRust.Config.Lowering
import GlideRust.Config.Urls

/-!
# Nothing of a configuration is lost on the way to the core

Two configurations of one kind lower to the same request only if they make the
same demands on the core. What the lowering identifies is little: timeouts that
differ by less than a millisecond or lie beyond the 32-bit range, an empty
client identity and none at all, and the push channel, which is no part of the
request. A configuration that starts from connection descriptions is the one
that builder calls make, so that a description is lost as little as a setting.

## Implementation notes

The public fields of a configuration may be assigned, so the comparison is over
all values of the fields and not only over those that builder calls reach.
-/

namespace GlideRust.Config

/-! ## The conversions -/

theorem NodeAddress.toCore_injective : Function.Injective NodeAddress.toCore := by
  rintro ⟨host, port⟩ ⟨host', port'⟩ h
  cases h
  rfl

theorem TlsConfig.toCore_injective : Function.Injective TlsConfig.toCore := by
  intro t t' h
  cases t <;> cases t' <;> first | rfl | cases h

theorem ProtocolVersion.toCore_injective : Function.Injective ProtocolVersion.toCore := by
  intro p p' h
  cases p <;> cases p' <;> first | rfl | cases h

theorem ReadFrom.toCore_injective : Function.Injective ReadFrom.toCore := by
  intro r r' h
  cases r <;> cases r' <;> cases h <;> rfl

theorem IamAuthConfig.toCore_injective : Function.Injective IamAuthConfig.toCore := by
  rintro ⟨name, region, service, refresh⟩ ⟨name', region', service', refresh'⟩ h
  cases service <;> cases service' <;> cases h <;> rfl

theorem ServerCredentials.toCore_injective : Function.Injective ServerCredentials.toCore := by
  rintro ⟨username, password, iam⟩ ⟨username', password', iam'⟩ h
  obtain ⟨rfl, rfl, hiam⟩ := Core.AuthenticationInfo.mk.inj h
  obtain rfl : iam = iam' := Option.map_injective IamAuthConfig.toCore_injective hiam
  rfl

theorem BackoffStrategy.toCore_injective : Function.Injective BackoffStrategy.toCore := by
  rintro ⟨retries, factor, base, jitter⟩ ⟨retries', factor', base', jitter'⟩ h
  cases h
  rfl

theorem PeriodicChecks.toCore_injective : Function.Injective PeriodicChecks.toCore := by
  intro c c' h
  cases c <;> cases c' <;> cases h <;> rfl

/-- The loop over the modes hands over every set of channels. -/
theorem PubSubSubscriptions.toCore_injective : Function.Injective PubSubSubscriptions.toCore := by
  rintro ⟨channels⟩ ⟨channels'⟩ h
  have hmode : ∀ mode, channels mode = channels' mode := by
    intro mode
    have hkind := congrFun h mode.toCore
    rwa [Lowering.toCore_apply, Lowering.toCore_apply] at hkind
  rw [funext hmode]

namespace Faithful

open Redis Lib Lowering

variable {ω T κ : Type}

/-! ## Demands -/

/-- `ConnectionRequest::default()` asks for nothing by itself. -/
structure Blank (core : ConnectionRequest ω) : Prop where
  rootCerts : core.rootCerts = []
  clientCert : core.clientCert = []
  clientKey : core.clientKey = []
  pubsubSubscriptions : core.pubsubSubscriptions = none
  authenticationInfo : core.authenticationInfo = none
  requestTimeout : core.requestTimeout = none
  connectionTimeout : core.connectionTimeout = none
  connectionRetryStrategy : core.connectionRetryStrategy = none

/-- Durations of as many whole milliseconds, or both from the largest `u32` on. -/
def SameMillis (d e : Duration) : Prop :=
  d.asMillis = e.asMillis ∨ (UInt32.size - 1 ≤ d.asMillis ∧ UInt32.size - 1 ≤ e.asMillis)

/-- The two configurations ask the core for the same. -/
structure SameDemands (a b : CommonConfig) : Prop where
  addresses : a.addresses = b.addresses
  tls : a.tls = b.tls
  credentials : a.credentials = b.credentials
  readFrom : a.readFrom = b.readFrom
  requestTimeout : Option.Rel SameMillis a.requestTimeout b.requestTimeout
  connectionTimeout : Option.Rel SameMillis a.connectionTimeout b.connectionTimeout
  reconnectStrategy : a.reconnectStrategy = b.reconnectStrategy
  clientName : a.clientName = b.clientName
  protocol : a.protocol = b.protocol
  inflightRequestsLimit : a.inflightRequestsLimit = b.inflightRequestsLimit
  lazyConnect : a.lazyConnect = b.lazyConnect
  pubsubSubscriptions : a.pubsubSubscriptions = b.pubsubSubscriptions
  rootCerts : a.rootCerts = b.rootCerts
  clientIdentity : a.clientIdentity.getD ⟨[], []⟩ = b.clientIdentity.getD ⟨[], []⟩

theorem durationAsMillisU32_eq_iff (d e : Duration) :
    durationAsMillisU32 d = durationAsMillisU32 e ↔ SameMillis d e :=
  saturateU32_eq_iff d.asMillis e.asMillis

theorem map_durationAsMillisU32_eq_iff (d e : Option Duration) :
    d.map durationAsMillisU32 = e.map durationAsMillisU32 ↔ Option.Rel SameMillis d e := by
  cases d with
  | none => cases e <;> simp
  | some d => cases e <;> simp [durationAsMillisU32_eq_iff]

/-! ## The request of a configuration -/

/-- The request of the shared fields over a blank default. -/
def demanded (core : ConnectionRequest ω) (cfg : CommonConfig) : ConnectionRequest ω :=
  { core with
    addresses := cfg.addresses.map NodeAddress.toCore
    tlsMode := some cfg.tls.toCore
    readFrom := some cfg.readFrom.toCore
    protocol := some cfg.protocol.toCore
    clientName := cfg.clientName
    libName := some "GlideRust"
    lazyConnect := cfg.lazyConnect
    inflightRequestsLimit := cfg.inflightRequestsLimit
    tcpNodelay := true
    rootCerts := cfg.rootCerts
    clientCert := (cfg.clientIdentity.getD ⟨[], []⟩).certPem
    clientKey := (cfg.clientIdentity.getD ⟨[], []⟩).keyPem
    pubsubSubscriptions := cfg.pubsubSubscriptions.map PubSubSubscriptions.toCore
    authenticationInfo := cfg.credentials.map ServerCredentials.toCore
    requestTimeout := cfg.requestTimeout.map durationAsMillisU32
    connectionTimeout := cfg.connectionTimeout.map durationAsMillisU32
    connectionRetryStrategy := cfg.reconnectStrategy.map BackoffStrategy.toCore }

variable {core : ConnectionRequest ω}

theorem commonRequest_eq_demanded (hblank : Blank core) (cfg : CommonConfig) :
    cfg.commonRequest core = demanded core cfg := by
  rw [CommonConfig.commonRequest_eq, demanded]
  ext1
  case rootCerts =>
    cases hcerts : cfg.rootCerts with
    | nil => simp [hblank.rootCerts]
    | cons cert certs => simp
  case clientCert => cases cfg.clientIdentity <;> simp [hblank.clientCert]
  case clientKey => cases cfg.clientIdentity <;> simp [hblank.clientKey]
  case pubsubSubscriptions => simp [hblank.pubsubSubscriptions]
  case authenticationInfo => simp [hblank.authenticationInfo]
  case requestTimeout => simp [hblank.requestTimeout]
  case connectionTimeout => simp [hblank.connectionTimeout]
  case connectionRetryStrategy => simp [hblank.connectionRetryStrategy]
  all_goals rfl

/-- Every demand can be read off the request, and the request off the demands. -/
theorem demanded_eq_iff (core : ConnectionRequest ω) (a b : CommonConfig) :
    demanded core a = demanded core b ↔ SameDemands a b := by
  constructor
  · intro h
    constructor
    · exact List.map_injective_iff.mpr NodeAddress.toCore_injective
        (congrArg ConnectionRequest.addresses h)
    · exact TlsConfig.toCore_injective (Option.some.inj (congrArg ConnectionRequest.tlsMode h))
    · exact Option.map_injective ServerCredentials.toCore_injective
        (congrArg ConnectionRequest.authenticationInfo h)
    · exact ReadFrom.toCore_injective (Option.some.inj (congrArg ConnectionRequest.readFrom h))
    · exact (map_durationAsMillisU32_eq_iff _ _).mp (congrArg ConnectionRequest.requestTimeout h)
    · exact (map_durationAsMillisU32_eq_iff _ _).mp
        (congrArg ConnectionRequest.connectionTimeout h)
    · exact Option.map_injective BackoffStrategy.toCore_injective
        (congrArg ConnectionRequest.connectionRetryStrategy h)
    · exact congrArg ConnectionRequest.clientName h
    · exact ProtocolVersion.toCore_injective
        (Option.some.inj (congrArg ConnectionRequest.protocol h))
    · exact congrArg ConnectionRequest.inflightRequestsLimit h
    · exact congrArg ConnectionRequest.lazyConnect h
    · exact Option.map_injective PubSubSubscriptions.toCore_injective
        (congrArg ConnectionRequest.pubsubSubscriptions h)
    · exact congrArg ConnectionRequest.rootCerts h
    -- certificate and key arrive in two fields of the request
    · have hcert := congrArg ConnectionRequest.clientCert h
      have hkey := congrArg ConnectionRequest.clientKey h
      exact congrArg₂ ClientIdentity.mk hcert hkey
  · intro h
    simp only [demanded, h.addresses, h.tls, h.credentials, h.readFrom, h.reconnectStrategy,
      h.clientName, h.protocol, h.inflightRequestsLimit, h.lazyConnect, h.pubsubSubscriptions,
      h.rootCerts, h.clientIdentity, (map_durationAsMillisU32_eq_iff _ _).mpr h.requestTimeout,
      (map_durationAsMillisU32_eq_iff _ _).mpr h.connectionTimeout]

theorem SameDemands.refl (cfg : CommonConfig) : SameDemands cfg cfg :=
  (demanded_eq_iff defaultRequest cfg cfg).mp rfl

theorem standalone_toRequest_eq_iff (hblank : Blank core) (a b : GlideClientConfiguration) :
    a.toRequest core = b.toRequest core ↔
      SameDemands a.common b.common ∧ a.databaseId = b.databaseId := by
  rw [← demanded_eq_iff core]
  simp only [GlideClientConfiguration.toRequest, commonRequest_eq_demanded hblank]
  constructor
  · intro h
    -- the fields that the mode adds are put back to those of the core
    have hshared := congrArg (fun request : ConnectionRequest ω =>
      { request with
        clusterModeEnabled := core.clusterModeEnabled
        databaseId := core.databaseId }) h
    exact ⟨hshared, congrArg ConnectionRequest.databaseId h⟩
  · rintro ⟨hshared, hdb⟩
    rw [hshared, hdb]

theorem cluster_toRequest_eq_iff (hblank : Blank core) (a b : GlideClusterClientConfiguration) :
    a.toRequest core = b.toRequest core ↔
      SameDemands a.common b.common ∧ a.periodicChecks = b.periodicChecks := by
  rw [← demanded_eq_iff core]
  simp only [GlideClusterClientConfiguration.toRequest, commonRequest_eq_demanded hblank]
  constructor
  · intro h
    have hshared := congrArg (fun request : ConnectionRequest ω =>
      { request with
        clusterModeEnabled := core.clusterModeEnabled
        periodicChecks := core.periodicChecks }) h
    have hchecks := Option.some.inj (congrArg ConnectionRequest.periodicChecks h)
    exact ⟨hshared, PeriodicChecks.toCore_injective hchecks⟩
  · rintro ⟨hshared, hchecks⟩
    rw [hshared, hchecks]

/-! ## Descriptions as builder calls -/

/-- The shared setter calls that a description stands for. -/
def describing (info : ConnectionInfo κ) : List CommonSetter :=
  [.tls info.addr.tls, .protocol info.redis.namedProtocol] ++
    (info.redis.clientName.map .clientName).toList ++
    (info.redis.namedCredentials.map .credentials).toList

/-- The shared fields of a configuration made from descriptions. -/
def described (addresses : List NodeAddress) (info : ConnectionInfo κ) : CommonConfig :=
  { CommonConfig.new addresses with
    tls := info.addr.tls
    protocol := info.redis.namedProtocol
    clientName := info.redis.clientName
    credentials := info.redis.namedCredentials }

/-- The calls of a description, one after the other, write its fields. -/
theorem foldl_describing (addresses : List NodeAddress) (info : ConnectionInfo κ) :
    (describing info).foldl CommonConfig.apply (.new addresses) = described addresses info := by
  obtain ⟨addr, db, username, password, protocol, name⟩ := info
  cases name <;> cases username <;> cases password <;> rfl

theorem standalone_build_describing (info : ConnectionInfo κ) :
    GlideClientConfiguration.build [info.addr.node]
        (.own info.redis.db :: (describing info).map .common) =
      ⟨described [info.addr.node] info, info.redis.db⟩ := by
  rw [← foldl_describing, GlideClientConfiguration.build, List.foldl_cons, List.foldl_map]
  exact List.foldl_hom (fun common => (⟨common, info.redis.db⟩ : GlideClientConfiguration))
    fun _ _ => rfl

theorem cluster_build_describing (addresses : List NodeAddress) (info : ConnectionInfo κ) :
    GlideClusterClientConfiguration.build addresses ((describing info).map .common) =
      ⟨described addresses info, .enabled⟩ := by
  rw [← foldl_describing, GlideClusterClientConfiguration.build, List.foldl_map]
  exact List.foldl_hom (fun common => (⟨common, .enabled⟩ : GlideClusterClientConfiguration))
    fun _ _ => rfl

/-- `from_connection_info` succeeds on the descriptions of supported addresses. -/
theorem fromConnectionInfo_ok_iff (convert : T → RedisResult (ConnectionInfo κ)) (url : T)
    (cfg : GlideClientConfiguration) :
    GlideClientConfiguration.fromConnectionInfo convert url = .ok cfg ↔
      ∃ info, convert url = .ok info ∧ info.addr.Supported ∧
        cfg = ⟨described [info.addr.node] info, info.redis.db⟩ := by
  simp only [GlideClientConfiguration.fromConnectionInfo, Fallible.bind_eq_ok_iff,
    intoConnectionInfo_ok_iff, splitConnectionAddr_ok_iff]
  constructor
  · rintro ⟨info, hinfo, split, ⟨hsupported, rfl⟩, hcfg⟩
    rw [CommonConfig.withInfo_eq] at hcfg
    exact ⟨info, hinfo, hsupported, (Except.ok.inj hcfg).symm⟩
  · rintro ⟨info, hinfo, hsupported, rfl⟩
    refine ⟨info, hinfo, _, ⟨hsupported, rfl⟩, ?_⟩
    rw [CommonConfig.withInfo_eq]
    rfl

theorem seedConfig_eq_described (first : ConnectionInfo κ) (infos : List (ConnectionInfo κ)) :
    seedConfig first infos = ⟨described (infos.map fun info => info.addr.node) first, .enabled⟩ :=
  rfl

/-! ## What a description says reaches the core -/

theorem namedCredentials_eq_iff (a b : RedisConnectionInfo) :
    a.namedCredentials = b.namedCredentials ↔
      a.username = b.username ∧ a.password = b.password := by
  obtain ⟨_, username, password, _, _⟩ := a
  obtain ⟨_, username', password', _, _⟩ := b
  cases username <;> cases password <;> cases username' <;> cases password' <;>
    simp [RedisConnectionInfo.namedCredentials]

theorem namedProtocol_eq_iff (a b : RedisConnectionInfo) :
    a.namedProtocol = b.namedProtocol ↔ a.protocol = b.protocol := by
  obtain ⟨_, _, _, protocol, _⟩ := a
  obtain ⟨_, _, _, protocol', _⟩ := b
  cases protocol <;> cases protocol' <;> simp [RedisConnectionInfo.namedProtocol]

theorem sameDemands_described_iff (addresses addresses' : List NodeAddress)
    (info info' : ConnectionInfo κ) :
    SameDemands (described addresses info) (described addresses' info') ↔
      addresses = addresses' ∧ info.addr.tls = info'.addr.tls ∧
        info.redis.protocol = info'.redis.protocol ∧
        info.redis.clientName = info'.redis.clientName ∧
        info.redis.username = info'.redis.username ∧
        info.redis.password = info'.redis.password := by
  constructor
  · intro h
    exact ⟨h.addresses, h.tls, (namedProtocol_eq_iff _ _).mp h.protocol, h.clientName,
      (namedCredentials_eq_iff _ _).mp h.credentials⟩
  · rintro ⟨rfl, htls, hprotocol, hname, husername, hpassword⟩
    have hcredentials := (namedCredentials_eq_iff _ _).mpr ⟨husername, hpassword⟩
    have hconfig : described addresses info = described addresses info' := by
      simp only [described, htls, (namedProtocol_eq_iff _ _).mpr hprotocol, hname, hcredentials]
    rw [hconfig]
    exact .refl _

section Descriptions

variable {convert : T → RedisResult (ConnectionInfo κ)}

theorem standalone_ofDescription {url : T} {info : ConnectionInfo κ}
    {cfg : GlideClientConfiguration} (hinfo : convert url = .ok info)
    (hcfg : GlideClientConfiguration.fromConnectionInfo convert url = .ok cfg) :
    cfg = ⟨described [info.addr.node] info, info.redis.db⟩ := by
  obtain ⟨other, hother, -, rfl⟩ := (fromConnectionInfo_ok_iff convert url cfg).mp hcfg
  rw [hinfo] at hother
  cases hother
  rfl

variable {urls : List T} {first : ConnectionInfo κ} {infos : List (ConnectionInfo κ)}
  {cfg : GlideClusterClientConfiguration}

theorem cluster_ofDescriptions (hinfos : urls.map convert = (first :: infos).map .ok)
    (hcfg : GlideClusterClientConfiguration.fromUrls convert urls = .ok cfg) :
    cfg = ⟨described ((first :: infos).map fun info => info.addr.node) first, .enabled⟩ := by
  obtain ⟨⟨head, hhead, rfl⟩, -⟩ := fromUrls_settings hinfos hcfg
  cases hhead
  exact seedConfig_eq_described first (first :: infos)

theorem cluster_accepted (hinfos : urls.map convert = (first :: infos).map .ok)
    (hcfg : GlideClusterClientConfiguration.fromUrls convert urls = .ok cfg) :
    Accepted (first :: infos) := by
  obtain ⟨other, others, hothers, haccepted, -⟩ := (fromUrls_ok_iff urls cfg).mp hcfg
  have hok : Function.Injective (Except.ok : ConnectionInfo κ → RedisResult (ConnectionInfo κ)) :=
    fun _ _ h => Except.ok.inj h
  rwa [List.map_injective_iff.mpr hok (hinfos.symm.trans hothers)]

end Descriptions

theorem redis_eq_iff (a b : RedisConnectionInfo) :
    a = b ↔ a.db = b.db ∧ a.username = b.username ∧ a.password = b.password ∧
      a.protocol = b.protocol ∧ a.clientName = b.clientName := by
  obtain ⟨db, username, password, protocol, name⟩ := a
  obtain ⟨db', username', password', protocol', name'⟩ := b
  exact Iff.of_eq (RedisConnectionInfo.mk.injEq ..)

/-- Both kinds of configuration reach the core in full. Two configurations of
one kind have the same request exactly if they make the same demands, and
configurations of different kinds never have. A configuration that starts from
descriptions and goes on with any builder calls is the one that starts from
`new` with the calls of the description, and two descriptions that are accepted
have the same request exactly if they name the same nodes and, in the first
description, the same settings. -/
theorem requests_tell_configurations_apart (hblank : Blank core)
    (convert : T → RedisResult (ConnectionInfo κ)) :
    (∀ a b : GlideClientConfiguration, a.toRequest core = b.toRequest core ↔
      SameDemands a.common b.common ∧ a.databaseId = b.databaseId) ∧
    (∀ a b : GlideClusterClientConfiguration, a.toRequest core = b.toRequest core ↔
      SameDemands a.common b.common ∧ a.periodicChecks = b.periodicChecks) ∧
    (∀ (a : GlideClientConfiguration) (b : GlideClusterClientConfiguration),
      a.toRequest core ≠ b.toRequest core) ∧
    (∀ (url : T) (info : ConnectionInfo κ) (cfg : GlideClientConfiguration)
      (calls : List (Setter Int64)), convert url = .ok info →
      GlideClientConfiguration.fromConnectionInfo convert url = .ok cfg →
      calls.foldl GlideClientConfiguration.apply cfg = .build [info.addr.node]
        (.own info.redis.db :: (describing info).map .common ++ calls)) ∧
    (∀ (urls : List T) (first : ConnectionInfo κ) (infos : List (ConnectionInfo κ))
      (cfg : GlideClusterClientConfiguration) (calls : List (Setter PeriodicChecks)),
      urls.map convert = (first :: infos).map .ok →
      GlideClusterClientConfiguration.fromUrls convert urls = .ok cfg →
      calls.foldl GlideClusterClientConfiguration.apply cfg =
        .build ((first :: infos).map fun info => info.addr.node)
          ((describing first).map .common ++ calls)) ∧
    (∀ (url url' : T) (info info' : ConnectionInfo κ) (cfg cfg' : GlideClientConfiguration),
      convert url = .ok info → convert url' = .ok info' →
      GlideClientConfiguration.fromConnectionInfo convert url = .ok cfg →
      GlideClientConfiguration.fromConnectionInfo convert url' = .ok cfg' →
      (cfg.toRequest core = cfg'.toRequest core ↔
        info.addr.node = info'.addr.node ∧ info.addr.tls = info'.addr.tls ∧
          info.redis = info'.redis)) ∧
    (∀ (urls urls' : List T) (first first' : ConnectionInfo κ)
      (infos infos' : List (ConnectionInfo κ)) (cfg cfg' : GlideClusterClientConfiguration),
      urls.map convert = (first :: infos).map .ok → urls'.map convert = (first' :: infos').map .ok →
      GlideClusterClientConfiguration.fromUrls convert urls = .ok cfg →
      GlideClusterClientConfiguration.fromUrls convert urls' = .ok cfg' →
      (cfg.toRequest core = cfg'.toRequest core ↔
        ((first :: infos).map fun info => info.addr.node) =
            ((first' :: infos').map fun info => info.addr.node) ∧
          first.addr.tls = first'.addr.tls ∧ first.redis = first'.redis)) := by
  refine ⟨standalone_toRequest_eq_iff hblank, cluster_toRequest_eq_iff hblank, ?_, ?_, ?_, ?_, ?_⟩
  · intro a b h
    cases congrArg ConnectionRequest.clusterModeEnabled h
  · intro url info cfg calls hinfo hcfg
    rw [standalone_ofDescription hinfo hcfg, ← standalone_build_describing,
      GlideClientConfiguration.build, GlideClientConfiguration.build, List.foldl_append]
  · intro urls first infos cfg calls hinfos hcfg
    rw [cluster_ofDescriptions hinfos hcfg, ← cluster_build_describing,
      GlideClusterClientConfiguration.build, GlideClusterClientConfiguration.build,
      List.foldl_append]
  · intro url url' info info' cfg cfg' hinfo hinfo' hcfg hcfg'
    rw [standalone_ofDescription hinfo hcfg, standalone_ofDescription hinfo' hcfg',
      standalone_toRequest_eq_iff hblank, sameDemands_described_iff, redis_eq_iff]
    simp only [List.cons.injEq, and_true]
    tauto
  · intro urls urls' first first' infos infos' cfg cfg' hinfos hinfos' hcfg hcfg'
    have hdb := (cluster_accepted hinfos hcfg).database first List.mem_cons_self
    have hdb' := (cluster_accepted hinfos' hcfg').database first' List.mem_cons_self
    rw [cluster_ofDescriptions hinfos hcfg, cluster_ofDescriptions hinfos' hcfg',
      cluster_toRequest_eq_iff hblank, sameDemands_described_iff, redis_eq_iff]
    simp only [hdb, hdb', true_and, and_true]
    tauto

theorem blank_defaultRequest : Blank defaultRequest := ⟨rfl, rfl, rfl, rfl, rfl, rfl, rfl, rfl⟩

/-- Timeouts of 1.2 and of 1 ms are one request, with or without a push channel;
another protocol of the first seed is another one. -/
theorem requests_tell_configurations_apart_protocols :
    (GlideClientConfiguration.build []
        [.common (.requestTimeout ⟨0, 1200000, by decide⟩)]).toRequest defaultRequest =
      (GlideClientConfiguration.build []
        [.common (.requestTimeout ⟨0, 1000000, by decide⟩), .common .enablePubsub]).toRequest
          defaultRequest ∧
    ∃ cfg cfg', GlideClusterClientConfiguration.fromUrls .ok
        [plainSeed "n1" 7000 .RESP3, plainSeed "n2" 7001 .RESP2] = .ok cfg ∧
      GlideClusterClientConfiguration.fromUrls .ok
        [plainSeed "n1" 7000 .RESP2, plainSeed "n2" 7001 .RESP2] = .ok cfg' ∧
      cfg.toRequest defaultRequest ≠ cfg'.toRequest defaultRequest := by
  obtain ⟨hstandalone, -, -, -, -, -, hseeds⟩ :=
    requests_tell_configurations_apart (T := ConnectionInfo Unit) blank_defaultRequest .ok
  constructor
  · rw [hstandalone]
    refine ⟨⟨rfl, rfl, rfl, rfl, .some (.inl (by decide)), .none, rfl, rfl, rfl, rfl, rfl, rfl,
      rfl, rfl⟩, rfl⟩
  · refine ⟨_, _, rfl, rfl, ?_⟩
    intro h
    have hsame := (hseeds [plainSeed "n1" 7000 .RESP3, plainSeed "n2" 7001 .RESP2]
      [plainSeed "n1" 7000 .RESP2, plainSeed "n2" 7001 .RESP2] _ _ _ _ _ _ rfl rfl rfl rfl).mp h
    exact absurd hsame.2.2 (by decide)

end Faithful

end GlideRust.Config

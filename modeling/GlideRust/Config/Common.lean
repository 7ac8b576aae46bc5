import Mathlib.Data.Finset.Basic
import GlideRust.Redis
import GlideRust.Lib.Duration

/-!
# Configuration shared by the standalone and the cluster client

The settings, their conversion to the types of `glide-core`, the builder setters
that the macro `impl_common_config_builders!` generates for both configurations,
and the lowering `common_request`.

## Implementation notes

The fields and setters that the macro gives to both configuration structs are
the structure `CommonConfig`; each configuration adds its own field. Of
`ConnectionRequest` the fields that the lowering writes are named, all others
are the component `others` of an arbitrary type. `ConnectionRequest::default()`
is the parameter `core`. A `HashMap` keyed by a channel mode is a function from
modes, a `HashSet` a finite set.
-/

namespace GlideRust.Config

open Redis Lib

/-! ## Types of `glide-core` -/

namespace Core

inductive PubSubSubscriptionKind where
  | exact
  | pattern
  | sharded
  deriving DecidableEq, Repr

/-- `PubSubSubscriptionInfo`. -/
abbrev PubSubSubscriptionInfo := PubSubSubscriptionKind → Option (Finset Bytes)

inductive ProtocolVersion where
  | RESP2
  | RESP3
  deriving DecidableEq, Repr

inductive ReadFrom where
  | primary
  | preferReplica
  | azAffinity (az : String)
  | azAffinityReplicasAndPrimary (az : String)
  | allNodes
  deriving DecidableEq, Repr

structure NodeAddress where
  host : String
  port : UInt16
  deriving DecidableEq, Repr

inductive ServiceType where
  | elastiCache
  | memoryDB
  deriving DecidableEq, Repr

structure IamAuthenticationConfig where
  clusterName : String
  region : String
  serviceType : ServiceType
  refreshIntervalSeconds : Option UInt32
  deriving DecidableEq, Repr

structure AuthenticationInfo where
  username : Option String
  password : Option String
  iamConfig : Option IamAuthenticationConfig
  deriving DecidableEq, Repr

structure ConnectionRetryStrategy where
  exponentBase : UInt32
  factor : UInt32
  numberOfRetries : UInt32
  jitterPercent : Option UInt32
  deriving DecidableEq, Repr

inductive PeriodicCheck where
  | enabled
  | disabled
  | manualInterval (interval : Duration)
  deriving DecidableEq, Repr

inductive TlsMode where
  | noTls
  | secureTls
  | insecureTls
  deriving DecidableEq, Repr

end Core

/-- `ConnectionRequest`; `others` is what the lowering never writes. -/
@[ext]
structure ConnectionRequest (ω : Type) where
  addresses : List Core.NodeAddress
  tlsMode : Option Core.TlsMode
  readFrom : Option Core.ReadFrom
  protocol : Option Core.ProtocolVersion
  clientName : Option String
  libName : Option String
  lazyConnect : Bool
  inflightRequestsLimit : Option UInt32
  tcpNodelay : Bool
  rootCerts : List Bytes
  clientCert : Bytes
  clientKey : Bytes
  pubsubSubscriptions : Option Core.PubSubSubscriptionInfo
  authenticationInfo : Option Core.AuthenticationInfo
  requestTimeout : Option UInt32
  connectionTimeout : Option UInt32
  connectionRetryStrategy : Option Core.ConnectionRetryStrategy
  clusterModeEnabled : Bool
  databaseId : Int64
  periodicChecks : Option Core.PeriodicCheck
  others : ω

/-! ## Settings and their conversions -/

inductive PubSubChannelMode where
  | exact
  | pattern
  | sharded
  deriving DecidableEq, Repr

def PubSubChannelMode.toCore : PubSubChannelMode → Core.PubSubSubscriptionKind
  | .exact => .exact
  | .pattern => .pattern
  | .sharded => .sharded

/-- `PubSubSubscriptions`. -/
structure PubSubSubscriptions where
  channels : PubSubChannelMode → Option (Finset Bytes)

namespace PubSubSubscriptions

def new : PubSubSubscriptions := ⟨fun _ => none⟩

def subscribe (subs : PubSubSubscriptions) (mode : PubSubChannelMode) (channel : Bytes) :
    PubSubSubscriptions :=
  ⟨fun m => if m = mode then some (insert channel ((subs.channels mode).getD ∅))
    else subs.channels m⟩

/-- `PubSubSubscriptions::is_empty`. -/
def isEmpty (subs : PubSubSubscriptions) : Bool :=
  [PubSubChannelMode.exact, .pattern, .sharded].all fun mode =>
    match subs.channels mode with
    | some set => set = ∅
    | none => true

/-- The loop of `to_core` over the entries of the map, in any order of them. -/
def toCoreIn (order : List PubSubChannelMode) (subs : PubSubSubscriptions) :
    Core.PubSubSubscriptionInfo :=
  order.foldl (fun info mode =>
    match subs.channels mode with
    | some set => fun kind => if kind = mode.toCore then some set else info kind
    | none => info) fun _ => none

/-- `PubSubSubscriptions::to_core`. -/
def toCore (subs : PubSubSubscriptions) : Core.PubSubSubscriptionInfo :=
  subs.toCoreIn [.exact, .pattern, .sharded]

end PubSubSubscriptions

inductive ProtocolVersion where
  | RESP2
  | RESP3
  deriving DecidableEq, Repr

def ProtocolVersion.toCore : ProtocolVersion → Core.ProtocolVersion
  | .RESP2 => .RESP2
  | .RESP3 => .RESP3

inductive ReadFrom where
  | primary
  | preferReplica
  | azAffinity (az : String)
  | azAffinityReplicasAndPrimary (az : String)
  | allNodes
  deriving DecidableEq, Repr

def ReadFrom.toCore : ReadFrom → Core.ReadFrom
  | .primary => .primary
  | .preferReplica => .preferReplica
  | .azAffinity az => .azAffinity az
  | .azAffinityReplicasAndPrimary az => .azAffinityReplicasAndPrimary az
  | .allNodes => .allNodes

structure NodeAddress where
  host : String
  port : UInt16
  deriving DecidableEq, Repr

def NodeAddress.toCore (a : NodeAddress) : Core.NodeAddress := ⟨a.host, a.port⟩

inductive ServiceType where
  | elastiCache
  | memoryDB
  deriving DecidableEq, Repr

def ServiceType.toCore : ServiceType → Core.ServiceType
  | .elastiCache => .elastiCache
  | .memoryDB => .memoryDB

structure IamAuthConfig where
  clusterName : String
  region : String
  serviceType : ServiceType
  refreshIntervalSeconds : Option UInt32
  deriving DecidableEq, Repr

def IamAuthConfig.toCore (iam : IamAuthConfig) : Core.IamAuthenticationConfig :=
  ⟨iam.clusterName, iam.region, iam.serviceType.toCore, iam.refreshIntervalSeconds⟩

structure ServerCredentials where
  username : Option String
  password : Option String
  iamConfig : Option IamAuthConfig
  deriving DecidableEq, Repr

def ServerCredentials.toCore (creds : ServerCredentials) : Core.AuthenticationInfo :=
  ⟨creds.username, creds.password, creds.iamConfig.map IamAuthConfig.toCore⟩

/-- `ClientIdentity`: certificate and private key always come together. -/
structure ClientIdentity where
  certPem : Bytes
  keyPem : Bytes
  deriving DecidableEq, Repr

structure BackoffStrategy where
  numOfRetries : UInt32
  factor : UInt32
  exponentBase : UInt32
  jitterPercent : Option UInt32
  deriving DecidableEq, Repr

def BackoffStrategy.toCore (b : BackoffStrategy) : Core.ConnectionRetryStrategy :=
  ⟨b.exponentBase, b.factor, b.numOfRetries, b.jitterPercent⟩

inductive PeriodicChecks where
  | enabled
  | disabled
  | manualInterval (secs : UInt64)
  deriving DecidableEq, Repr

def PeriodicChecks.toCore : PeriodicChecks → Core.PeriodicCheck
  | .enabled => .enabled
  | .disabled => .disabled
  | .manualInterval secs => .manualInterval (.fromSecs secs)

inductive TlsConfig where
  | noTls
  | secureTls
  | insecureTls
  deriving DecidableEq, Repr

def TlsConfig.toCore : TlsConfig → Core.TlsMode
  | .noTls => .noTls
  | .secureTls => .secureTls
  | .insecureTls => .insecureTls

/-- `duration_as_millis_u32`. -/
def durationAsMillisU32 (d : Duration) : UInt32 := saturateU32 d.asMillis

/-! ## The shared fields and their setters -/

@[ext]
structure CommonConfig where
  addresses : List NodeAddress
  tls : TlsConfig
  credentials : Option ServerCredentials
  readFrom : ReadFrom
  requestTimeout : Option Duration
  connectionTimeout : Option Duration
  reconnectStrategy : Option BackoffStrategy
  clientName : Option String
  protocol : ProtocolVersion
  inflightRequestsLimit : Option UInt32
  lazyConnect : Bool
  pubsubSubscriptions : Option PubSubSubscriptions
  forcePubsubChannel : Bool
  rootCerts : List Bytes
  clientIdentity : Option ClientIdentity

/-- The initial values of the shared fields in both `new` functions. -/
def CommonConfig.new (addresses : List NodeAddress) : CommonConfig where
  addresses := addresses
  tls := .noTls
  credentials := none
  readFrom := .primary
  requestTimeout := none
  connectionTimeout := none
  reconnectStrategy := none
  clientName := none
  protocol := .RESP3
  inflightRequestsLimit := none
  lazyConnect := false
  pubsubSubscriptions := none
  forcePubsubChannel := false
  rootCerts := []
  clientIdentity := none

/-- A call of one of the shared setters. -/
inductive CommonSetter where
  | tls (tls : TlsConfig)
  | tlsCaCert (pem : Bytes)
  | clientIdentity (certPem keyPem : Bytes)
  | credentials (creds : ServerCredentials)
  | readFrom (readFrom : ReadFrom)
  | requestTimeout (timeout : Duration)
  | connectionTimeout (timeout : Duration)
  | inflightRequestsLimit (limit : UInt32)
  | clientName (name : String)
  | protocol (protocol : ProtocolVersion)
  | lazyConnect (isLazy : Bool)
  | reconnectStrategy (strategy : BackoffStrategy)
  | subscriptions (subs : PubSubSubscriptions)
  | enablePubsub

/-- The bodies of the shared setters. -/
def CommonConfig.apply (cfg : CommonConfig) : CommonSetter → CommonConfig
  | .tls tls => { cfg with tls := tls }
  | .tlsCaCert pem => { cfg with rootCerts := cfg.rootCerts ++ [pem] }
  | .clientIdentity certPem keyPem => { cfg with clientIdentity := some ⟨certPem, keyPem⟩ }
  | .credentials creds => { cfg with credentials := some creds }
  | .readFrom readFrom => { cfg with readFrom := readFrom }
  | .requestTimeout timeout => { cfg with requestTimeout := some timeout }
  | .connectionTimeout timeout => { cfg with connectionTimeout := some timeout }
  | .inflightRequestsLimit limit => { cfg with inflightRequestsLimit := some limit }
  | .clientName name => { cfg with clientName := some name }
  | .protocol protocol => { cfg with protocol := protocol }
  | .lazyConnect isLazy => { cfg with lazyConnect := isLazy }
  | .reconnectStrategy strategy => { cfg with reconnectStrategy := some strategy }
  | .subscriptions subs => { cfg with pubsubSubscriptions := some subs }
  | .enablePubsub => { cfg with forcePubsubChannel := true }

/-! ## The shared lowering -/

variable {ω : Type}

/-- `common_request`: the struct literal over the core's defaults, then the
conditional overrides. -/
def CommonConfig.commonRequest (core : ConnectionRequest ω) (cfg : CommonConfig) :
    ConnectionRequest ω :=
  let req := { core with
    addresses := cfg.addresses.map NodeAddress.toCore
    tlsMode := some cfg.tls.toCore
    readFrom := some cfg.readFrom.toCore
    protocol := some cfg.protocol.toCore
    clientName := cfg.clientName
    libName := some "GlideRust"
    lazyConnect := cfg.lazyConnect
    inflightRequestsLimit := cfg.inflightRequestsLimit
    tcpNodelay := true }
  let req := if cfg.rootCerts.isEmpty then req else { req with rootCerts := cfg.rootCerts }
  let req := match cfg.clientIdentity with
    | some identity => { req with clientCert := identity.certPem, clientKey := identity.keyPem }
    | none => req
  let req := match cfg.pubsubSubscriptions with
    | some subs => { req with pubsubSubscriptions := some subs.toCore }
    | none => req
  let req := match cfg.credentials with
    | some creds => { req with authenticationInfo := some creds.toCore }
    | none => req
  let req := match cfg.requestTimeout with
    | some t => { req with requestTimeout := some (durationAsMillisU32 t) }
    | none => req
  let req := match cfg.connectionTimeout with
    | some t => { req with connectionTimeout := some (durationAsMillisU32 t) }
    | none => req
  match cfg.reconnectStrategy with
  | some strategy => { req with connectionRetryStrategy := some strategy.toCore }
  | none => req

/-- The overrides touch different fields, so the request can be written down at
once. -/
theorem CommonConfig.commonRequest_eq (core : ConnectionRequest ω) (cfg : CommonConfig) :
    cfg.commonRequest core = { core with
      addresses := cfg.addresses.map NodeAddress.toCore
      tlsMode := some cfg.tls.toCore
      readFrom := some cfg.readFrom.toCore
      protocol := some cfg.protocol.toCore
      clientName := cfg.clientName
      libName := some "GlideRust"
      lazyConnect := cfg.lazyConnect
      inflightRequestsLimit := cfg.inflightRequestsLimit
      tcpNodelay := true
      rootCerts := if cfg.rootCerts.isEmpty then core.rootCerts else cfg.rootCerts
      clientCert := (cfg.clientIdentity.map ClientIdentity.certPem).getD core.clientCert
      clientKey := (cfg.clientIdentity.map ClientIdentity.keyPem).getD core.clientKey
      pubsubSubscriptions := (cfg.pubsubSubscriptions.map PubSubSubscriptions.toCore).or
        core.pubsubSubscriptions
      authenticationInfo := (cfg.credentials.map ServerCredentials.toCore).or
        core.authenticationInfo
      requestTimeout := (cfg.requestTimeout.map durationAsMillisU32).or core.requestTimeout
      connectionTimeout := (cfg.connectionTimeout.map durationAsMillisU32).or
        core.connectionTimeout
      connectionRetryStrategy := (cfg.reconnectStrategy.map BackoffStrategy.toCore).or
        core.connectionRetryStrategy } := by
  obtain ⟨_, _, creds, _, reqTimeout, connTimeout, strategy, _, _, _, _, subs, _, certs,
    identity⟩ := cfg
  cases creds <;> cases reqTimeout <;> cases connTimeout <;> cases strategy <;> cases subs <;>
    cases certs <;> cases identity <;> rfl

end GlideRust.Config

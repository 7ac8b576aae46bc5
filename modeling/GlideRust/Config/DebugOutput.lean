import GlideRust.Commands.Options
import GlideRust.Config.Clients
import GlideRust.Lib.DebugFormat

/-!
# Secrets and `{:?}`

The `Debug` texts of the types that carry a password or a private key. The
credentials and the client identity write theirs by hand and leave the secret
out; the configurations and the options of `MIGRATE` derive theirs.

## Implementation notes

The order in which a hash map or a hash set is iterated is a property of the
table, here a function of its contents: equal tables are written alike.
-/

namespace GlideRust.Config

open Redis Lib Lib.DebugFormat
open Commands.Options (MigrateOptions)

/-- What a rendering depends on besides the value. -/
structure DebugEnv where
  unprintable : Char → Bool
  modeOrder : PubSubSubscriptions → List PubSubChannelMode
  channelOrder : Finset Bytes → List Bytes

variable (env : DebugEnv)

/-! ## Derived texts -/

def debugText (s : String) : Text := debugStr env.unprintable s

/-- A `Vec<u8>`. -/
def debugBytes (b : Bytes) : Text := debugList (b.map fun byte => debugNat byte.toNat)

def PubSubChannelMode.debug : PubSubChannelMode → Text
  | .exact => debugTuple "Exact" []
  | .pattern => debugTuple "Pattern" []
  | .sharded => debugTuple "Sharded" []

/-- The entries of the map in the order in which it is iterated. -/
def PubSubSubscriptions.debug (subs : PubSubSubscriptions) : Text :=
  debugStruct "PubSubSubscriptions" [("channels", debugMap ((env.modeOrder subs).filterMap fun mode =>
    (subs.channels mode).map fun channels =>
      (mode.debug, debugSet ((env.channelOrder channels).map debugBytes))))]

def ProtocolVersion.debug : ProtocolVersion → Text
  | .RESP2 => debugTuple "RESP2" []
  | .RESP3 => debugTuple "RESP3" []

def ReadFrom.debug : ReadFrom → Text
  | .primary => debugTuple "Primary" []
  | .preferReplica => debugTuple "PreferReplica" []
  | .azAffinity az => debugTuple "AZAffinity" [debugText env az]
  | .azAffinityReplicasAndPrimary az =>
      debugTuple "AZAffinityReplicasAndPrimary" [debugText env az]
  | .allNodes => debugTuple "AllNodes" []

def NodeAddress.debug (address : NodeAddress) : Text :=
  debugStruct "NodeAddress"
    [("host", debugText env address.host), ("port", debugNat address.port.toNat)]

def ServiceType.debug : ServiceType → Text
  | .elastiCache => debugTuple "ElastiCache" []
  | .memoryDB => debugTuple "MemoryDB" []

def IamAuthConfig.debug (iam : IamAuthConfig) : Text :=
  debugStruct "IamAuthConfig"
    [("cluster_name", debugText env iam.clusterName), ("region", debugText env iam.region),
      ("service_type", iam.serviceType.debug),
      ("refresh_interval_seconds",
        debugOption (fun n : UInt32 => debugNat n.toNat) iam.refreshIntervalSeconds)]

def BackoffStrategy.debug (strategy : BackoffStrategy) : Text :=
  debugStruct "BackoffStrategy"
    [("num_of_retries", debugNat strategy.numOfRetries.toNat),
      ("factor", debugNat strategy.factor.toNat),
      ("exponent_base", debugNat strategy.exponentBase.toNat),
      ("jitter_percent", debugOption (fun n : UInt32 => debugNat n.toNat) strategy.jitterPercent)]

def PeriodicChecks.debug : PeriodicChecks → Text
  | .enabled => debugTuple "Enabled" []
  | .disabled => debugTuple "Disabled" []
  | .manualInterval secs => debugTuple "ManualInterval" [debugNat secs.toNat]

def TlsConfig.debug : TlsConfig → Text
  | .noTls => debugTuple "NoTls" []
  | .secureTls => debugTuple "SecureTls" []
  | .insecureTls => debugTuple "InsecureTls" []

/-! ## Types that carry a secret -/

/-- `Debug for ServerCredentials`. -/
def ServerCredentials.debug (creds : ServerCredentials) : Text :=
  debugStruct "ServerCredentials"
    [("username", debugOption (debugText env) creds.username),
      ("password", debugOption (debugText env) (creds.password.map fun _ => "<redacted>")),
      ("iam_config", debugOption (IamAuthConfig.debug env) creds.iamConfig)]

/-- `Debug for ClientIdentity`. -/
def ClientIdentity.debug (identity : ClientIdentity) : Text :=
  debugStruct "ClientIdentity"
    [("cert_pem", "[".toList ++ debugNat identity.certPem.length ++ " bytes]".toList),
      ("key_pem", debugText env "<redacted>")]

/-- The fields of both configurations up to `reconnect_strategy`. -/
def CommonConfig.debugFirst (cfg : CommonConfig) : List (String × Text) :=
  [("addresses", debugList (cfg.addresses.map (NodeAddress.debug env))),
    ("tls", cfg.tls.debug),
    ("credentials", debugOption (ServerCredentials.debug env) cfg.credentials),
    ("read_from", cfg.readFrom.debug env),
    ("request_timeout", debugOption debugDuration cfg.requestTimeout),
    ("connection_timeout", debugOption debugDuration cfg.connectionTimeout),
    ("reconnect_strategy", debugOption BackoffStrategy.debug cfg.reconnectStrategy)]

def CommonConfig.debugMiddle (cfg : CommonConfig) : List (String × Text) :=
  [("client_name", debugOption (debugText env) cfg.clientName), ("protocol", cfg.protocol.debug)]

/-- The fields of both configurations from `inflight_requests_limit` on. -/
def CommonConfig.debugLast (cfg : CommonConfig) : List (String × Text) :=
  [("inflight_requests_limit",
      debugOption (fun n : UInt32 => debugNat n.toNat) cfg.inflightRequestsLimit),
    ("lazy_connect", debugBool cfg.lazyConnect),
    ("pubsub_subscriptions", debugOption (PubSubSubscriptions.debug env) cfg.pubsubSubscriptions),
    ("force_pubsub_channel", debugBool cfg.forcePubsubChannel),
    ("root_certs", debugList (cfg.rootCerts.map debugBytes)),
    ("client_identity", debugOption (ClientIdentity.debug env) cfg.clientIdentity)]

def GlideClientConfiguration.debug (cfg : GlideClientConfiguration) : Text :=
  debugStruct "GlideClientConfiguration" (cfg.common.debugFirst env ++
    ("database_id", debugInt cfg.databaseId.toInt) ::
      (cfg.common.debugMiddle env ++ cfg.common.debugLast env))

def GlideClusterClientConfiguration.debug (cfg : GlideClusterClientConfiguration) : Text :=
  debugStruct "GlideClusterClientConfiguration" (cfg.common.debugFirst env ++
    (cfg.common.debugMiddle env ++
      ("periodic_checks", cfg.periodicChecks.debug) :: cfg.common.debugLast env))

def debugMigrateOptions (options : MigrateOptions) : Text :=
  debugStruct "MigrateOptions"
    [("copy", debugBool options.copy), ("replace", debugBool options.replace),
      ("password", debugOption (debugText env) options.password),
      ("username", debugOption (debugText env) options.username)]

/-- The public types that carry a password or a private key. -/
inductive SecretCarrier where
  | serverCredentials (creds : ServerCredentials)
  | clientIdentity (identity : ClientIdentity)
  | glideClient (cfg : GlideClientConfiguration)
  | glideClusterClient (cfg : GlideClusterClientConfiguration)
  | migrateOptions (options : MigrateOptions)

/-- `format!("{:?}", value)`. -/
def SecretCarrier.debug : SecretCarrier → Text
  | .serverCredentials creds => creds.debug env
  | .clientIdentity identity => identity.debug env
  | .glideClient cfg => cfg.debug env
  | .glideClusterClient cfg => cfg.debug env
  | .migrateOptions options => debugMigrateOptions env options

/-! ## Values without their secrets -/

/-- Only the presence of the password is left. -/
def ServerCredentials.erase (creds : ServerCredentials) : ServerCredentials :=
  { creds with password := creds.password.map fun _ => "" }

def ClientIdentity.erase (identity : ClientIdentity) : ClientIdentity :=
  { identity with keyPem := [] }

def CommonConfig.erase (cfg : CommonConfig) : CommonConfig :=
  { cfg with
    credentials := cfg.credentials.map ServerCredentials.erase
    clientIdentity := cfg.clientIdentity.map ClientIdentity.erase }

def SecretCarrier.erase : SecretCarrier → SecretCarrier
  | .serverCredentials creds => .serverCredentials creds.erase
  | .clientIdentity identity => .clientIdentity identity.erase
  | .glideClient cfg => .glideClient { cfg with common := cfg.common.erase }
  | .glideClusterClient cfg => .glideClusterClient { cfg with common := cfg.common.erase }
  | .migrateOptions options =>
      .migrateOptions { options with password := options.password.map fun _ => "" }

/-- Equal except for the contents of passwords and private keys. -/
def SameButSecrets (a b : SecretCarrier) : Prop := a.erase = b.erase

/-- No other value of the secrets changes the text. -/
def HidesSecrets (a : SecretCarrier) : Prop :=
  ∀ b, SameButSecrets a b → a.debug env = b.debug env

/-- Options of `MIGRATE` with a password. -/
def CarriesMigratePassword : SecretCarrier → Prop
  | .migrateOptions options => options.password ≠ none
  | _ => False

/-! ## Redaction -/

theorem ServerCredentials.debug_erase (creds : ServerCredentials) :
    creds.erase.debug env = creds.debug env := by
  simp only [debug, erase, Option.map_map, Function.comp_def]

theorem ClientIdentity.debug_erase (identity : ClientIdentity) :
    identity.erase.debug env = identity.debug env := rfl

theorem debugOption_map {α : Type} {debug : α → Text} {erase : α → α}
    (h : ∀ a, debug (erase a) = debug a) (option : Option α) :
    debugOption debug (option.map erase) = debugOption debug option := by
  cases option with
  | none => rfl
  | some a => rw [Option.map_some, debugOption, h, debugOption]

theorem CommonConfig.debugFirst_erase (cfg : CommonConfig) :
    cfg.erase.debugFirst env = cfg.debugFirst env := by
  simp only [debugFirst, erase, debugOption_map (ServerCredentials.debug_erase env)]

theorem CommonConfig.debugLast_erase (cfg : CommonConfig) :
    cfg.erase.debugLast env = cfg.debugLast env := by
  simp only [debugLast, erase, debugOption_map (ClientIdentity.debug_erase env)]

/-- Outside of `MIGRATE` passwords the text is that of the value without secrets. -/
theorem SecretCarrier.debug_erase {a : SecretCarrier} (h : ¬CarriesMigratePassword a) :
    a.erase.debug env = a.debug env := by
  cases a with
  | serverCredentials creds => exact creds.debug_erase env
  | clientIdentity identity => exact identity.debug_erase env
  | glideClient cfg =>
      simp only [erase, debug, GlideClientConfiguration.debug, CommonConfig.debugFirst_erase,
        CommonConfig.debugLast_erase]
      rfl
  | glideClusterClient cfg =>
      simp only [erase, debug, GlideClusterClientConfiguration.debug,
        CommonConfig.debugFirst_erase, CommonConfig.debugLast_erase]
      rfl
  | migrateOptions options =>
      rw [CarriesMigratePassword, not_not] at h
      simp only [erase, debug, h, Option.map_none, debugMigrateOptions]

/-- Whether `MIGRATE` options carry a password does not depend on its contents. -/
theorem carriesMigratePassword_of_same {a b : SecretCarrier} (hsame : SameButSecrets a b)
    (h : ¬CarriesMigratePassword a) : ¬CarriesMigratePassword b := by
  cases b with
  | migrateOptions other =>
      cases a with
      | migrateOptions options =>
          rw [CarriesMigratePassword, not_not] at h ⊢
          simp only [SameButSecrets, SecretCarrier.erase, h, Option.map_none,
            SecretCarrier.migrateOptions.injEq, MigrateOptions.mk.injEq] at hsame
          exact Option.map_eq_none_iff.mp hsame.2.2.1.symm
      | _ => cases hsame
  | _ => exact not_false

/-! ## The password of `MIGRATE` -/

/-- A longer password makes a longer text. -/
theorem debugMigrateOptions_push (options : MigrateOptions) (password : String) (c : Char) :
    debugMigrateOptions env { options with password := some password } ≠
      debugMigrateOptions env { options with password := some (password.push c) } := by
  intro hsame
  have hlonger := length_debugStr_lt env.unprintable password c
  have hlength : (debugStr env.unprintable password).length =
      (debugStr env.unprintable (password.push c)).length := by
    simpa [debugMigrateOptions, debugStruct, commas, debugOption, debugTuple, debugText] using
      congrArg List.length hsame
  omega

theorem not_hidesSecrets_of_carriesMigratePassword {a : SecretCarrier}
    (h : CarriesMigratePassword a) : ¬HidesSecrets env a := by
  cases a with
  | migrateOptions options =>
      obtain ⟨password, hpassword⟩ := Option.ne_none_iff_exists'.mp h
      obtain ⟨copy, replace, password', username⟩ := options
      cases hpassword
      intro hhides
      exact debugMigrateOptions_push env ⟨copy, replace, none, username⟩ password 'a'
        (hhides (.migrateOptions ⟨copy, replace, some (password.push 'a'), username⟩) rfl)
  | _ => exact h.elim

/-- The text of a value is the same for all contents of its secrets exactly when
the value is not an option record of `MIGRATE` with a password. -/
theorem debug_hides_secrets_iff (a : SecretCarrier) :
    HidesSecrets env a ↔ ¬CarriesMigratePassword a := by
  constructor
  · intro hhides hcarries
    exact not_hidesSecrets_of_carriesMigratePassword env hcarries hhides
  · intro hcarries b hsame
    have hother := carriesMigratePassword_of_same hsame hcarries
    calc
      a.debug env = a.erase.debug env := (SecretCarrier.debug_erase env hcarries).symm
      _ = b.erase.debug env := by rw [hsame]
      _ = b.debug env := SecretCarrier.debug_erase env hother

/-- An environment in which every character is printed as it is. -/
def plainEnv : DebugEnv where
  unprintable _ := false
  modeOrder _ := []
  channelOrder _ := []

/-- Two passwords of `MIGRATE`, one of them the beginning of the other, show. -/
theorem migrate_password_shows :
    SameButSecrets (.migrateOptions ⟨false, false, some "a", none⟩)
        (.migrateOptions ⟨false, false, some "ab", none⟩) ∧
      debugMigrateOptions plainEnv ⟨false, false, some "a", none⟩ =
        "MigrateOptions \x7b copy: false, replace: false, ".toList ++
          "password: Some(\"a\"), username: None \x7d".toList ∧
      SecretCarrier.debug plainEnv (.migrateOptions ⟨false, false, some "a", none⟩) ≠
        SecretCarrier.debug plainEnv (.migrateOptions ⟨false, false, some "ab", none⟩) := by
  refine ⟨rfl, by decide, ?_⟩
  exact debugMigrateOptions_push plainEnv ⟨false, false, none, none⟩ "a" 'b'

end GlideRust.Config

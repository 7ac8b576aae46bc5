import GlideRust.Config.Clients
import GlideRust.Error
import GlideRust.Lib.Fallible

/-!
# Configurations from connection descriptions

A cluster configuration is built from a list of seed descriptions that must
agree on everything but the address and the protocol; a standalone one is built
from a single description.

## Implementation notes

`IntoConnectionInfo` is a trait of the `redis` crate. Its conversion is the
parameter `convert`, over an arbitrary type of descriptions, and the TLS
certificate parameters of an address are an arbitrary type `κ`, since the client
only asks whether they are present.
-/

namespace GlideRust.Config

open Redis Error Lib.Fallible

variable {T κ : Type}

/-- `redis::RedisConnectionInfo`. -/
structure RedisConnectionInfo where
  db : Int64
  username : Option String
  password : Option String
  protocol : Core.ProtocolVersion
  clientName : Option String
  deriving DecidableEq, Repr

/-- `redis::ConnectionAddr`. -/
inductive ConnectionAddr (κ : Type) where
  | tcp (host : String) (port : UInt16)
  | tcpTls (host : String) (port : UInt16) (insecure : Bool) (tlsParams : Option κ)
  | unix (path : String)

/-- `redis::ConnectionInfo`. -/
structure ConnectionInfo (κ : Type) where
  addr : ConnectionAddr κ
  redis : RedisConnectionInfo

/-- `split_connection_addr`. -/
def splitConnectionAddr : ConnectionAddr κ → Result (NodeAddress × TlsConfig)
  | .tcp host port => .ok (⟨host, port⟩, .noTls)
  | .tcpTls host port insecure tlsParams =>
      if tlsParams.isSome then
        .error (.configuration ("ConnectionInfo carries TLS certificate parameters " ++
          "(TlsCertificates) that cannot be mapped; configure them via the config's " ++
          "`root_certs` field and `client_identity(cert, key)` instead"))
      else .ok (⟨host, port⟩, if insecure then .insecureTls else .secureTls)
  | .unix _ =>
      .error (.configuration "unix-socket connections are not supported by glide-core")

/-- `from_redis_protocol`. -/
def fromRedisProtocol : Core.ProtocolVersion → ProtocolVersion
  | .RESP2 => .RESP2
  | .RESP3 => .RESP3

/-- `credentials_from_info`. -/
def credentialsFromInfo : Option String → Option String → Option ServerCredentials
  | none, none => none
  | username, password => some ⟨username, password, none⟩

/-- `.into_connection_info().map_err(|e| GlideError::Configuration(e.to_string()))`. -/
def intoConnectionInfo (convert : T → RedisResult (ConnectionInfo κ)) (url : T) :
    Result (ConnectionInfo κ) :=
  match convert url with
  | .ok info => .ok info
  | .error err => .error (.configuration err.message)

/-- The fields that both constructors take from a description. -/
def CommonConfig.withInfo (cfg : CommonConfig) (redis : RedisConnectionInfo) : CommonConfig :=
  { cfg with
    protocol := fromRedisProtocol redis.protocol
    clientName := redis.clientName
    credentials := credentialsFromInfo redis.username redis.password }

/-- `GlideClientConfiguration::from_connection_info`. -/
def GlideClientConfiguration.fromConnectionInfo
    (convert : T → RedisResult (ConnectionInfo κ)) (info : T) :
    Result GlideClientConfiguration := do
  let info ← intoConnectionInfo convert info
  let (address, tls) ← splitConnectionAddr info.addr
  let cfg := (GlideClientConfiguration.new [address]).apply (.common (.tls tls))
  return ⟨cfg.common.withInfo info.redis, info.redis.db⟩

/-- The addresses so far, and the settings of the first description. -/
abbrev Seeds := List NodeAddress × Option (TlsConfig × RedisConnectionInfo)

/-- The loop body of `from_urls`. -/
def addSeed (convert : T → RedisResult (ConnectionInfo κ)) (seeds : Seeds) (url : T) :
    Result Seeds := do
  let info ← intoConnectionInfo convert url
  let (address, tls) ← splitConnectionAddr info.addr
  let addresses := seeds.1 ++ [address]
  match seeds.2 with
  | none => .ok (addresses, some (tls, info.redis))
  | some (firstTls, firstRedis) =>
      if info.redis.password ≠ firstRedis.password then
        .error (.configuration "Cannot use different password among initial nodes.")
      else if info.redis.username ≠ firstRedis.username then
        .error (.configuration "Cannot use different username among initial nodes.")
      else if info.redis.clientName ≠ firstRedis.clientName then
        .error (.configuration "Cannot use different client_name among initial nodes.")
      else if info.redis.db ≠ firstRedis.db then
        .error (.configuration "Cannot use different database among initial nodes.")
      else if tls ≠ firstTls then
        .error (.configuration "Cannot use different TLS modes among initial nodes.")
      else .ok (addresses, some (firstTls, firstRedis))

/-- `GlideClusterClientConfiguration::from_urls`. -/
def GlideClusterClientConfiguration.fromUrls
    (convert : T → RedisResult (ConnectionInfo κ)) (urls : List T) :
    Result GlideClusterClientConfiguration := do
  let (addresses, first) ← urls.foldlM (addSeed convert) ([], none)
  match first with
  | none => .error (.configuration "at least one node URL is required")
  | some (tls, redis) =>
      if redis.db ≠ 0 then
        .error (.configuration "cluster deployments only support database 0")
      else
        let cfg := (GlideClusterClientConfiguration.new addresses).apply (.common (.tls tls))
        .ok { cfg with common := cfg.common.withInfo redis }

/-! ## Addresses -/

namespace ConnectionAddr

/-- TCP, or TLS over TCP without embedded certificate parameters. -/
def Supported : ConnectionAddr κ → Prop
  | tcp _ _ => True
  | tcpTls _ _ _ tlsParams => tlsParams = none
  | unix _ => False

/-- Host and port of a supported address. -/
def node : ConnectionAddr κ → NodeAddress
  | tcp host port => ⟨host, port⟩
  | tcpTls host port _ _ => ⟨host, port⟩
  | unix path => ⟨path, 0⟩

/-- The TLS mode of a supported address. -/
def tls : ConnectionAddr κ → TlsConfig
  | tcpTls _ _ insecure _ => if insecure then .insecureTls else .secureTls
  | _ => .noTls

end ConnectionAddr

theorem splitConnectionAddr_ok_iff (addr : ConnectionAddr κ) (split : NodeAddress × TlsConfig) :
    splitConnectionAddr addr = .ok split ↔ addr.Supported ∧ split = (addr.node, addr.tls) := by
  cases addr with
  | tcp host port =>
      simp [splitConnectionAddr, ConnectionAddr.Supported, ConnectionAddr.node,
        ConnectionAddr.tls, eq_comm]
  | tcpTls host port insecure tlsParams =>
      cases tlsParams with
      | none =>
          simp [splitConnectionAddr, ConnectionAddr.Supported, ConnectionAddr.node,
            ConnectionAddr.tls, eq_comm]
      | some params => simp [splitConnectionAddr, ConnectionAddr.Supported]
  | unix path => simp [splitConnectionAddr, ConnectionAddr.Supported]

theorem intoConnectionInfo_ok_iff (convert : T → RedisResult (ConnectionInfo κ)) (url : T)
    (info : ConnectionInfo κ) :
    intoConnectionInfo convert url = .ok info ↔ convert url = .ok info := by
  simp only [intoConnectionInfo]
  cases convert url with
  | ok other => simp
  | error err => simp

/-! ## The loop over the seeds -/

/-- The settings on which the description of a seed has to agree with the first one. -/
def SameRedis (a b : RedisConnectionInfo) : Prop :=
  a.password = b.password ∧ a.username = b.username ∧ a.clientName = b.clientName ∧ a.db = b.db

/-- Two descriptions that may stand in one seed list. -/
def SameSettings (a b : ConnectionInfo κ) : Prop :=
  SameRedis a.redis b.redis ∧ a.addr.tls = b.addr.tls

theorem SameSettings.symm {a b : ConnectionInfo κ} (h : SameSettings a b) : SameSettings b a :=
  ⟨⟨h.1.1.symm, h.1.2.1.symm, h.1.2.2.1.symm, h.1.2.2.2.symm⟩, h.2.symm⟩

theorem SameSettings.trans {a b c : ConnectionInfo κ} (hab : SameSettings a b)
    (hbc : SameSettings b c) : SameSettings a c :=
  ⟨⟨hab.1.1.trans hbc.1.1, hab.1.2.1.trans hbc.1.2.1, hab.1.2.2.1.trans hbc.1.2.2.1,
    hab.1.2.2.2.trans hbc.1.2.2.2⟩, hab.2.trans hbc.2⟩

variable {convert : T → RedisResult (ConnectionInfo κ)}

/-- The first description is taken as it is. -/
theorem addSeed_none_ok_iff (addresses : List NodeAddress) (url : T) (seeds : Seeds) :
    addSeed convert (addresses, none) url = .ok seeds ↔
      ∃ info, convert url = .ok info ∧ info.addr.Supported ∧
        seeds = (addresses ++ [info.addr.node], some (info.addr.tls, info.redis)) := by
  simp only [addSeed, bind_eq_ok_iff, intoConnectionInfo_ok_iff, splitConnectionAddr_ok_iff]
  constructor
  · rintro ⟨info, hinfo, split, ⟨hsupported, rfl⟩, hseeds⟩
    exact ⟨info, hinfo, hsupported, (Except.ok.inj hseeds).symm⟩
  · rintro ⟨info, hinfo, hsupported, rfl⟩
    exact ⟨info, hinfo, _, ⟨hsupported, rfl⟩, rfl⟩

/-- A later description has to agree with the first one, which stays. -/
theorem addSeed_some_ok_iff (addresses : List NodeAddress) (first : ConnectionInfo κ) (url : T)
    (seeds : Seeds) :
    addSeed convert (addresses, some (first.addr.tls, first.redis)) url = .ok seeds ↔
      ∃ info, convert url = .ok info ∧ info.addr.Supported ∧ SameSettings info first ∧
        seeds = (addresses ++ [info.addr.node], some (first.addr.tls, first.redis)) := by
  simp only [addSeed, bind_eq_ok_iff, intoConnectionInfo_ok_iff, splitConnectionAddr_ok_iff]
  constructor
  · rintro ⟨info, hinfo, split, ⟨hsupported, rfl⟩, hseeds⟩
    refine ⟨info, hinfo, hsupported, ?_⟩
    split_ifs at hseeds with hpassword husername hname hdb htls
    simp only [ne_eq, not_not] at hpassword husername hname hdb htls
    exact ⟨⟨⟨hpassword, husername, hname, hdb⟩, htls⟩, (Except.ok.inj hseeds).symm⟩
  · rintro ⟨info, hinfo, hsupported, ⟨⟨hpassword, husername, hname, hdb⟩, htls⟩, rfl⟩
    refine ⟨info, hinfo, _, ⟨hsupported, rfl⟩, ?_⟩
    simp [hpassword, husername, hname, hdb, htls]

/-- The loop from a given first description on, by induction on the descriptions. -/
theorem foldlM_addSeed_ok_iff (urls : List T) (addresses : List NodeAddress)
    (first : ConnectionInfo κ) (seeds : Seeds) :
    urls.foldlM (addSeed convert) (addresses, some (first.addr.tls, first.redis)) = .ok seeds ↔
      ∃ infos : List (ConnectionInfo κ), urls.map convert = infos.map .ok ∧
        (∀ info ∈ infos, info.addr.Supported ∧ SameSettings info first) ∧
        seeds = (addresses ++ infos.map fun info => info.addr.node,
          some (first.addr.tls, first.redis)) := by
  induction urls generalizing addresses with
  | nil =>
      constructor
      · intro h
        exact ⟨[], rfl, by simp, by simpa using (Except.ok.inj h).symm⟩
      · rintro ⟨infos, hinfos, -, rfl⟩
        obtain rfl : infos = [] := by simpa using hinfos.symm
        simp [pure, Except.pure]
  | cons url urls ih =>
      rw [List.foldlM_cons, bind_eq_ok_iff]
      constructor
      · rintro ⟨mid, hmid, hrest⟩
        obtain ⟨info, hinfo, hsupported, hsame, rfl⟩ :=
          (addSeed_some_ok_iff addresses first url mid).mp hmid
        obtain ⟨infos, hinfos, hall, rfl⟩ := (ih _).mp hrest
        refine ⟨info :: infos, ?_, ?_, ?_⟩
        · rw [List.map_cons, List.map_cons, hinfo, hinfos]
        · rw [List.forall_mem_cons]
          exact ⟨⟨hsupported, hsame⟩, hall⟩
        · simp
      · rintro ⟨infos, hinfos, hall, rfl⟩
        cases infos with
        | nil => simp at hinfos
        | cons info infos =>
            rw [List.map_cons, List.map_cons, List.cons.injEq] at hinfos
            rw [List.forall_mem_cons] at hall
            refine ⟨_, (addSeed_some_ok_iff addresses first url _).mpr
              ⟨info, hinfos.1, hall.1.1, hall.1.2, rfl⟩, (ih _).mpr ?_⟩
            exact ⟨infos, hinfos.2, hall.2, by simp⟩

/-! ## Accepted seed lists -/

/-- The seed lists from which a cluster configuration can be built. -/
structure Accepted (infos : List (ConnectionInfo κ)) : Prop where
  nonempty : infos ≠ []
  supported : ∀ info ∈ infos, info.addr.Supported
  same : ∀ a ∈ infos, ∀ b ∈ infos, SameSettings a b
  database : ∀ info ∈ infos, info.redis.db = 0

/-- Agreement of all with the first one is agreement of all pairs. -/
theorem accepted_cons_iff (first : ConnectionInfo κ) (infos : List (ConnectionInfo κ)) :
    Accepted (first :: infos) ↔ first.addr.Supported ∧
      (∀ info ∈ infos, info.addr.Supported ∧ SameSettings info first) ∧ first.redis.db = 0 := by
  have hrefl : SameSettings first first := ⟨⟨rfl, rfl, rfl, rfl⟩, rfl⟩
  constructor
  · intro h
    refine ⟨h.supported first List.mem_cons_self, ?_, h.database first List.mem_cons_self⟩
    intro info hinfo
    have hmem : info ∈ first :: infos := List.mem_cons_of_mem first hinfo
    exact ⟨h.supported info hmem, h.same info hmem first List.mem_cons_self⟩
  · rintro ⟨hsupported, hall, hdb⟩
    have hsame : ∀ info ∈ first :: infos, SameSettings info first := by
      rw [List.forall_mem_cons]
      exact ⟨hrefl, fun info hinfo => (hall info hinfo).2⟩
    constructor
    · exact List.cons_ne_nil first infos
    · rw [List.forall_mem_cons]
      exact ⟨hsupported, fun info hinfo => (hall info hinfo).1⟩
    · intro a ha b hb
      exact (hsame a ha).trans (hsame b hb).symm
    · intro info hinfo
      rw [(hsame info hinfo).1.2.2.2, hdb]

/-- The credentials that a description names, if it names a user or a password;
it never asks for IAM. -/
def RedisConnectionInfo.namedCredentials (redis : RedisConnectionInfo) :
    Option ServerCredentials :=
  match redis.username, redis.password with
  | none, none => none
  | some username, none =>
      some { username := some username, password := none, iamConfig := none }
  | none, some password =>
      some { username := none, password := some password, iamConfig := none }
  | some username, some password =>
      some { username := some username, password := some password, iamConfig := none }

/-- The protocol that a description names. -/
def RedisConnectionInfo.namedProtocol (redis : RedisConnectionInfo) : ProtocolVersion :=
  match redis.protocol with
  | .RESP2 => .RESP2
  | .RESP3 => .RESP3

theorem credentialsFromInfo_eq (redis : RedisConnectionInfo) :
    credentialsFromInfo redis.username redis.password = redis.namedCredentials := by
  obtain ⟨db, username, password, protocol, name⟩ := redis
  cases username <;> cases password <;> rfl

theorem namedCredentials_congr {a b : RedisConnectionInfo} (husername : a.username = b.username)
    (hpassword : a.password = b.password) : a.namedCredentials = b.namedCredentials := by
  rw [RedisConnectionInfo.namedCredentials, husername, hpassword,
    RedisConnectionInfo.namedCredentials]

theorem fromRedisProtocol_eq (redis : RedisConnectionInfo) :
    fromRedisProtocol redis.protocol = redis.namedProtocol := by
  obtain ⟨db, username, password, protocol, name⟩ := redis
  cases protocol <;> rfl

theorem CommonConfig.withInfo_eq (cfg : CommonConfig) (redis : RedisConnectionInfo) :
    cfg.withInfo redis = { cfg with
      protocol := redis.namedProtocol
      clientName := redis.clientName
      credentials := redis.namedCredentials } := by
  rw [withInfo, credentialsFromInfo_eq, fromRedisProtocol_eq]

/-- The configuration built from an accepted seed list: its addresses, the
settings of its first description, and all other fields as in `new`. -/
def seedConfig (first : ConnectionInfo κ) (infos : List (ConnectionInfo κ)) :
    GlideClusterClientConfiguration :=
  let cfg := GlideClusterClientConfiguration.new (infos.map fun info => info.addr.node)
  { cfg with
    common := { cfg.common with
      tls := first.addr.tls
      protocol := first.redis.namedProtocol
      clientName := first.redis.clientName
      credentials := first.redis.namedCredentials } }

@[simp] theorem seedConfig_addresses (first : ConnectionInfo κ) (infos : List (ConnectionInfo κ)) :
    (seedConfig first infos).common.addresses = infos.map fun info => info.addr.node := rfl

/-- `from_urls` succeeds on the accepted seed lists and on no others. -/
theorem fromUrls_ok_iff (urls : List T) (cfg : GlideClusterClientConfiguration) :
    GlideClusterClientConfiguration.fromUrls convert urls = .ok cfg ↔
      ∃ (first : ConnectionInfo κ) (infos : List (ConnectionInfo κ)),
        urls.map convert = (first :: infos).map .ok ∧ Accepted (first :: infos) ∧
          cfg = seedConfig first (first :: infos) := by
  simp only [GlideClusterClientConfiguration.fromUrls, bind_eq_ok_iff]
  cases urls with
  | nil =>
      constructor
      · rintro ⟨seeds, hseeds, hcfg⟩
        cases hseeds
        cases hcfg
      · rintro ⟨first, infos, hinfos, -⟩
        simp at hinfos
  | cons url urls =>
      simp only [List.foldlM_cons, bind_eq_ok_iff, addSeed_none_ok_iff]
      constructor
      · rintro ⟨seeds, ⟨mid, ⟨first, hfirst, hsupported, rfl⟩, hrest⟩, hcfg⟩
        obtain ⟨infos, hinfos, hall, rfl⟩ := (foldlM_addSeed_ok_iff urls _ first seeds).mp hrest
        simp only [ne_eq, ite_not] at hcfg
        split_ifs at hcfg with hdb
        refine ⟨first, infos, ?_, ?_, ?_⟩
        · rw [List.map_cons, List.map_cons, hfirst, hinfos]
        · exact (accepted_cons_iff first infos).mpr ⟨hsupported, hall, hdb⟩
        · rw [← Except.ok.inj hcfg, CommonConfig.withInfo_eq]
          rfl
      · rintro ⟨first, infos, hinfos, haccepted, rfl⟩
        rw [List.map_cons, List.map_cons, List.cons.injEq] at hinfos
        obtain ⟨hsupported, hall, hdb⟩ := (accepted_cons_iff first infos).mp haccepted
        refine ⟨_, ⟨_, ⟨first, hinfos.1, hsupported, rfl⟩,
          (foldlM_addSeed_ok_iff urls _ first _).mpr ⟨infos, hinfos.2, hall, rfl⟩⟩, ?_⟩
        simp only [hdb, ne_eq, not_true_eq_false, if_false]
        rw [CommonConfig.withInfo_eq]
        rfl

theorem fromUrls_isOk_iff (urls : List T) :
    (∃ cfg, GlideClusterClientConfiguration.fromUrls convert urls = .ok cfg) ↔
      ∃ infos : List (ConnectionInfo κ), urls.map convert = infos.map .ok ∧ Accepted infos := by
  constructor
  · rintro ⟨cfg, hcfg⟩
    obtain ⟨first, infos, hmap, haccepted, -⟩ := (fromUrls_ok_iff urls cfg).mp hcfg
    exact ⟨first :: infos, hmap, haccepted⟩
  · rintro ⟨infos, hmap, haccepted⟩
    cases infos with
    | nil => exact absurd rfl haccepted.nonempty
    | cons first infos =>
        exact ⟨_, (fromUrls_ok_iff urls _).mpr ⟨first, infos, hmap, haccepted, rfl⟩⟩

/-- The settings are those of the first description, and of all others too. -/
theorem fromUrls_settings {urls : List T} {infos : List (ConnectionInfo κ)}
    {cfg : GlideClusterClientConfiguration} (hmap : urls.map convert = infos.map .ok)
    (hcfg : GlideClusterClientConfiguration.fromUrls convert urls = .ok cfg) :
    (∃ first, infos.head? = some first ∧ cfg = seedConfig first infos) ∧
      ∀ info ∈ infos, cfg.common.tls = info.addr.tls ∧
        cfg.common.clientName = info.redis.clientName ∧
        cfg.common.credentials = info.redis.namedCredentials := by
  obtain ⟨first, infos', hmap', haccepted, rfl⟩ := (fromUrls_ok_iff urls cfg).mp hcfg
  have hok : Function.Injective (Except.ok : ConnectionInfo κ → RedisResult (ConnectionInfo κ)) :=
    fun _ _ h => Except.ok.inj h
  obtain rfl : infos = first :: infos' :=
    List.map_injective_iff.mpr hok (hmap.symm.trans hmap')
  refine ⟨⟨first, rfl, rfl⟩, ?_⟩
  intro info hinfo
  obtain ⟨⟨hpassword, husername, hname, -⟩, htls⟩ :=
    haccepted.same first List.mem_cons_self info hinfo
  exact ⟨htls, hname, namedCredentials_congr husername hpassword⟩

/-! ## Reordered seeds and single seeds -/

theorem Accepted.perm {infos infos' : List (ConnectionInfo κ)} (h : Accepted infos)
    (hperm : infos'.Perm infos) : Accepted infos' where
  nonempty := by
    rintro rfl
    exact h.nonempty hperm.symm.eq_nil
  supported := fun info hinfo => h.supported info (hperm.mem_iff.mp hinfo)
  same := fun a ha b hb => h.same a (hperm.mem_iff.mp ha) b (hperm.mem_iff.mp hb)
  database := fun info hinfo => h.database info (hperm.mem_iff.mp hinfo)

/-- Reordered descriptions convert to reordered infos. -/
theorem map_convert_perm {urls urls' : List T} (hperm : urls.Perm urls')
    {infos : List (ConnectionInfo κ)} (h : urls.map convert = infos.map .ok) :
    ∃ infos' : List (ConnectionInfo κ), infos'.Perm infos ∧
      urls'.map convert = infos'.map .ok := by
  induction hperm generalizing infos with
  | nil => exact ⟨infos, .refl infos, h⟩
  | cons url _ ih =>
      cases infos with
      | nil => simp at h
      | cons info infos =>
          rw [List.map_cons, List.map_cons, List.cons.injEq] at h
          obtain ⟨infos', hinfos', hmap⟩ := ih h.2
          exact ⟨info :: infos', hinfos'.cons info, by rw [List.map_cons, List.map_cons, h.1, hmap]⟩
  | swap url url' urls =>
      match infos with
      | [] => simp at h
      | [_] => simp at h
      | info :: info' :: infos =>
          simp only [List.map_cons, List.cons.injEq] at h
          refine ⟨info' :: info :: infos, .swap info info' infos, ?_⟩
          simp only [List.map_cons, h.1, h.2.1, h.2.2]
  | trans _ _ ih ih' =>
      obtain ⟨mid, hmid, hmap⟩ := ih h
      obtain ⟨infos', hinfos', hmap'⟩ := ih' hmap
      exact ⟨infos', hinfos'.trans hmid, hmap'⟩

theorem fromUrls_perm {urls urls' : List T} (hperm : urls.Perm urls')
    {cfg : GlideClusterClientConfiguration}
    (h : GlideClusterClientConfiguration.fromUrls convert urls = .ok cfg) :
    ∃ cfg', GlideClusterClientConfiguration.fromUrls convert urls' = .ok cfg' ∧
      cfg'.common.addresses.Perm cfg.common.addresses ∧
      cfg' = { cfg with
        common := { cfg.common with
          addresses := cfg'.common.addresses
          protocol := cfg'.common.protocol } } := by
  obtain ⟨first, infos, hmap, haccepted, rfl⟩ := (fromUrls_ok_iff urls cfg).mp h
  obtain ⟨infos', hinfos', hmap'⟩ := map_convert_perm hperm hmap
  have haccepted' : Accepted infos' := haccepted.perm hinfos'
  cases infos' with
  | nil => exact absurd rfl haccepted'.nonempty
  | cons first' infos' =>
      refine ⟨_, (fromUrls_ok_iff urls' _).mpr ⟨first', infos', hmap', haccepted', rfl⟩, ?_, ?_⟩
      · rw [seedConfig_addresses, seedConfig_addresses]
        exact hinfos'.map _
      -- the new first description agrees with the old one on what it decides
      · obtain ⟨⟨hpassword, husername, hname, -⟩, htls⟩ : SameSettings first' first :=
          haccepted.same first' (hinfos'.mem_iff.mp List.mem_cons_self) first List.mem_cons_self
        have hcredentials := namedCredentials_congr husername hpassword
        simp only [seedConfig, GlideClusterClientConfiguration.new, CommonConfig.new, hcredentials,
          hname, htls]

/-- A single description of database 0 gives the same shared fields, or the same
error, to both configurations. -/
theorem fromUrls_singleton (url : T) (hdb : ∀ info, convert url = .ok info → info.redis.db = 0) :
    (GlideClusterClientConfiguration.fromUrls convert [url]).map (·.common) =
      (GlideClientConfiguration.fromConnectionInfo convert url).map (·.common) := by
  simp only [GlideClusterClientConfiguration.fromUrls, GlideClientConfiguration.fromConnectionInfo,
    List.foldlM_cons, List.foldlM_nil, addSeed, intoConnectionInfo]
  cases hconvert : convert url with
  | error err => rfl
  | ok info =>
      have hzero := hdb info hconvert
      cases hsplit : splitConnectionAddr info.addr with
      | error err =>
          simp only [bind, Except.bind, hsplit]
          rfl
      | ok split =>
          simp only [bind, Except.bind, hsplit, hzero, pure, Except.pure, ne_eq, not_true_eq_false,
            if_false]
          rfl

/-- `from_urls` accepts exactly the seed lists whose descriptions convert, have
supported addresses, agree on their settings and select database 0. The order
of the seeds shows only in the order of the addresses and in the protocol, and a
single seed is read as a standalone configuration is. -/
theorem from_urls_accepts_exactly (convert : T → RedisResult (ConnectionInfo κ)) :
    (∀ urls : List T, (∃ cfg, GlideClusterClientConfiguration.fromUrls convert urls = .ok cfg) ↔
      ∃ infos : List (ConnectionInfo κ), urls.map convert = infos.map .ok ∧ Accepted infos) ∧
    (∀ (urls : List T) (infos : List (ConnectionInfo κ)) (cfg : GlideClusterClientConfiguration),
      urls.map convert = infos.map .ok →
      GlideClusterClientConfiguration.fromUrls convert urls = .ok cfg →
      (∃ first, infos.head? = some first ∧ cfg = seedConfig first infos) ∧
      ∀ info ∈ infos, cfg.common.tls = info.addr.tls ∧
        cfg.common.clientName = info.redis.clientName ∧
        cfg.common.credentials = info.redis.namedCredentials) ∧
    (∀ urls urls' : List T, urls.Perm urls' →
      ((∃ cfg, GlideClusterClientConfiguration.fromUrls convert urls = .ok cfg) ↔
        ∃ cfg, GlideClusterClientConfiguration.fromUrls convert urls' = .ok cfg) ∧
      ∀ cfg cfg', GlideClusterClientConfiguration.fromUrls convert urls = .ok cfg →
        GlideClusterClientConfiguration.fromUrls convert urls' = .ok cfg' →
        cfg'.common.addresses.Perm cfg.common.addresses ∧
        cfg' = { cfg with
          common := { cfg.common with
            addresses := cfg'.common.addresses
            protocol := cfg'.common.protocol } }) ∧
    (∀ url : T, (∀ info, convert url = .ok info → info.redis.db = 0) →
      (GlideClusterClientConfiguration.fromUrls convert [url]).map (·.common) =
        (GlideClientConfiguration.fromConnectionInfo convert url).map (·.common)) := by
  refine ⟨fromUrls_isOk_iff, fun _ _ _ => fromUrls_settings, ?_, fromUrls_singleton⟩
  · intro urls urls' hperm
    constructor
    · constructor
      · rintro ⟨cfg, hcfg⟩
        obtain ⟨cfg', hcfg', -⟩ := fromUrls_perm hperm hcfg
        exact ⟨cfg', hcfg'⟩
      · rintro ⟨cfg, hcfg⟩
        obtain ⟨cfg', hcfg', -⟩ := fromUrls_perm hperm.symm hcfg
        exact ⟨cfg', hcfg'⟩
    · intro cfg cfg' hcfg hcfg'
      obtain ⟨other, hother, hchange⟩ := fromUrls_perm hperm hcfg
      rw [hcfg'] at hother
      cases hother
      exact hchange

/-- A description of a plain TCP seed with user and password. -/
def plainSeed (host : String) (port : UInt16) (protocol : Core.ProtocolVersion) :
    ConnectionInfo Unit :=
  ⟨.tcp host port, ⟨0, some "user", some "password", protocol, none⟩⟩

/-- Two seeds that differ in address and protocol are accepted in both orders;
the credentials are the common ones and the protocol is that of the seed named
first. A seed with a password only gives credentials without a user. -/
theorem from_urls_accepts_exactly_two_seeds :
    (∃ cfg cfg', GlideClusterClientConfiguration.fromUrls .ok
        [plainSeed "n1" 7000 .RESP3, plainSeed "n2" 7001 .RESP2] = .ok cfg ∧
      GlideClusterClientConfiguration.fromUrls .ok
        [plainSeed "n2" 7001 .RESP2, plainSeed "n1" 7000 .RESP3] = .ok cfg' ∧
      cfg.common.credentials = some ⟨some "user", some "password", none⟩ ∧
      cfg'.common.credentials = some ⟨some "user", some "password", none⟩ ∧
      cfg.common.protocol = .RESP3 ∧ cfg'.common.protocol = .RESP2 ∧
      cfg'.common.addresses.Perm cfg.common.addresses) ∧
    ∃ cfg, GlideClusterClientConfiguration.fromUrls (κ := Unit) .ok
        [⟨.tcpTls "n1" 7000 true none, ⟨0, none, some "password", .RESP2, some "me"⟩⟩] = .ok cfg ∧
      cfg.common.credentials = some ⟨none, some "password", none⟩ ∧
      cfg.common.tls = .insecureTls ∧ cfg.common.clientName = some "me" ∧
      cfg.common.protocol = .RESP2 := by
  obtain ⟨-, hsettings, hperms, -⟩ := from_urls_accepts_exactly (κ := Unit) .ok
  constructor
  · refine ⟨_, _, rfl, rfl, ?_, ?_, rfl, rfl, ?_⟩
    · exact ((hsettings [plainSeed "n1" 7000 .RESP3, plainSeed "n2" 7001 .RESP2] _ _ rfl rfl).2 _
        List.mem_cons_self).2.2
    · exact ((hsettings [plainSeed "n2" 7001 .RESP2, plainSeed "n1" 7000 .RESP3] _ _ rfl rfl).2 _
        List.mem_cons_self).2.2
    · have hperm : [plainSeed "n1" 7000 .RESP3, plainSeed "n2" 7001 .RESP2].Perm
          [plainSeed "n2" 7001 .RESP2, plainSeed "n1" 7000 .RESP3] := .swap _ _ []
      exact ((hperms _ _ hperm).2 _ _ rfl rfl).1
  · refine ⟨_, rfl, ?_⟩
    obtain ⟨⟨first, hfirst, hcfg⟩, -⟩ := hsettings
      [⟨.tcpTls "n1" 7000 true none, ⟨0, none, some "password", .RESP2, some "me"⟩⟩] _ _ rfl rfl
    cases hfirst
    rw [hcfg]
    exact ⟨rfl, rfl, rfl, rfl⟩

end GlideRust.Config

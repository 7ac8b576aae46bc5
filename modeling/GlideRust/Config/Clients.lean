import GlideRust.Config.Common

/-!
# The standalone and the cluster configuration

Each adds one field and its setter to the shared ones and layers them on the
shared lowering in `to_request`.
-/

namespace GlideRust.Config

variable {ω : Type}

/-- A builder call: a shared setter, or the setter of the configuration's own field. -/
inductive Setter (μ : Type) where
  | common (call : CommonSetter)
  | own (value : μ)

/-- `GlideClientConfiguration`. -/
structure GlideClientConfiguration where
  common : CommonConfig
  databaseId : Int64

namespace GlideClientConfiguration

def new (addresses : List NodeAddress) : GlideClientConfiguration := ⟨.new addresses, 0⟩

def withAddress (host : String) (port : UInt16) : GlideClientConfiguration := new [⟨host, port⟩]

/-- The setters; its own one is `database_id`. -/
def apply (cfg : GlideClientConfiguration) : Setter Int64 → GlideClientConfiguration
  | .common call => { cfg with common := cfg.common.apply call }
  | .own db => { cfg with databaseId := db }

/-- A configuration built by any builder calls. -/
def build (addresses : List NodeAddress) (calls : List (Setter Int64)) :
    GlideClientConfiguration :=
  calls.foldl apply (new addresses)

/-- `GlideClientConfiguration::to_request`. -/
def toRequest (core : ConnectionRequest ω) (cfg : GlideClientConfiguration) :
    ConnectionRequest ω :=
  { cfg.common.commonRequest core with
    clusterModeEnabled := false
    databaseId := cfg.databaseId }

end GlideClientConfiguration

/-- `GlideClusterClientConfiguration`. -/
structure GlideClusterClientConfiguration where
  common : CommonConfig
  periodicChecks : PeriodicChecks

namespace GlideClusterClientConfiguration

def new (addresses : List NodeAddress) : GlideClusterClientConfiguration :=
  ⟨.new addresses, .enabled⟩

def withAddress (host : String) (port : UInt16) : GlideClusterClientConfiguration :=
  new [⟨host, port⟩]

/-- The setters; its own one is `periodic_checks`. -/
def apply (cfg : GlideClusterClientConfiguration) :
    Setter PeriodicChecks → GlideClusterClientConfiguration
  | .common call => { cfg with common := cfg.common.apply call }
  | .own checks => { cfg with periodicChecks := checks }

/-- A configuration built by any builder calls. -/
def build (addresses : List NodeAddress) (calls : List (Setter PeriodicChecks)) :
    GlideClusterClientConfiguration :=
  calls.foldl apply (new addresses)

/-- `GlideClusterClientConfiguration::to_request`. -/
def toRequest (core : ConnectionRequest ω) (cfg : GlideClusterClientConfiguration) :
    ConnectionRequest ω :=
  { cfg.common.commonRequest core with
    clusterModeEnabled := true
    periodicChecks := some cfg.periodicChecks.toCore }

end GlideClusterClientConfiguration

end GlideRust.Config

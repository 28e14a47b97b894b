import TabShell.State
import TabShell.Observer
/-!
# Configuration

What a user may settle in a file; everything has a default.  A section that is missing has a default
of its own, which is not made of those of its entries.

* `Config`, `Config.default`   everything settled, and the way it is settled if nobody does it;
* `Telemetry`, `DeepLink`      the sections, with the default of each;
* `Settings`                   what somebody settled, the rest left open.
-/

namespace TabShell

/-- everything settled -/
structure Config where
  deployment : Deployment
  telemetryEnabled : Bool
  /-- the path under which page views are reported -/
  pagePath : String
  /-- the key of the fragment that holds the active plugin -/
  pluginKey : String
  /-- the plugin that a missing key stands for when it is written -/
  defaultValue : String
  reloadPeriod : UInt64
  deriving Repr, DecidableEq

/-- the section about telemetry -/
structure Telemetry where
  enabled : Bool
  pagePath : String
  deriving Repr, DecidableEq

/-- the section about the fragment -/
structure DeepLink where
  pluginKey : String
  defaultValue : String
  deriving Repr, DecidableEq

/-! ## defaults of entries -/

def defaultDeployment : Deployment := .prod

def defaultTelemetryEnabled : Bool := true

def defaultPagePath : String := "/"

def defaultPluginKey : String := "plugin"

/-! ## defaults of what has entries -/

def Telemetry.default : Telemetry := ⟨defaultTelemetryEnabled, defaultPagePath⟩

/-- the plugin that a missing key stands for has no default of its own but the empty one -/
def DeepLink.default : DeepLink := ⟨defaultPluginKey, ""⟩

/-- a configuration from its sections and what is in no section -/
def Config.ofSections (deployment : Deployment) (telemetry : Telemetry) (deepLink : DeepLink)
    (reloadPeriod : UInt64) : Config where
  deployment
  telemetryEnabled := telemetry.enabled
  pagePath := telemetry.pagePath
  pluginKey := deepLink.pluginKey
  defaultValue := deepLink.defaultValue
  reloadPeriod

/-- production, telemetry under `/`, the key `plugin`, no default plugin -/
def Config.default : Config :=
  .ofSections defaultDeployment Telemetry.default DeepLink.default defaultReloadPeriod

/-- what is settled; none leaves a thing open -/
structure Settings where
  deployment : Option Deployment
  telemetryEnabled : Option Bool
  pagePath : Option String
  pluginKey : Option String
  defaultValue : Option String
  reloadPeriod : Option UInt64
  deriving Repr, DecidableEq

end TabShell

import TabShell.Config.Document
import TabShell.Text.Decimal
/-!
# Writing settings

The document of some settings holds what is settled and nothing else: first the entries of no
section, then the sections that have entries, every entry on a line of its own.

* `Settings.document`   the text of the document, with the sections in either order.
-/

namespace TabShell

namespace Toml

/-- an entry on a line of its own -/
def entryLine (key : String) (value : List Char) : List Char :=
  key.toList ++ [' ', '=', ' '] ++ value ++ ['\n']

/-- the lines of the entries that have a value -/
def entryLines (es : List (String × Option (List Char))) : List Char :=
  es.flatMap fun e =>
    match e.2 with
    | some value => entryLine e.1 value
    | none => []

/-- a header and the entries below it, nothing if there are none -/
def sectionLines (name : String) (es : List (String × Option (List Char))) : List Char :=
  if es.all (·.2.isNone) then [] else '[' :: name.toList ++ [']', '\n'] ++ entryLines es

/-- a text as a basic string -/
def written (s : String) : List Char := '"' :: escape s.toList ++ ['"']

end Toml

open Toml

/-- the name that `Deployment.ofName?` reads -/
def Deployment.name : Deployment → String
  | prod => "prod"
  | dev => "dev"

namespace Settings

/-- the entries of no section -/
def rootEntries (s : Settings) : List (String × Option (List Char)) :=
  [("environment", s.deployment.map fun d => written d.name),
   ("reload_period_ms", s.reloadPeriod.map fun n => Text.decimal n.toNat)]

/-- the entries of the section `telemetry` -/
def telemetryEntries (s : Settings) : List (String × Option (List Char)) :=
  [("enabled", s.telemetryEnabled.map fun b => if b then ['t', 'r', 'u', 'e'] else
      ['f', 'a', 'l', 's', 'e']),
   ("page_path", s.pagePath.map written)]

/-- the entries of the section `deep_link` -/
def deepLinkEntries (s : Settings) : List (String × Option (List Char)) :=
  [("plugin_key", s.pluginKey.map written), ("default_value", s.defaultValue.map written)]

/-- the text of the document; `swapped` puts the section of the deep link first -/
def document (s : Settings) (swapped : Bool) : String :=
  let telemetry := sectionLines "telemetry" s.telemetryEntries
  let deepLink := sectionLines "deep_link" s.deepLinkEntries
  String.ofList (entryLines s.rootEntries ++
    if swapped then deepLink ++ telemetry else telemetry ++ deepLink)

end Settings

end TabShell

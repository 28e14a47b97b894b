import TabShell.Config.Basic
import TabShell.Toml.Reader
/-!
# Configuration from a document

A document settles what it names and leaves the rest at its default; names that mean nothing here
are passed over.  A section that is missing is the default section, and an entry that is missing in
a section that is there has the default of the entry.  A section may also be written as an array of
its values in order, where missing ones are defaults and there may be more than needed, and a date
in the place of a section settles nothing.

* `Toml.sectionFields?`   the named values of a section;
* `Toml.valueOr?`         a value, or its default if it is missing;
* `Telemetry.ofValue?`, `DeepLink.ofValue?`   the sections;
* `Config.ofMembers?`     the configuration of a document's members;
* `Config.parse?`         the configuration of a text.
-/

namespace TabShell

namespace Toml

mutual

/-- whether a value can be passed over: its numbers are there and in range, integers in that of 128
bits -/
def Value.isHarmless : Value → Bool
  | .integer (some n) => decide (-(Nat.pow 2 127 : Int) ≤ n) && decide (n < Nat.pow 2 128)
  | .integer none => false
  | .float inRange => inRange
  | .array _ items => itemsHarmless items
  | .table _ members => membersHarmless members
  | .text _ | .bool _ | .moment => true

/-- the same for the items of an array -/
def itemsHarmless : List Value → Bool
  | [] => true
  | v :: vs => v.isHarmless && itemsHarmless vs

/-- the same for the members of a table -/
def membersHarmless : List (String × Value) → Bool
  | [] => true
  | (_, v) :: ms => v.isHarmless && membersHarmless ms

end

/-- the values of named members; none if another member cannot be passed over -/
def memberFields? (names : List String) (ms : Members) : Option (List (Option Value)) :=
  if membersHarmless (ms.filter fun m => decide (m.1 ∉ names)) then
    some (names.map fun name => ms.lookup name)
  else none

/-- the values of a section that is there -/
def sectionFields? (names : List String) : Value → Option (List (Option Value))
  | .moment => some (names.map fun _ => none)
  | .table _ ms => memberFields? names ms
  | .array _ items => some ((List.range names.length).map fun i => items[i]?)
  | _ => none

/-- a value that may be missing, and then is the default, but may not be settled badly -/
def valueOr? {α : Type} (default : α) (read? : Value → Option α) : Option Value → Option α
  | none => some default
  | some v => read? v

/-- a boolean, and nothing that merely looks like one -/
def Value.bool? : Value → Option Bool
  | .bool b => some b
  | _ => none

/-- a string of any kind of quotation marks -/
def Value.text? : Value → Option String
  | .text s => some s
  | _ => none

/-- an integer of 64 bits without sign -/
def Value.word64? : Value → Option UInt64
  | .integer (some n) => if 0 ≤ n ∧ n < UInt64.size then some (UInt64.ofNat n.toNat) else none
  | _ => none

/-- an array or a table with nothing in it -/
def Value.isEmpty : Value → Bool
  | .array _ [] | .table _ [] => true
  | _ => false

end Toml

open Toml

/-- names are in lower case -/
def Deployment.ofName? (name : String) : Option Deployment :=
  if name = "prod" then some prod else if name = "dev" then some dev else none

/-- a name, or a table whose one member has that name and is empty -/
def Deployment.ofValue? : Value → Option Deployment
  | .text name => ofName? name
  | .table _ [(name, v)] => if v.isEmpty then ofName? name else none
  | _ => none

/-- the section about telemetry -/
def Telemetry.ofValue? (v : Value) : Option Telemetry := do
  match ← sectionFields? ["enabled", "page_path"] v with
  | [enabled, pagePath] => do
    let enabled ← valueOr? defaultTelemetryEnabled Value.bool? enabled
    let pagePath ← valueOr? defaultPagePath Value.text? pagePath
    pure ⟨enabled, pagePath⟩
  | _ => none

/-- the section about the fragment -/
def DeepLink.ofValue? (v : Value) : Option DeepLink := do
  match ← sectionFields? ["plugin_key", "default_value"] v with
  | [pluginKey, defaultValue] => do
    let pluginKey ← valueOr? defaultPluginKey Value.text? pluginKey
    let defaultValue ← valueOr? "" Value.text? defaultValue
    pure ⟨pluginKey, defaultValue⟩
  | _ => none

/-- the configuration of a document's members; none if they settle something badly -/
def Config.ofMembers? (ms : Members) : Option Config := do
  match ← memberFields? ["environment", "telemetry", "deep_link", "reload_period_ms"] ms with
  | [deployment, telemetry, deepLink, period] => do
    let deployment ← valueOr? defaultDeployment Deployment.ofValue? deployment
    let telemetry ← valueOr? Telemetry.default Telemetry.ofValue? telemetry
    let deepLink ← valueOr? DeepLink.default DeepLink.ofValue? deepLink
    let period ← valueOr? defaultReloadPeriod Value.word64? period
    pure (.ofSections deployment telemetry deepLink period)
  | _ => none

/-- the configuration of a text; none if it is no document or settles something badly -/
def Config.parse? (text : String) : Option Config :=
  (Toml.read? text.toList).bind Config.ofMembers?

end TabShell

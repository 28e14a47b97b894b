import TabShell.State
import TabShell.Json.Printer
import TabShell.Json.Reader
/-!
# The state as a JSON document

* `State.toJson`, `State.ofJson?`   between states and JSON values;
* `State.dump`, `State.load?`       between states and texts.

A record is read from an object or from an array.  In an object the order of the members is free,
members it does not know are passed over, none it knows may occur twice, and one that may be null
may be left out.  In an array every field has its place and there are no others.
-/

namespace TabShell

namespace Json

/-- the literal of a field's name -/
def key (s : String) : List Char := escape s.toList

/-- a value that may be missing, null if it is -/
def ofOption (v : Option Json) : Json := v.getD null

/-- the values of named fields, none for one that an object leaves out -/
def fields? (names : List String) : Json → Option (List (Option Json))
  | array items => if items.length = names.length then some (items.map some) else none
  | object members => do
    let members ← members.mapM fun m => (unescape m.1).map fun k => (String.ofList k, m.2)
    names.mapM fun name =>
      match members.filter fun m => m.1 = name with
      | [] => some none
      | [m] => some (some m.2)
      | _ => none
  | _ => none

/-- a value that may be null or left out -/
def optional? {α : Type} (read? : Json → Option α) : Option Json → Option (Option α)
  | none | some null => some none
  | some v => (read? v).map some

/-- a boolean -/
def bool? : Json → Option Bool
  | bool b => some b
  | _ => none

/-- an array of texts -/
def texts? : Json → Option (List String)
  | array items => items.mapM text?
  | _ => none

/-- a number of 64 bits -/
def word64? (v : Json) : Option UInt64 :=
  v.nat?.bind fun n => if n < UInt64.size then some (UInt64.ofNat n) else none

end Json

open Json

/-- a listing by its name -/
def Listing.toJson : Listing → Json
  | notLoaded => ofText "NotLoaded"
  | loading => ofText "Loading"
  | loaded => ofText "Loaded"
  | failed => ofText "Failed"

/-- the listing of a name -/
def Listing.ofName? (name : String) : Option Listing :=
  if name = "NotLoaded" then some notLoaded
  else if name = "Loading" then some loading
  else if name = "Loaded" then some loaded
  else if name = "Failed" then some failed
  else none

/-- a name, or an object whose one member has that name and is null -/
def Listing.ofJson? : Json → Option Listing
  | .string l => (unescape l).bind fun name => ofName? (String.ofList name)
  | .object [(k, .null)] => (unescape k).bind fun name => ofName? (String.ofList name)
  | _ => none

/-- the fields of a core in order -/
def Core.toJson (c : Core) : Json :=
  .object
    [(key "active_plugin", ofOption (c.chosen.map ofText)),
     (key "plugins", .array (c.plugins.map ofText)),
     (key "plugins_list_loaded", c.listing.toJson),
     (key "core_loaded", .bool c.loaded),
     (key "reload_enabled", .bool c.reloadEnabled),
     (key "reload_period_ms", ofNat c.reloadPeriod.toNat)]

/-- a core from its fields, of which only the chosen plugin may be left out -/
def Core.ofJson? (v : Json) : Option Core := do
  let fields ← fields? ["active_plugin", "plugins", "plugins_list_loaded", "core_loaded",
    "reload_enabled", "reload_period_ms"] v
  match fields with
  | [chosen, some plugins, some listing, some loaded, some enabled, some period] => do
    let chosen ← optional? text? chosen
    let plugins ← texts? plugins
    let listing ← Listing.ofJson? listing
    let loaded ← bool? loaded
    let enabled ← bool? enabled
    let period ← word64? period
    pure ⟨chosen, plugins, listing, loaded, enabled, period⟩
  | _ => none

/-- a route, an object of one field -/
def routeToJson (path : String) : Json := .object [(key "path", ofText path)]

/-- a route from its field -/
def routeOfJson? (v : Json) : Option String := do
  match ← fields? ["path"] v with
  | [some path] => text? path
  | _ => none

/-- the part of the document that holds the route -/
def activeRouteOfJson? (v : Json) : Option (Option String) := do
  match ← fields? ["active_route"] v with
  | [route] => optional? routeOfJson? route
  | _ => none

/-- the core and the route -/
def State.toJson (s : State) : Json :=
  .object
    [(key "core", s.core.toJson),
     (key "route", .object [(key "active_route", ofOption (s.route.map routeToJson))])]

/-- a state from its two fields -/
def State.ofJson? (v : Json) : Option State := do
  match ← fields? ["core", "route"] v with
  | [some core, some route] => do
    let core ← Core.ofJson? core
    let route ← activeRouteOfJson? route
    pure ⟨core, route⟩
  | _ => none

/-- the document of a state -/
def State.dump (s : State) : String := String.ofList (render 0 s.toJson)

/-- the state of a document -/
def State.load? (text : String) : Option State := (read? text.toList).bind State.ofJson?

end TabShell

import TabShell.Proofs.Toml.Members
/-!
# Settings that are written and read

The document of some settings is read as the configuration in which what is settled is as it was
settled, and all else at its default.  The sections may come in either order; one in which nothing
is settled is left out, and its defaults are the same as those of a section that is there.

* `Settings.rootFields`, `telemetryFields`, `deepLinkFields`   the values of the entries;
* `says_document`      the document is read as the statements of these;
* `read?_document`     its members;
* `telemetry`, `deepLink`   what the sections settle, with the rest at its default;
* `ofMembers?_fields`  the members settle what was settled, in sections that are missing, too;
* `parse?_document`    all together.
-/

namespace TabShell

open Toml

namespace Settings

variable (s : Settings) (swapped : Bool)

/-! ## values -/

/-- the values of the entries of no section -/
def rootFields : List (String × Option Value) :=
  [("environment", s.deployment.map fun d => .text d.name),
   ("reload_period_ms", s.reloadPeriod.map fun n => .integer (some n.toNat))]

/-- the values of the entries of the section `telemetry` -/
def telemetryFields : List (String × Option Value) :=
  [("enabled", s.telemetryEnabled.map .bool), ("page_path", s.pagePath.map .text)]

/-- the values of the entries of the section `deep_link` -/
def deepLinkFields : List (String × Option Value) :=
  [("plugin_key", s.pluginKey.map .text), ("default_value", s.defaultValue.map .text)]

/-- the members of both sections, in the order of the document -/
def tables : List (String × Members) :=
  let telemetry := ("telemetry", present s.telemetryFields)
  let deepLink := ("deep_link", present s.deepLinkFields)
  if swapped then [deepLink, telemetry] else [telemetry, deepLink]

/-- the values of the members of the document -/
def fields : List (String × Option Value) := s.rootFields ++ tablesOf (s.tables swapped)

/-! ## reading the text -/

theorem reads_rootEntries : List.Forall₂ EntryReads s.rootEntries s.rootFields := by
  refine .cons (.map (by decide) (fun d => ?_) s.deployment) <|
    .cons (.map (by decide) (fun n => ?_) s.reloadPeriod) .nil
  · exact reads_written d.name
  · exact reads_decimal n.toNat

theorem reads_telemetryEntries : List.Forall₂ EntryReads s.telemetryEntries s.telemetryFields :=
  .cons (.map (by decide) reads_bool s.telemetryEnabled) <|
  .cons (.map (by decide) reads_written s.pagePath) .nil

theorem reads_deepLinkEntries : List.Forall₂ EntryReads s.deepLinkEntries s.deepLinkFields :=
  .cons (.map (by decide) reads_written s.pluginKey) <|
  .cons (.map (by decide) reads_written s.defaultValue) .nil

/-- the document is read as the entries of no section and then both sections -/
theorem says_document : Says (s.document swapped).toList
    (entries (present s.rootFields) ++ (s.tables swapped).flatMap sectionStatements) := by
  have hroot := says_entryLines s.reads_rootEntries
  have htelemetry : Says (sectionLines "telemetry" s.telemetryEntries)
      (sectionStatements ("telemetry", present s.telemetryFields)) :=
    says_sectionLines (by decide) s.reads_telemetryEntries
  have hdeepLink : Says (sectionLines "deep_link" s.deepLinkEntries)
      (sectionStatements ("deep_link", present s.deepLinkFields)) :=
    says_sectionLines (by decide) s.reads_deepLinkEntries
  rw [document, String.toList_ofList]
  refine hroot.append ?_
  cases swapped with
  | false => simpa [tables] using htelemetry.append hdeepLink
  | true => simpa [tables] using hdeepLink.append htelemetry

theorem nodup_telemetryFields : (s.telemetryFields.map Prod.fst).Nodup := by
  simp [telemetryFields]

theorem nodup_deepLinkFields : (s.deepLinkFields.map Prod.fst).Nodup := by
  simp [deepLinkFields]

theorem nodup_fields : ((s.fields swapped).map Prod.fst).Nodup := by
  cases swapped <;> simp [fields, rootFields, tablesOf, tables]

theorem nodup_tables : ∀ t ∈ s.tables swapped, (t.2.map Prod.fst).Nodup := by
  have htelemetry := s.nodup_telemetryFields.sublist (names_present _)
  have hdeepLink := s.nodup_deepLinkFields.sublist (names_present _)
  cases swapped <;> simp [tables, htelemetry, hdeepLink]

theorem read?_document :
    Toml.read? (s.document swapped).toList = some (present (s.fields swapped)) := by
  have hsays := s.says_document swapped
  have hmark : dropByteOrderMark (s.document swapped).toList = (s.document swapped).toList := by
    unfold dropByteOrderMark
    split
    · next heq =>
      have hstarts := hsays.starts '\uFEFF' (by rw [heq]; rfl)
      exact absurd rfl (hstarts.ne (d := '\uFEFF') (by decide) (by decide))
    · rfl
  have hnames : ((present s.rootFields).map Prod.fst ++
      (s.tables swapped).map Prod.fst).Nodup := by
    have hfields := s.nodup_fields swapped
    rw [fields, List.map_append, tablesOf, List.map_map] at hfields
    exact hfields.sublist ((names_present _).append_right _)
  rw [Toml.read?, hmark, hsays.statements?_eq, Option.bind_some,
    build?_plain hnames (s.nodup_tables swapped), fields, present_append]

/-! ## what the members settle -/

/-- what was settled is read back, and what was left open is at its default -/
theorem valueOr?_map {α : Type} {read? : Value → Option α} {value : α → Value}
    (h : ∀ a, read? (value a) = some a) (default : α) (o : Option α) :
    valueOr? default read? (o.map value) = some (o.getD default) := by
  cases o with
  | none => rfl
  | some a => exact h a

theorem ofValue?_name (d : Deployment) : Deployment.ofValue? (.text d.name) = some d := by
  cases d <;> rfl

theorem bool?_bool (b : Bool) : Value.bool? (.bool b) = some b := rfl

theorem text?_text (t : String) : Value.text? (.text t) = some t := rfl

theorem word64?_toNat (n : UInt64) : Value.word64? (.integer (some n.toNat)) = some n := by
  have hsize : n.toNat < UInt64.size := n.toNat_lt_size
  rw [Value.word64?, if_pos ⟨by omega, by omega⟩, Int.toNat_natCast, UInt64.ofNat_toNat]

/-- what the section about telemetry settles, with the rest at its default -/
def telemetry : Telemetry := ⟨s.telemetryEnabled.getD true, s.pagePath.getD "/"⟩

/-- what the section about the fragment settles, with the rest at its default -/
def deepLink : DeepLink := ⟨s.pluginKey.getD "plugin", s.defaultValue.getD ""⟩

theorem telemetry_of_missing (h : present s.telemetryFields = []) :
    Telemetry.default = s.telemetry := by
  have hnone : s.telemetryEnabled = none ∧ s.pagePath = none := by
    simpa [present, telemetryFields] using h
  unfold telemetry
  rw [hnone.1, hnone.2]
  rfl

theorem deepLink_of_missing (h : present s.deepLinkFields = []) :
    DeepLink.default = s.deepLink := by
  have hnone : s.pluginKey = none ∧ s.defaultValue = none := by
    simpa [present, deepLinkFields] using h
  unfold deepLink
  rw [hnone.1, hnone.2]
  rfl

theorem ofValue?_telemetryFields :
    Telemetry.ofValue? (.table .defined (present s.telemetryFields)) = some s.telemetry := by
  have hfields : sectionFields? ["enabled", "page_path"]
      (.table .defined (present s.telemetryFields)) =
        some [s.telemetryEnabled.map .bool, s.pagePath.map .text] :=
    memberFields?_present s.nodup_telemetryFields (by simp [telemetryFields])
  have henabled := valueOr?_map bool?_bool defaultTelemetryEnabled s.telemetryEnabled
  have hpagePath := valueOr?_map text?_text defaultPagePath s.pagePath
  simp only [Telemetry.ofValue?, hfields, henabled, hpagePath, Option.bind_eq_bind,
    Option.bind_some]
  rfl

theorem ofValue?_deepLinkFields :
    DeepLink.ofValue? (.table .defined (present s.deepLinkFields)) = some s.deepLink := by
  have hfields : sectionFields? ["plugin_key", "default_value"]
      (.table .defined (present s.deepLinkFields)) =
        some [s.pluginKey.map .text, s.defaultValue.map .text] :=
    memberFields?_present s.nodup_deepLinkFields (by simp [deepLinkFields])
  have hpluginKey := valueOr?_map text?_text defaultPluginKey s.pluginKey
  have hdefaultValue := valueOr?_map text?_text "" s.defaultValue
  simp only [DeepLink.ofValue?, hfields, hpluginKey, hdefaultValue, Option.bind_eq_bind,
    Option.bind_some]
  rfl

/-- the members of the document settle what was settled, in sections that are missing, too -/
theorem ofMembers?_fields :
    Config.ofMembers? (present (s.fields swapped)) =
      some (.ofSections (s.deployment.getD .prod) s.telemetry s.deepLink
        (s.reloadPeriod.getD 30000)) := by
  have hroot : memberFields? ["environment", "telemetry", "deep_link", "reload_period_ms"]
      (present (s.fields swapped)) = some [
        s.deployment.map fun d => .text d.name,
        tableOf (present s.telemetryFields),
        tableOf (present s.deepLinkFields),
        s.reloadPeriod.map fun n => .integer (some n.toNat)] := by
    rw [memberFields?_present (s.nodup_fields swapped) ?_]
    · cases swapped <;> rfl
    · cases swapped <;> simp [fields, rootFields, tablesOf, tables]
  have hdeployment := valueOr?_map ofValue?_name defaultDeployment s.deployment
  have htelemetry : valueOr? Telemetry.default Telemetry.ofValue?
      (tableOf (present s.telemetryFields)) = some s.telemetry :=
    valueOr?_tableOf s.telemetry_of_missing s.ofValue?_telemetryFields
  have hdeepLink : valueOr? DeepLink.default DeepLink.ofValue?
      (tableOf (present s.deepLinkFields)) = some s.deepLink :=
    valueOr?_tableOf s.deepLink_of_missing s.ofValue?_deepLinkFields
  have hperiod := valueOr?_map word64?_toNat defaultReloadPeriod s.reloadPeriod
  simp only [Config.ofMembers?, hroot, hdeployment, htelemetry, hdeepLink, hperiod,
    Option.bind_eq_bind, Option.bind_some]
  rfl

end Settings

/-- **Settings are read back from their document, whatever they settle.**  The document is read as a
configuration in which everything is as it was settled, and what was left open is at its default:
production, telemetry under `/`, the key `plugin`, no default plugin, half a minute.  It is so in a
section that is missing, in one in which something else is settled, and outside of sections. -/
theorem parse?_document (s : Settings) (swapped : Bool) :
    (∃ c, Config.parse? (s.document swapped) = some c ∧
      c.deployment = s.deployment.getD .prod ∧
      c.telemetryEnabled = s.telemetryEnabled.getD true ∧
      c.pagePath = s.pagePath.getD "/" ∧
      c.pluginKey = s.pluginKey.getD "plugin" ∧
      c.defaultValue = s.defaultValue.getD "" ∧
      c.reloadPeriod = s.reloadPeriod.getD 30000) ∧
    Config.default = ⟨.prod, true, "/", "plugin", "", 30000⟩ := by
  refine ⟨⟨.ofSections (s.deployment.getD .prod) s.telemetry s.deepLink
    (s.reloadPeriod.getD 30000), ?_, rfl, rfl, rfl, rfl, rfl, rfl⟩, rfl⟩
  rw [Config.parse?, s.read?_document, Option.bind_some, s.ofMembers?_fields]

example : Settings.document ⟨none, none, some "/exp", none, none, none⟩ false =
    "[telemetry]\npage_path = \"/exp\"\n" := by
  decide +kernel

example : Config.parse? "[telemetry]\npage_path = \"/exp\"\n" =
    some ⟨.prod, true, "/exp", "plugin", "", 30000⟩ := by
  decide +kernel

end TabShell

import TabShell.Config.Lookup
import TabShell.Proofs.Files.Making
/-!
# The search for a configuration

A configuration is looked for in three places at most, one after the other.  The first that is a
file that holds text ends the search, whatever the text is; what is in the places after it does not
matter, and is not even looked at.

* `Surroundings.Owns`         where the shell's own directories are, by the environment and the user
                              database;
* `Surroundings.candidates`   the places, each a path and the tree in which it is followed;
* `makeDir_eq_ok`             the third place counts if its directory is there in the end;
* `value_load`                the configuration is that of the first text, or the default;
* `load_candidates`           what this says of every place.
-/

namespace TabShell

open Text

namespace Surroundings

/-- where the shell's own directory is, if `setting` is what the environment has for its purpose and
`name` is that of the directory for the purpose in a home directory -/
inductive Owns (s : Surroundings) (setting : Option String) (name : String) : String → Prop
  /-- the setting is an absolute path -/
  | set {rest : String} (absolute : setting = some ("/" ++ rest)) :
      Owns s setting name (joinPath ("/" ++ rest) "tb-dashboard")
  /-- the setting is relative, empty or missing; the environment has a home directory -/
  | home {home : String} (unset : ∀ rest, setting ≠ some ("/" ++ rest)) (found : s.home = some home)
      (named : home ≠ "") : Owns s setting name (joinPath (joinPath home name) "tb-dashboard")
  /-- so is the setting, and the home directory is empty or missing; the user database has one -/
  | user {home : String} (unset : ∀ rest, setting ≠ some ("/" ++ rest))
      (missing : ∀ path, s.home = some path → path = "") (found : s.userHome = some home)
      (named : home ≠ "") : Owns s setting name (joinPath (joinPath home name) "tb-dashboard")

/-- where a configuration is looked for, in order: in which tree, and under which path -/
def candidates (s : Surroundings) : List (Tree × String) :=
  s.localPaths.map (s.tree, ·) ++
    match s.makeDir .config with
    | (.ok directory, tree) => [(tree, fileIn directory)]
    | (.error _, _) => []

/-- what a candidate holds, if it is a file that holds text -/
def textOf (s : Surroundings) (c : Tree × String) : Option String := c.1.readText? s.cwd c.2

variable {s s' : Surroundings}

/-! ## the directory for configurations -/

theorem absolute_parse_iff {path : String} :
    (Path.parse path).absolute = true ↔ ∃ rest, path = "/" ++ rest := by
  unfold Path.parse
  rw [decide_eq_true_eq, List.head?_eq_some_iff]
  constructor
  · rintro ⟨rest, hpath⟩
    exact ⟨String.ofList rest, String.toList_inj.mp (by simp [hpath])⟩
  · rintro ⟨rest, rfl⟩
    exact ⟨rest.toList, String.toList_append⟩

theorem relative_ne {path : String} (h : (Path.parse path).absolute = false) (rest : String) :
    some path ≠ some ("/" ++ rest) := by
  intro hpath
  rw [absolute_parse_iff.mpr ⟨rest, Option.some.inj hpath⟩] at h
  cases h

theorem setting?_eq_some_iff {purpose : Purpose} {path : String} :
    s.setting? purpose = some path ↔ ∃ rest, path = "/" ++ rest ∧ s.setting purpose = some path := by
  unfold setting?
  rw [Option.filter_eq_some_iff, absolute_parse_iff, and_comm]
  exact exists_and_right.symm

theorem setting?_eq_none_iff {purpose : Purpose} :
    s.setting? purpose = none ↔ ∀ rest, s.setting purpose ≠ some ("/" ++ rest) := by
  rw [Option.eq_none_iff_forall_ne_some]
  constructor
  · exact fun h rest hset => h _ (setting?_eq_some_iff.mpr ⟨rest, rfl, hset⟩)
  · intro h path hset
    obtain ⟨rest, rfl, hset⟩ := setting?_eq_some_iff.mp hset
    exact h rest hset

theorem homeDir?_eq_some_iff {home : String} :
    s.homeDir? = some home ↔ home ≠ "" ∧
      (s.home = some home ∨ (∀ path, s.home = some path → path = "") ∧ s.userHome = some home) := by
  have hfilter : ∀ o : Option String, o.filter (· ≠ "") = some home ↔ o = some home ∧ home ≠ "" := by
    intro o
    rw [Option.filter_eq_some_iff, decide_eq_true_eq]
  unfold homeDir?
  cases hset : s.home.filter (· ≠ "") with
  | some path =>
    have hpath := Option.filter_eq_some_iff.mp hset
    rw [decide_eq_true_eq] at hpath
    rw [Option.orElse_eq_orElse, Option.orElse_some, Option.some.injEq, hpath.1, Option.some.injEq]
    refine ⟨fun h => ⟨h ▸ hpath.2, .inl h⟩, fun h => ?_⟩
    exact h.2.resolve_right fun hmissing => hpath.2 (hmissing.1 path rfl)
  | none =>
    have hmissing : ∀ path, s.home = some path → path = "" := by
      intro path hpath
      rw [hpath, Option.filter_eq_none_iff] at hset
      simpa using hset path rfl
    rw [Option.orElse_eq_orElse, Option.orElse_none, hfilter]
    refine ⟨fun h => ⟨h.2, .inr ⟨hmissing, h.1⟩⟩, fun h => ⟨?_, h.1⟩⟩
    exact (h.2.resolve_left fun hhome => h.1 (hmissing home hhome)).2

theorem ownDir?_eq_some_iff {purpose : Purpose} {directory : String} :
    s.ownDir? purpose = some directory ↔
      s.Owns (s.setting purpose) (underHome purpose) directory := by
  unfold ownDir? baseDir?
  cases hset : s.setting? purpose with
  | some base =>
    obtain ⟨rest, rfl, hsetting⟩ := setting?_eq_some_iff.mp hset
    rw [Option.orElse_eq_orElse, Option.orElse_some, Option.map_some, Option.some.injEq, hsetting]
    constructor
    · rintro rfl
      exact .set rfl
    · intro h
      cases h with
      | set absolute => rw [Option.some.inj absolute]; rfl
      | home unset | user unset => exact absurd rfl (unset rest)
  | none =>
    have hunset := setting?_eq_none_iff.mp hset
    rw [Option.orElse_eq_orElse, Option.orElse_none, Option.map_map, Option.map_eq_some_iff]
    constructor
    · rintro ⟨home, hhome, rfl⟩
      obtain ⟨hnamed, hfound | ⟨hmissing, hfound⟩⟩ := homeDir?_eq_some_iff.mp hhome
      · exact .home hunset hfound hnamed
      · exact .user hunset hmissing hfound hnamed
    · intro h
      cases h with
      | set absolute => exact absurd absolute (hunset _)
      | home unset found named => exact ⟨_, homeDir?_eq_some_iff.mpr ⟨named, .inl found⟩, rfl⟩
      | user unset missing found named =>
        exact ⟨_, homeDir?_eq_some_iff.mpr ⟨named, .inr ⟨missing, found⟩⟩, rfl⟩

/-- the name of the shell's own directory comes last -/
theorem names_ownDir?_ne_nil {purpose : Purpose} {directory : String}
    (h : s.ownDir? purpose = some directory) : (Path.parse directory).names ≠ [] := by
  obtain ⟨base, -, rfl⟩ := Option.map_eq_some_iff.mp h
  rw [names_joinPath]
  exact List.append_ne_nil_of_right_ne_nil _ (by decide)

theorem makeDir_of_none {purpose : Purpose} (h : s.ownDir? purpose = none) :
    s.makeDir purpose = (.error (.undetermined purpose), s.tree) := by
  unfold makeDir
  rw [h]

/-- what is said of a directory that was to be made -/
def answer (purpose : Purpose) (directory : String) :
    Option Obstacle → Except LocationError String
  | none => .ok directory
  | some cause => .error (.notCreated purpose directory cause)

theorem makeDir_of_some {purpose : Purpose} {directory : String}
    (h : s.ownDir? purpose = some directory) :
    s.makeDir purpose =
      (answer purpose directory (s.tree.makeDirectories s.cwd directory).2,
        (s.tree.makeDirectories s.cwd directory).1) := by
  simp only [makeDir, h]
  rcases s.tree.makeDirectories s.cwd directory with ⟨tree, _ | cause⟩ <;> rfl

/-- the directory for a purpose is given if it has a name and is there in the end -/
theorem makeDir_eq_ok {purpose : Purpose} {directory : String} :
    (s.makeDir purpose).1 = .ok directory ↔
      s.ownDir? purpose = some directory ∧ (utf8 directory.toList).length ≤ pathLimit ∧
        (s.makeDir purpose).2.find s.cwd (Path.parse directory) = .ok .directory := by
  cases hown : s.ownDir? purpose with
  | none =>
    rw [makeDir_of_none hown]
    exact ⟨nofun, nofun⟩
  | some own =>
    rw [makeDir_of_some hown, Option.some.injEq]
    have hmade := @Tree.makeDirectories_eq_none s.tree s.cwd own (names_ownDir?_ne_nil hown)
    cases hfailed : (s.tree.makeDirectories s.cwd own).2 with
    | none =>
      show Except.ok own = .ok directory ↔ _
      rw [Except.ok.injEq]
      refine ⟨fun h => ?_, fun h => h.1⟩
      subst h
      exact ⟨rfl, hmade.mp hfailed⟩
    | some cause =>
      refine ⟨nofun, ?_⟩
      rintro ⟨rfl, h⟩
      exact nomatch (hmade.mpr h).symm.trans hfailed

/-! ## the candidates -/

theorem localPaths_of_none (h : s.home = none) : s.localPaths = [".tb-dashboard.toml"] := by
  unfold localPaths
  rw [h]
  rfl

theorem localPaths_of_some {home : String} (h : s.home = some home) :
    s.localPaths = [".tb-dashboard.toml", joinPath home ".tb-dashboard.toml"] := by
  unfold localPaths
  rw [h]
  rfl

theorem candidates_of_ok {directory : String} (h : (s.makeDir .config).1 = .ok directory) :
    s.candidates = s.localPaths.map (s.tree, ·) ++
      [((s.makeDir .config).2, joinPath directory "config.toml")] := by
  unfold candidates
  rcases hmade : s.makeDir .config with ⟨_ | made, tree⟩
  · rw [hmade] at h
    cases h
  · rw [hmade] at h
    cases h
    rfl

theorem candidates_of_error (h : ∀ directory, (s.makeDir .config).1 ≠ .ok directory) :
    s.candidates = s.localPaths.map (s.tree, ·) := by
  unfold candidates
  rcases hmade : s.makeDir .config with ⟨_ | made, tree⟩
  · exact List.append_nil _
  · exact absurd (congrArg Prod.fst hmade) (h made)

/-! ## the first text -/

theorem localConfig?_map (s : Surroundings) :
    s.localConfig?.map Prod.snd = (s.localPaths.map (s.tree, ·)).findSome? s.textOf := by
  unfold localConfig?
  rw [List.findSome?_map]
  induction s.localPaths with
  | nil => rfl
  | cons path paths ih =>
    rw [List.findSome?_cons, List.findSome?_cons]
    have hpath : (s.textOf ∘ fun path => (s.tree, path)) path = s.tree.readText? s.cwd path := rfl
    rw [hpath]
    cases s.tree.readText? s.cwd path with
    | some text => rfl
    | none => exact ih

theorem value_configText (s : Surroundings) :
    s.configText.value = s.candidates.findSome? s.textOf := by
  unfold candidates
  rw [List.findSome?_append, ← localConfig?_map]
  unfold configText
  cases s.localConfig? with
  | some found => rfl
  | none =>
    unfold globalConfig
    rcases s.makeDir .config with ⟨cause | directory, tree⟩
    · rfl
    · show Found.value _ = Option.or none ([(tree, fileIn directory)].findSome? s.textOf)
      rw [Option.none_or, List.findSome?_singleton]
      show _ = tree.readText? s.cwd (fileIn directory)
      cases htext : tree.readText? s.cwd (fileIn directory) with
      | none => simp [Except.map, htext]
      | some text => simp [Except.map, htext]

theorem value_load (s : Surroundings) :
    (Config.load s).value =
      ((s.candidates.findSome? s.textOf).bind Config.parse?).getD Config.default := by
  show (Config.ofText s.configText.value).1 = _
  rw [value_configText]
  cases s.candidates.findSome? s.textOf with
  | none => rfl
  | some text =>
    rw [Option.bind_some]
    unfold Config.ofText
    cases hparse : Config.parse? text <;> simp [hparse]

/-- what comes after a candidate that holds text is not looked at -/
theorem value_load_congr {cs cs' more more' : List (Tree × String)}
    (h : s.candidates = cs ++ more) (h' : s'.candidates = cs' ++ more')
    (hsame : cs'.map s'.textOf = cs.map s.textOf) (htext : ∃ c ∈ cs, s.textOf c ≠ none) :
    (Config.load s').value = (Config.load s).value := by
  have hmap : ∀ (r : Surroundings) (cs : List (Tree × String)),
      cs.findSome? r.textOf = (cs.map r.textOf).findSome? id := fun r cs => by
    rw [List.findSome?_map]
    rfl
  rw [value_load, value_load, h, h', List.findSome?_append, List.findSome?_append,
    hmap s' cs', hsame, ← hmap]
  obtain ⟨c, hc, hne⟩ := htext
  cases hfirst : cs.findSome? s.textOf with
  | none => exact absurd (List.findSome?_eq_none_iff.mp hfirst c hc) hne
  | some text => rfl

end Surroundings

open Surroundings

/-- **The first candidate that holds text is the configuration.**  The file of the working directory
is a candidate, and that of the home directory if the environment has one, and that of the shell's
own directory for configurations if this directory is there in the end.  The own directory is in the
one that the environment has for configurations if that is an absolute path, else in the home
directory, which is that of the environment or, if this is empty or missing, that of the user
database.  A candidate holds a text if its path leads to a file with the bytes of that text, and to
nothing else.  The configuration is what the text of the first such candidate says, or the default
if it says nothing that can be read, or if there is no such candidate.  It is the same wherever the
candidates up to that one hold the same, and so whatever happens to the tree outside the ways to
those. -/
theorem load_candidates (s : Surroundings) :
    (s.home = none → s.localPaths = [".tb-dashboard.toml"]) ∧
    (∀ home, s.home = some home →
      s.localPaths = [".tb-dashboard.toml", joinPath home ".tb-dashboard.toml"]) ∧
    (∀ directory, (s.makeDir .config).1 = .ok directory → s.candidates =
      s.localPaths.map (s.tree, ·) ++ [((s.makeDir .config).2, joinPath directory "config.toml")]) ∧
    ((∀ directory, (s.makeDir .config).1 ≠ .ok directory) →
      s.candidates = s.localPaths.map (s.tree, ·)) ∧
    (∀ directory, s.ownDir? .config = some directory ↔ s.Owns s.configHome ".config" directory) ∧
    (∀ directory, (s.makeDir .config).1 = .ok directory ↔
      s.ownDir? .config = some directory ∧ (utf8 directory.toList).length ≤ pathLimit ∧
        (s.makeDir .config).2.find s.cwd (Path.parse directory) = .ok .directory) ∧
    (∀ c text, s.textOf c = some text ↔
      (utf8 c.2.toList).length ≤ pathLimit ∧
        c.1.find s.cwd (Path.parse c.2) = .ok (.file (utf8 text.toList))) ∧
    (∀ before c after text, s.candidates = before ++ c :: after →
      (∀ b ∈ before, s.textOf b = none) → s.textOf c = some text →
      (Config.load s).value = (Config.parse? text).getD Config.default) ∧
    ((∀ c ∈ s.candidates, s.textOf c = none) → (Config.load s).value = Config.default) ∧
    (∀ s' n, (s'.candidates.take n).map s'.textOf = (s.candidates.take n).map s.textOf →
      (∃ c ∈ s.candidates.take n, s.textOf c ≠ none) →
      (Config.load s').value = (Config.load s).value) ∧
    ∀ s' n, s'.cwd = s.cwd → s'.localPaths.take n = s.localPaths.take n →
      (∀ path ∈ s.localPaths.take n, ∀ place ∈ Tree.wayTo s.cwd path,
        s'.tree.node? place = s.tree.node? place) →
      (∃ path ∈ s.localPaths.take n, s.textOf (s.tree, path) ≠ none) →
      (Config.load s').value = (Config.load s).value := by
  refine ⟨localPaths_of_none, fun _ => localPaths_of_some, fun _ => candidates_of_ok,
    candidates_of_error, fun _ => ownDir?_eq_some_iff, fun _ => makeDir_eq_ok, fun c text => ?_,
    fun before c after text hs hbefore hc => ?_, fun hnone => ?_, fun s' n hsame htext => ?_,
    fun s' n hcwd hpaths hways htext => ?_⟩
  · exact Tree.readText?_eq_some.trans Tree.readBytes_eq_ok
  · have hfirst : s.candidates.findSome? s.textOf = some text := by
      rw [hs, List.findSome?_append, List.findSome?_eq_none_iff.mpr hbefore, Option.none_or,
        List.findSome?_cons, hc]
    rw [value_load, hfirst]
    rfl
  · rw [value_load, List.findSome?_eq_none_iff.mpr hnone]
    rfl
  · exact value_load_congr (List.take_append_drop n _).symm (List.take_append_drop n _).symm hsame
      htext
  · -- the local candidates come first, all in the tree as it is found
    have hfirst : ∀ r : Surroundings, ∃ more,
        r.candidates = (r.localPaths.take n).map (r.tree, ·) ++ more := fun r => by
      unfold candidates
      rw [← List.take_append_drop n r.localPaths, List.map_append, List.append_assoc,
        List.take_append_drop]
      exact ⟨_, rfl⟩
    obtain ⟨more, hs⟩ := hfirst s
    obtain ⟨more', hs'⟩ := hfirst s'
    obtain ⟨path, hpath, hne⟩ := htext
    refine value_load_congr hs hs' ?_ ⟨(s.tree, path), List.mem_map_of_mem hpath, hne⟩
    rw [hpaths, List.map_map, List.map_map]
    refine List.map_congr_left fun path hpath => ?_
    show s'.tree.readText? s'.cwd path = s.tree.readText? s.cwd path
    rw [hcwd]
    exact Tree.readText?_congr (hways path hpath)

/-- the file of the working directory is a directory, and that of the home directory nothing that
can be read: that ends the search, with a good file in the directory for configurations and without
one.  With an absolute setting for configurations, the good file in its directory counts; with a
relative one and an empty home directory, the user database says where to look. -/
theorem load_candidates_malformed :
    let own : Place := ["h", ".config", "tb-dashboard"]
    let found : List (Place × Node) :=
      [(["w"], .directory), (["w", ".tb-dashboard.toml"], .directory), (["h"], .directory),
       (["h", ".tb-dashboard.toml"], .file (utf8 "=".toList)), (["h", ".config"], .directory),
       (own, .directory)]
    let file : Node := .file (utf8 "reload_period_ms = 5\n".toList)
    let s : Surroundings :=
      ⟨⟨found ++ [(own ++ ["config.toml"], file)]⟩, ["w"], some "/h", none, none, none⟩
    let s' : Surroundings := { s with tree := ⟨found⟩ }
    let r : Surroundings := { s with home := none, configHome := some "/h/.config" }
    let r' : Surroundings := { s with home := some "", configHome := some "x", userHome := some "/h" }
    s.candidates = [(s.tree, ".tb-dashboard.toml"), (s.tree, "/h/.tb-dashboard.toml"),
      (s.tree, "/h/.config/tb-dashboard/config.toml")] ∧
    s.candidates.map s.textOf = [none, some "=", some "reload_period_ms = 5\n"] ∧
    (Config.load s).value = Config.default ∧ (Config.load s').value = (Config.load s).value ∧
    r.ownDir? .config = some "/h/.config/tb-dashboard" ∧
    r.candidates = [(r.tree, ".tb-dashboard.toml"),
      (r.tree, "/h/.config/tb-dashboard/config.toml")] ∧
    (Config.load r).value = { Config.default with reloadPeriod := 5 } ∧
    r'.ownDir? .config = some "/h/.config/tb-dashboard" := by
  intro own found file s s' r r'
  have hcandidates : s.candidates = [(s.tree, ".tb-dashboard.toml"),
      (s.tree, "/h/.tb-dashboard.toml"), (s.tree, "/h/.config/tb-dashboard/config.toml")] := by
    rfl
  have htexts : s.candidates.map s.textOf = [none, some "=", some "reload_period_ms = 5\n"] := by
    decide
  obtain ⟨-, -, -, -, -, -, -, hfirst, -, -, hsame⟩ := load_candidates s
  have hmalformed : Config.parse? "=" = none := by decide +kernel
  have hvalue := hfirst [(s.tree, ".tb-dashboard.toml")] _ [_] "=" hcandidates (by decide) (by decide)
  rw [hmalformed] at hvalue
  obtain ⟨hlocal, -, hthere, -, howns, -, -, hgood, -, -⟩ := load_candidates r
  have howned : r.Owns (some ("/" ++ "h/.config")) ".config" _ := .set rfl
  have hset : r.ownDir? .config = some "/h/.config/tb-dashboard" := (howns _).mpr howned
  have hcandidates' := hthere "/h/.config/tb-dashboard" (by rfl)
  rw [hlocal rfl] at hcandidates'
  have hvalue' := hgood [(r.tree, ".tb-dashboard.toml")] _ [] "reload_period_ms = 5\n" hcandidates'
    (by decide) (by decide)
  have hparse : Config.parse? "reload_period_ms = 5\n" =
      some { Config.default with reloadPeriod := 5 } := by decide +kernel
  rw [hparse] at hvalue'
  obtain ⟨-, -, -, -, howns', -⟩ := load_candidates r'
  have huser := (howns' _).mpr
    (.user (relative_ne (by decide)) (fun path h => (Option.some.inj h).symm) rfl (by decide))
  exact ⟨hcandidates, htexts, hvalue, hsame s' 2 rfl rfl (by decide) (by decide), hset,
    hcandidates', hvalue', huser⟩

end TabShell

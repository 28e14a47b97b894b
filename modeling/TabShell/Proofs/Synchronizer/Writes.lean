import TabShell.Synchronizer
/-!
# What a synchronizer writes

A synchronizer that is told of the active plugin and the readiness of the route writes the plugin
whenever there is a route, and what it writes depends only on what it was told before.

* `writesFor`            what is written of the links that a synchronizer is told of;
* `Synchronizer.Heard`   a synchronizer that was told of them.
-/

namespace TabShell

variable {L : Type}

section
variable [DeepLinker L]

theorem key_storeChanged (sync : Synchronizer L) (plugin : Option String) (ready : Bool) :
    (sync.storeChanged plugin ready).sync.key = sync.key := by
  cases ready with
  | false => rfl
  | true =>
    show (Synchronizer.start sync).sync.key = sync.key
    unfold Synchronizer.start
    split <;> rfl

theorem default_storeChanged (sync : Synchronizer L) (plugin : Option String) (ready : Bool) :
    (sync.storeChanged plugin ready).sync.default = sync.default := by
  cases ready with
  | false => rfl
  | true =>
    show (Synchronizer.start sync).sync.default = sync.default
    unfold Synchronizer.start
    split <;> rfl

/-- at a route the plugin is written, once, and nothing else changes but the phase -/
theorem sync_storeChanged_ready (sync : Synchronizer L) (plugin : Option String) :
    (sync.storeChanged plugin true).sync =
      ⟨DeepLinker.set sync.linker
          ⟨sync.key, plugin.getD "", decide (sync.phase ≠ .synced), sync.default⟩,
        sync.key, sync.default, .synced⟩ := by
  rw [← sync.linker_storeChanged_ready, ← key_storeChanged sync plugin true,
    ← default_storeChanged sync plugin true, ← sync.phase_storeChanged_ready plugin]

end

/-- what is written of links: the plugin of every one at a route, the first in place of the current
entry -/
def writesFor (key default : String) (links : List (Option String × Bool)) : List Write :=
  (links.filter (·.2)).mapIdx fun i link => ⟨key, link.1.getD "", decide (i = 0), default⟩

/-- a synchronizer that was told of links: it has written if one of them was at a route -/
structure Synchronizer.Heard (key default : String) (links : List (Option String × Bool))
    (sync : Synchronizer L) : Prop where
  key : sync.key = key
  default : sync.default = default
  synced : sync.phase = .synced ↔ links.filter (·.2) ≠ []

namespace Synchronizer

theorem Heard.new (linker : L) (key default : String) :
    Heard key default [] (Synchronizer.new linker key default) :=
  ⟨rfl, rfl, by simp [Synchronizer.new]⟩

variable [DeepLinker L]

theorem Heard.edit {key default : String} {links : List (Option String × Bool)}
    {sync : Synchronizer L} (h : Heard key default links sync) (text : String) :
    Heard key default links (sync.edit text) :=
  ⟨h.key, h.default, h.synced⟩

/-- only at a route something is written, and it is the plugin -/
theorem mem_writes_storeChanged {sync : Synchronizer L} {plugin : Option String} {ready : Bool}
    {w : Write} (hw : w ∈ (sync.storeChanged plugin ready).writes) :
    ready = true ∧ w.value = plugin.getD "" := by
  cases ready with
  | false => cases hw
  | true =>
    rw [sync.writes_storeChanged_ready, List.mem_singleton] at hw
    exact ⟨rfl, congrArg Write.value hw⟩

/-- what is recorded is what the linker was told to keep -/
theorem linker_storeChanged (sync : Synchronizer L) (plugin : Option String) (ready : Bool) :
    (sync.storeChanged plugin ready).sync.linker =
      (sync.storeChanged plugin ready).writes.foldl DeepLinker.set sync.linker := by
  cases ready with
  | false => rfl
  | true =>
    rw [sync.linker_storeChanged_ready, sync.writes_storeChanged_ready]
    rfl

variable {key default : String} {links : List (Option String × Bool)} {sync : Synchronizer L}

theorem Heard.storeChanged (h : Heard key default links sync) (link : Option String × Bool) :
    Heard key default (links ++ [link]) (sync.storeChanged link.1 link.2).sync ∧
      writesFor key default (links ++ [link]) =
        writesFor key default links ++ (sync.storeChanged link.1 link.2).writes := by
  obtain ⟨plugin, ready⟩ := link
  have hkey := (key_storeChanged sync plugin ready).trans h.key
  have hdefault := (default_storeChanged sync plugin ready).trans h.default
  cases ready with
  | false =>
    have hsame : (links ++ [(plugin, false)]).filter (·.2) = links.filter (·.2) := by simp
    refine ⟨⟨hkey, hdefault, hsame ▸ h.synced⟩, ?_⟩
    unfold writesFor
    rw [hsame]
    exact (List.append_nil _).symm
  | true =>
    have hmore : (links ++ [(plugin, true)]).filter (·.2) =
        links.filter (·.2) ++ [(plugin, true)] := by simp
    refine ⟨⟨hkey, hdefault, ?_⟩, ?_⟩
    · rw [hmore]
      simp [sync.phase_storeChanged_ready]
    · have hfirst : ((links.filter (·.2)).length = 0) = (sync.phase ≠ .synced) := by
        rw [ne_eq, h.synced, Classical.not_not, List.length_eq_zero_iff]
      unfold writesFor
      rw [hmore, List.mapIdx_concat, sync.writes_storeChanged_ready, h.key, h.default]
      simp only [hfirst]

end Synchronizer

end TabShell

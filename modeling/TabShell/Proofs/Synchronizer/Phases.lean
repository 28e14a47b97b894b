import TabShell.Proofs.Runs
import TabShell.Proofs.Synchronizer.Writes
/-!
# The phases of a synchronizer

A synchronizer without a store is told of plugins and routes, its link is written to and edited by
others, and what it reports goes to a channel that may lose its receiver.  Only what it is told of a
route moves its phase, and the only write in place of the current entry is its first of its own.

* `SyncOp.link?`         what an operation tells of the store;
* `Detached.mirrored`    what an operation writes of the store;
* `Detached.announced`   what an operation brings to the receiver;
* `Detached.Past`        a synchronizer after some operations, which every operation keeps;
* `phases_run`           phase, writes and reports, in every run.
-/

namespace TabShell

/-- what an operation tells of the store -/
def SyncOp.link? : SyncOp → Option (Option String × Bool)
  | .storeChanged plugin ready => some (plugin, ready)
  | _ => none

namespace Detached

variable {L : Type}

/-- a synchronizer after some operations: it has heard what they told it, is not about to write for
the first time, and is received unless one of them closed the channel -/
structure Past (key default : String) (ops : List SyncOp) (d : Detached L) : Prop where
  heard : d.sync.Heard key default (ops.filterMap SyncOp.link?)
  between : d.sync.phase ≠ .firstWrite
  receiving : d.receiving = decide (.close ∉ ops)

theorem past_new (linker : L) (key default : String) :
    Past key default [] (.new (.new linker key default)) :=
  ⟨.new linker key default, nofun, rfl⟩

theorem sync_send (d : Detached L) (a : Action) : (d.send a).sync = d.sync := by
  unfold send
  split <;> rfl

theorem receiving_send (d : Detached L) (a : Action) : (d.send a).receiving = d.receiving := by
  unfold send
  split <;> rfl

namespace Past

variable {key default : String} {ops : List SyncOp} {d e : Detached L}

theorem phase (h : Past key default ops d) :
    d.sync.phase =
      if (ops.filterMap SyncOp.link?).any (·.2) then .synced else .waitingForRoute := by
  have hsynced : d.sync.phase = .synced ↔ (ops.filterMap SyncOp.link?).any (·.2) = true := by
    rw [h.heard.synced, ne_eq, List.filter_eq_nil_iff, List.any_eq_true]
    simp only [Classical.not_forall, Classical.not_not, exists_prop]
  split
  · next hbegun => exact hsynced.mpr hbegun
  · next hnot =>
    have hphase : d.sync.phase ≠ .synced := fun hphase => hnot (hsynced.mp hphase)
    have hbetween := h.between
    cases hcase : d.sync.phase with
    | waitingForRoute => rfl
    | firstWrite => exact absurd hcase hbetween
    | synced => exact absurd hcase hphase

theorem keep (h : Past key default ops d) {op : SyncOp} (hlink : op.link? = none)
    (hclose : op ≠ .close) (hheard : e.sync.Heard key default (ops.filterMap SyncOp.link?))
    (hphase : e.sync.phase = d.sync.phase) (hreceiving : e.receiving = d.receiving) :
    Past key default (ops ++ [op]) e := by
  refine ⟨?_, hphase ▸ h.between, ?_⟩
  · rw [List.filterMap_append, List.filterMap_cons_none hlink, List.filterMap_nil, List.append_nil]
    exact hheard
  · rw [hreceiving, h.receiving]
    simp [hclose.symm]

end Past

/-! ## what operations add -/

variable [DeepLinker L]

/-- what an operation writes of the store -/
def mirrored (x : Detached L × SyncOp) : List Write :=
  match x.2 with
  | .storeChanged plugin ready => (x.1.sync.storeChanged plugin ready).writes
  | _ => []

/-- what an operation brings to the receiver -/
def announced (x : Detached L × SyncOp) : List Action :=
  match x.2 with
  | .linkChanged => if x.1.receiving then [x.1.sync.announcement] else []
  | _ => []

theorem arrived_step (d : Detached L) (op : SyncOp) :
    (d.step op).arrived = d.arrived ++ announced (d, op) := by
  cases op with
  | linkChanged =>
    unfold step send announced
    cases d.receiving with
    | true => rfl
    | false => exact (List.append_nil _).symm
  | _ => exact (List.append_nil _).symm

theorem arrived_run (d : Detached L) (ops : List SyncOp) :
    (d.run ops).arrived = d.arrived ++ (met step d ops).flatMap announced :=
  foldl_eq_met arrived_step d ops

namespace Past

variable {key default : String} {ops : List SyncOp} {d : Detached L}

theorem step (h : Past key default ops d) (op : SyncOp) :
    Past key default (ops ++ [op]) (d.step op) := by
  have heard := h.heard
  cases op with
  | storeChanged plugin ready =>
    have hlinks : (ops ++ [SyncOp.storeChanged plugin ready]).filterMap SyncOp.link? =
        ops.filterMap SyncOp.link? ++ [(plugin, ready)] := List.filterMap_append ..
    refine ⟨?_, ?_, ?_⟩
    · rw [hlinks]
      exact (heard.storeChanged (plugin, ready)).1
    · cases ready with
      | false => exact h.between
      | true => exact nofun
    · show d.receiving = _
      rw [h.receiving]
      simp
  | linkChanged =>
    have hsync : (d.step .linkChanged).sync = d.sync := sync_send _ _
    refine h.keep rfl nofun ?_ ?_ (receiving_send _ _)
    · rw [hsync]
      exact heard
    · rw [hsync]
  | put value replace other =>
    exact h.keep rfl nofun ⟨heard.key, heard.default, heard.synced⟩ rfl rfl
  | edit text => exact h.keep rfl nofun (heard.edit text) rfl rfl
  | close =>
    refine ⟨?_, h.between, ?_⟩
    · rw [List.filterMap_append]
      exact (List.append_nil (ops.filterMap SyncOp.link?)).symm ▸ heard
    · show false = _
      simp

theorem run (h : Past key default ops d) (more : List SyncOp) :
    Past key default (ops ++ more) (d.run more) := by
  induction more generalizing ops d with
  | nil =>
    rw [List.append_nil]
    exact h
  | cons op more ih =>
    have hrest := ih (h.step op)
    rw [List.append_assoc] at hrest
    exact hrest

theorem writesFor_append (h : Past key default ops d) (more : List SyncOp) :
    writesFor key default ((ops ++ more).filterMap SyncOp.link?) =
      writesFor key default (ops.filterMap SyncOp.link?) ++
        (met Detached.step d more).flatMap mirrored := by
  induction more generalizing ops d with
  | nil => rw [List.append_nil, met_nil, List.flatMap_nil, List.append_nil]
  | cons op more ih =>
    have hrest := ih (h.step op)
    rw [List.append_assoc] at hrest
    have hfirst : writesFor key default ((ops ++ [op]).filterMap SyncOp.link?) =
        writesFor key default (ops.filterMap SyncOp.link?) ++ mirrored (d, op) := by
      rw [List.filterMap_append]
      cases op with
      | storeChanged plugin ready => exact (h.heard.storeChanged (plugin, ready)).2
      | _ =>
        show writesFor key default (ops.filterMap SyncOp.link? ++ []) = _ ++ []
        rw [List.append_nil, List.append_nil]
    rw [met_cons, List.flatMap_cons, ← List.append_assoc, ← hfirst]
    exact hrest

end Past

/-- **The phases of a synchronizer.**  Whatever the linker is, a synchronizer of its own that was
told, written to, edited and asked to report in any order is synced if it was ever told of a route,
and else still waits for one.  Of what it is told it writes exactly the plugins at a route, the
first in place of the current entry and the others not; each such call writes once, and the others
do nothing.  Whoever writes through it leaves the phase alone.  What arrives are its reports until
the channel is closed, each of what the link names at that moment; one that is made afterwards is
dropped, and the log says so. -/
theorem phases_run (linker : L) (key default : String) (ops : List SyncOp) :
    let start := Detached.new (.new linker key default)
    let d := start.run ops
    let links := ops.filterMap SyncOp.link?
    let begun := links.any (·.2)
    let named := DeepLinker.get d.sync.linker key
    d.sync.phase = (if begun then .synced else .waitingForRoute) ∧
    (met step start ops).flatMap mirrored = writesFor key default links ∧
    (∀ plugin, d.step (.storeChanged plugin false) = d) ∧
    (∀ plugin,
      let w : Write := ⟨key, plugin.getD "", !begun, default⟩
      let e := d.step (.storeChanged plugin true)
      e.sync = ⟨DeepLinker.set d.sync.linker w, key, default, .synced⟩ ∧
      e.writes = d.writes ++ [w] ∧ e.receiving = d.receiving ∧ e.arrived = d.arrived) ∧
    (∀ value replace other,
      let w : Write := ⟨key, value, replace, other⟩
      d.step (.put value replace other) =
        { d with
          sync := ⟨DeepLinker.set d.sync.linker w, key, default, d.sync.phase⟩
          writes := d.writes ++ [w] }) ∧
    d.arrived = (met step start ops).flatMap announced ∧
    d.receiving = decide (.close ∉ ops) ∧
    d.sync.plugin = named ∧
    d.step .linkChanged =
      if d.receiving then
        { d with
          entries := d.entries ++ [.linkChanged named]
          arrived := d.arrived ++ [.linkedPluginChanged named] }
      else { d with entries := d.entries ++ [.linkChanged named, .channelClosed] } := by
  intro start d links begun named
  have hpast : Past key default ops d := (past_new linker key default).run ops
  have hkey : d.sync.key = key := hpast.heard.key
  have hdefault : d.sync.default = default := hpast.heard.default
  have hplugin : d.sync.plugin = named := congrArg (DeepLinker.get d.sync.linker) hkey
  have hfirst : decide (d.sync.phase ≠ .synced) = !begun := by
    rw [hpast.phase]
    show decide ((if begun then Phase.synced else .waitingForRoute) ≠ .synced) = !begun
    cases begun <;> rfl
  refine ⟨hpast.phase, ?_, fun _ => ?_, fun plugin => ?_, fun value replace other => ?_,
    arrived_run start ops, hpast.receiving, hplugin, ?_⟩
  · exact ((past_new linker key default).writesFor_append ops).symm
  · show { d with entries := d.entries ++ [], writes := d.writes ++ [] } = d
    rw [List.append_nil, List.append_nil]
  · have hsync := sync_storeChanged_ready d.sync plugin
    have hwrites := d.sync.writes_storeChanged_ready plugin
    rw [hkey, hdefault, hfirst] at hsync hwrites
    exact ⟨hsync, congrArg (d.writes ++ ·) hwrites, rfl, rfl⟩
  · let w : Write := ⟨d.sync.key, value, replace, other⟩
    show { d with sync := d.sync.put w, writes := d.writes ++ [w] } = _
    unfold w Synchronizer.put
    rw [hkey, hdefault]
  · show send { d with entries := d.entries ++ [.linkChanged d.sync.plugin] }
      (.linkedPluginChanged d.sync.plugin) = _
    rw [hplugin]
    split
    · next hopen => exact if_pos hopen
    · next hclosed =>
      refine (if_neg hclosed).trans ?_
      show { d with
        entries := d.entries ++ [LogEntry.linkChanged named] ++ [LogEntry.channelClosed] } = _
      rw [List.append_assoc]
      rfl

end Detached

end TabShell

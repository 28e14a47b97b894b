import TabShell.Proofs.Location.Values
import TabShell.Proofs.Store.Naming
import TabShell.Proofs.Store.Turn
import TabShell.Proofs.Synchronizer.Writes
/-!
# The link and the active plugin

A mounted synchronizer writes the active plugin to its link and reports what others write there.
The two race: a dispatch overtakes reports that wait, a report that is taken late overwrites what
was written since, and nothing is written without a route.  Still they agree at a route, or the
report that will make them agree waits.

* `Agrees`             the link names the active plugin, or its report waits;
* `Linked`             the mount of a handle agrees with the state that it heard of last, which is
                       the state unless its turn in the cycle is still to come;
* `Linked.step`        every step keeps that;
* `Reported`           operations in which every edit of the link is reported at once;
* `link_agrees_run`    link and state in every run of such operations.
-/

namespace TabShell

/-- at a route, the link of a synchronizer names the active plugin or its report waits -/
def Agrees {V L : Type} [DeepLinker L] (sync : Synchronizer L) (s : Store V L) : Prop :=
  s.state.routeReady = true → sync.plugin = s.state.selection ∨ sync.announcement ∈ s.pending

/-- what is written at a route is what the link names then, unless it is the default -/
theorem plugin_storeChanged (sync : Synchronizer Location) (plugin : Option String) :
    (sync.storeChanged plugin true).sync.plugin =
      if plugin.getD "" = sync.default then "" else plugin.getD "" := by
  unfold Synchronizer.plugin
  rw [sync.linker_storeChanged_ready, key_storeChanged]
  exact Location.get_write sync.linker ⟨sync.key, plugin.getD "", _, sync.default⟩

/-- who has just written, if there was a route, agrees -/
theorem agrees_storeChanged {V : Type} {s t : Store V Location} (sync : Synchronizer Location)
    (hdefault : sync.default = "") (hstate : t.state = s.state) :
    Agrees (sync.storeChanged s.state.link.1 s.state.link.2).sync t := by
  intro hready
  rw [hstate] at hready ⊢
  have hroute : s.state.link.2 = true := hready
  rw [hroute]
  have hplugin := plugin_storeChanged sync s.state.link.1
  rw [hdefault] at hplugin
  refine .inl (hplugin.trans ?_)
  split
  · next h => exact h.symm
  · rfl

/-- who takes a report makes what it names the active plugin -/
theorem selection_reduce_linked (state : State) (plugin : String) :
    (reduce state (.linkedPluginChanged plugin)).selection = plugin := by
  show ((choiceOf plugin).filter (· ≠ "")).getD "" = plugin
  by_cases h : plugin = ""
  · rw [h]
    rfl
  · simp [choiceOf, Option.filter, h]

/-- the mount of a handle, which writes under a key, at a moment -/
inductive Linked {V : Type} (key : String) (k : Nat) (m : Moment V Location) : Prop
  | here (sync : Synchronizer Location) (last : Option String × Bool)
      (listens : m.store.listener? k = some (.mount sync last))
      (writes : sync.key = key ∧ sync.default = "")
      (heard : m.store.state.link = last ∨ k ∈ m.due)
      (agrees : m.store.state.link = last → Agrees sync m.store)
  | gone (h : k ∈ left m.store.trace)

namespace Linked

variable {V : Type} {key : String} {k : Nat} {m m' : Moment V Location}

/-- a step that does not concern the mount -/
theorem bystander (hm : Linked key k m) (hk : k ∉ left m.store.trace) {e : List (Happening V)}
    (h : Bystander k m.store m'.store e) (hdue : k ∈ m.due → k ∈ m'.due) : Linked key k m' := by
  cases hm with
  | here sync last listens writes heard agrees =>
    rcases h.stays _ listens with hstays | hleft
    · refine .here sync last hstays writes ?_ ?_
      · rw [h.state]
        exact heard.imp id hdue
      · intro hlast hready
        rw [h.state] at hlast hready ⊢
        rw [h.pending, List.mem_append]
        exact (agrees hlast hready).imp id .inl
    · refine .gone ?_
      rw [h.trace, left_append]
      exact List.mem_append_right _ hleft
  | gone hleft => exact absurd hleft hk

/-- the state changes, and a cycle begins; the report that was taken, if one was, has done its
part -/
theorem advance (hm : Linked key k m) (hdue : m.due = []) {a : Action}
    (hstate : m'.store.state = reduce m.store.state a)
    (hlistens : m'.store.listener? k = m.store.listener? k) (hdue' : m'.due = m.store.handles)
    (hleft : left m'.store.trace = left m.store.trace)
    (hpending : ∀ b ∈ m.store.pending, b ∈ m'.store.pending ∨ b = a) : Linked key k m' := by
  cases hm with
  | here sync last listens writes heard agrees =>
    refine .here sync last (hlistens.trans listens) writes (.inr ?_) ?_
    · rw [hdue']
      exact Store.mem_handles_of_listener? listens
    · intro hlast hready
      have hheard : m.store.state.link = last := by
        rw [hdue] at heard
        exact heard.resolve_right List.not_mem_nil
      -- the action may have left the link as it was heard; then only a report can have been lost
      have hsame : m'.store.state.link = m.store.state.link := hlast.trans hheard.symm
      have hselection : m'.store.state.selection = m.store.state.selection :=
        congrArg (fun link => link.1.getD "") hsame
      have hroute : m.store.state.routeReady = true :=
        (congrArg Prod.snd hsame).symm.trans hready
      rcases agrees hheard hroute with hplugin | hreport
      · exact .inl (hplugin.trans hselection.symm)
      · rcases hpending _ hreport with hwaits | rfl
        · exact .inr hwaits
        · left
          rw [hstate]
          exact (selection_reduce_linked _ _).symm
  | gone h => exact .gone (hleft ▸ h)

/-- a dispatch begins -/
theorem opens {s : Store V Location} (hs : Linked key k ⟨s, []⟩) (a : Action) :
    Linked key k ⟨s.advance .dispatched a, s.handles⟩ :=
  hs.advance rfl rfl (Store.listener?_advance s .dispatched a k) rfl
    (Store.left_advance s .dispatched a) fun _ hb => .inl hb

/-- a mount begins by writing what there is -/
theorem joins {s : Store V Location} (hs : Roster s) (label : String)
    (sync : Synchronizer Location) (hkey : sync.key = key) (hdefault : sync.default = "") :
    Linked key s.nextHandle ⟨(s.greeted sync).join label
      (.mount (sync.storeChanged s.state.link.1 s.state.link.2).sync s.state.link), []⟩ := by
  have hfresh : (s.greeted sync).nextHandle ∉ (s.greeted sync).handles := hs.fresh
  refine .here (sync.storeChanged s.state.link.1 s.state.link.2).sync s.state.link
    (Store.listener?_join_self hfresh label _) ?_ (.inl rfl)
    fun _ => agrees_storeChanged sync hdefault rfl
  rw [key_storeChanged, default_storeChanged]
  exact ⟨hkey, hdefault⟩

variable [DecidableEq V]

/-- a turn of the mount -/
theorem turn (hm : Linked key k m) (hk : k ∉ left m.store.trace) (h : Turn k m m') :
    Linked key k m' := by
  cases h with
  | pass s due current =>
    cases hm with
    | here sync last listens writes heard agrees =>
      exact .here sync last listens writes (.inl (current _ listens)) agrees
    | gone hleft => exact absurd hleft hk
  | hear s due label project last reactions listens' changed =>
    cases hm with
    | here sync last listens writes heard agrees => cases listens.symm.trans listens'
    | gone hleft => exact absurd hleft hk
  | write s due sync' last' listens' changed =>
    cases hm with
    | here sync last listens writes heard agrees =>
      cases listens.symm.trans listens'
      refine .here (sync'.storeChanged s.state.link.1 s.state.link.2).sync s.state.link ?_ ?_
        (.inl rfl) fun _ => agrees_storeChanged sync' writes.2 rfl
      · rw [Store.listener?_record, Store.listener?_note, Store.listener?_update_self, listens]
        rfl
      · rw [key_storeChanged, default_storeChanged]
        exact writes
    | gone hleft => exact absurd hleft hk
  | take s a rest waits =>
    refine hm.advance rfl rfl (Store.listener?_advance (s.dequeued rest) .queued a k) rfl
      (Store.left_advance (s.dequeued rest) .queued a) ?_
    intro b hb
    rw [waits] at hb
    exact (List.mem_cons.mp hb).symm

theorem step (hm : Linked key k m) (hcame : k < m.store.nextHandle) (h : Step m m') :
    Linked key k m' := by
  by_cases hk : k ∈ left m.store.trace
  · exact .gone (h.left_subset hk)
  · rcases h.of_handle (Nat.ne_of_lt hcame) with ⟨e, he, hdue⟩ | hturn
    · exact hm.bystander hk he hdue
    · exact hm.turn hk hturn

theorem steps (hm : Linked key k m) (hcame : k < m.store.nextHandle) (h : Store.Steps m m') :
    Linked key k m' := by
  have hboth : k < m'.store.nextHandle ∧ Linked key k m' :=
    h.preserve (P := fun m => k < m.store.nextHandle ∧ Linked key k m)
      (fun _ _ h hm => ⟨hm.1.trans_le h.nextHandle_le, hm.2.step hm.1 h⟩) ⟨hcame, hm⟩
  exact hboth.2

end Linked

/-- operations in which every edit of the link of a label is reported at once -/
inductive Reported {V L : Type} (label : String) : List (StoreOp V L) → Prop
  | nil : Reported label []
  | other {op : StoreOp V L} {ops : List (StoreOp V L)} (h : ∀ text, op ≠ .edit label text)
      (rest : Reported label ops) : Reported label (op :: ops)
  | edit (text : String) {ops : List (StoreOp V L)} (rest : Reported label ops) :
      Reported label (.edit label text :: .linkChanged label :: ops)

/-- the mount of a handle when a call is over -/
structure Mounted {V : Type} (key label : String) (k : Nat) (s : Store V Location) : Prop where
  bears : Bears true k label s
  linked : Linked key k ⟨s, []⟩

namespace Sole

variable {V : Type} {k : Nat} {label : String} {s : Store V Location}

/-- an edit of another link does not concern the mount -/
theorem listener?_edit_of_ne (hs : Sole true k label s) (hk : k ∉ left s.trace) {name : String}
    (hne : name ≠ label) (text : String) :
    (s.edit name text).listener? k = s.listener? k := by
  rw [Store.listener?_edit]
  unfold Store.listener?
  cases hx : s.subscribers.find? fun x => decide (x.handle = k) with
  | none => rfl
  | some x =>
    have hmount := hs.isNamed_of_find? hk hx
    have hlabel : x.label = label := by
      simp only [Subscriber.isNamed, Subscriber.isCalled, Bool.and_eq_true,
        decide_eq_true_eq] at hmount
      exact hmount.2.1
    have hother : x.isMount name = false := by
      simp [Subscriber.isMount, Subscriber.isNamed, Subscriber.isCalled, hlabel, Ne.symm hne]
    simp [Subscriber.edited, hother]

theorem listener?_edit (hs : Sole true k label s) (hk : k ∉ left s.trace)
    {sync : Synchronizer Location} {last : Option String × Bool}
    (hl : s.listener? k = some (.mount sync last)) (text : String) :
    (s.edit label text).listener? k = some (.mount (sync.edit text) last) := by
  rw [Store.listener?_edit]
  obtain ⟨x, hx, hlistener⟩ := Option.map_eq_some_iff.mp hl
  have hmount : x.isMount label = true := hs.isNamed_of_find? hk hx
  simp [hx, Subscriber.edited, Subscriber.relisten, hmount, hlistener]

end Sole

namespace Mounted

variable {V : Type} [DecidableEq V] {key label : String} {k : Nat} {s : Store V Location}

/-- every operation but an edit of its own link -/
theorem apply (hs : Mounted key label k s) {op : StoreOp V Location}
    (hop : ∀ text, op ≠ .edit label text) : Mounted key label k (s.apply op) := by
  refine ⟨hs.bears.apply op, ?_⟩
  rcases s.steps_apply op with ⟨a, rfl, h⟩ | ⟨name, text, rfl⟩ | ⟨-, h⟩
  · exact (hs.linked.opens a).steps hs.bears.came h.steps
  · have hne : name ≠ label := by
      rintro rfl
      exact hop text rfl
    cases hs.linked with
    | here sync last listens writes heard agrees =>
      by_cases hk : k ∈ left s.trace
      · exact .gone hk
      · exact .here sync last ((hs.bears.sole.listener?_edit_of_ne hk hne text).trans listens) writes
          heard agrees
    | gone hleft => exact .gone hleft
  · exact hs.linked.steps hs.bears.came h

/-- an edit of its own link that is reported at once -/
theorem report (hs : Mounted key label k s) (text : String) :
    Mounted key label k ((s.edit label text).linkChanged label) := by
  have hedit : Bears true k label (s.edit label text) := hs.bears.apply (.edit label text)
  refine ⟨hedit.apply (.linkChanged label), ?_⟩
  have hsteps := ((Store.asides_linkChanged (s.edit label text) label).ticks []).steps
  by_cases hk : k ∈ left s.trace
  · exact .gone (hsteps.left_subset hk)
  · cases hs.linked with
    | gone hleft => exact absurd hleft hk
    | here sync last listens writes heard agrees =>
      have hlistens := hs.bears.sole.listener?_edit hk listens text
      have hmounted : (s.edit label text).mounted? label = some (sync.edit text) := by
        rw [hedit.sole.mounted? hk, hlistens]
        rfl
      have hreport : (s.edit label text).linkChanged label =
          ((s.edit label text).note [(sync.edit text).announcementEntry]).queue
            [(sync.edit text).announcement] := by
        unfold Store.linkChanged
        rw [hmounted]
      rw [hreport]
      refine .here (sync.edit text) last hlistens writes heard fun _ _ => .inr ?_
      exact List.mem_append_right _ (List.mem_singleton_self _)

theorem run (hs : Mounted key label k s) {ops : List (StoreOp V Location)}
    (hops : Reported label ops) : Mounted key label k (s.run ops) := by
  induction hops generalizing s with
  | nil => exact hs
  | other h _ ih => exact ih (hs.apply h)
  | edit text _ ih => exact ih (hs.report text)

end Mounted

variable {V : Type} [DecidableEq V]

theorem mounted_mount {s : Store V Location} (hs : Roster s) (label key : String) (l : Location) :
    Mounted key label s.nextHandle (s.mount label (Synchronizer.new l key "")) := by
  have hjoined := Linked.joins hs label (Synchronizer.new l key "") rfl rfl
  have hsteps := Store.steps_mount_joined ((s.greeted (Synchronizer.new l key "")).join label
    (.mount ((Synchronizer.new l key "").storeChanged s.state.link.1 s.state.link.2).sync
      s.state.link)) label s.nextHandle
  have hcame : s.nextHandle < s.nextHandle + 1 := Nat.lt_succ_self _
  exact ⟨bears_mount hs label _, hjoined.steps hcame hsteps⟩

/-- **Link and state agree.**  Let a location be mounted in any store, among any other subscribers,
and let every later edit of it be reported at once.  As long as it stays mounted, at a route it
names the active plugin under its key, or a report of what it names waits; so when nothing waits,
it names the active plugin. -/
theorem link_agrees_run (state : State) (observers : List Observer)
    (before : List (StoreOp V Location)) (label key : String) (l : Location)
    (ops : List (StoreOp V Location)) (hops : Reported label ops) :
    let s := (Store.new state observers : Store V Location).run before
    let t := (s.mount label (Synchronizer.new l key "")).run ops
    s.nextHandle ∉ left t.trace → t.state.routeReady = true →
    ∃ sync, t.mounted? label = some sync ∧ sync.key = key ∧
      (sync.linker.get key = t.state.selection ∨
        .linkedPluginChanged (sync.linker.get key) ∈ t.pending) ∧
      (t.pending = [] → sync.linker.get key = t.state.selection) := by
  intro s t hstays hready
  have hs : Roster s := roster_run (Roster.new state observers) before
  have ht : Mounted key label s.nextHandle t := (mounted_mount hs label key l).run hops
  cases ht.linked with
  | gone hleft => exact absurd hleft hstays
  | here sync last listens writes heard agrees =>
    have hlast : t.state.link = last := heard.resolve_right List.not_mem_nil
    have hmounted : t.mounted? label = some sync := by
      rw [ht.bears.sole.mounted? hstays, listens]
      rfl
    obtain ⟨rfl, -⟩ := writes
    have hagrees : sync.plugin = t.state.selection ∨ sync.announcement ∈ t.pending :=
      agrees hlast hready
    refine ⟨sync, hmounted, rfl, hagrees, fun hpending => ?_⟩
    rw [hpending] at hagrees
    exact hagrees.resolve_right List.not_mem_nil

/-- a link that is edited while a plugin is active, and the report that waits -/
theorem link_agrees_edited :
    let s := (Store.new State.initial [] : Store Nat Location).run []
    let t := (s.mount "link" (Synchronizer.new (Location.ofFragment "#p=a") "p" "")).run
      [.dispatch (.navigated "/"), .dispatch (.pluginChanged "b"), .edit "link" "p=c",
        .linkChanged "link"]
    s.nextHandle ∉ left t.trace ∧ t.state.routeReady = true ∧ t.state.selection = "b" ∧
    ∃ sync, t.mounted? "link" = some sync ∧ sync.key = "p" ∧
      (sync.linker.get "p" = t.state.selection ∨
        .linkedPluginChanged (sync.linker.get "p") ∈ t.pending) ∧
      (t.pending = [] → sync.linker.get "p" = t.state.selection) := by
  intro s t
  have hstays : s.nextHandle ∉ left t.trace := by decide +kernel
  have hready : t.state.routeReady = true := by decide +kernel
  have hselection : t.state.selection = "b" := by decide +kernel
  have hreported : Reported "link" ([.dispatch (.navigated "/"), .dispatch (.pluginChanged "b"),
      .edit "link" "p=c", .linkChanged "link"] : List (StoreOp Nat Location)) :=
    .other nofun (.other nofun (.edit "p=c" .nil))
  exact ⟨hstays, hready, hselection, link_agrees_run State.initial [] [] "link" "p"
    (Location.ofFragment "#p=a") _ hreported hstays hready⟩

end TabShell

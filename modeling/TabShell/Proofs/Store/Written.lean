import TabShell.Proofs.Store.Agreement
import TabShell.Proofs.Store.Leaving
/-!
# What a mount writes

A mounted synchronizer is told of the changes of the active plugin and the readiness of the route,
and writes the active plugin whenever it is told of a route.

* `AtRoute`              every write of a piece of a trace was made at a route;
* `Writing`, `Writes`    how far a mount has got with what there is to write, which every step
                         keeps;
* `written_mount`        what is written in every run.
-/

namespace TabShell

variable {V L : Type}

/-! ## at a route -/

/-- every write of a handle in a piece of a trace from `state` on names the active plugin of the
state at that moment, which is at a route -/
def AtRoute (state : State) (k : Nat) (d : List (Happening V)) : Prop :=
  ∀ p w q, d = p ++ .wrote k w :: q →
    ((processed p).foldl reduce state).routeReady = true ∧
      w.value = ((processed p).foldl reduce state).selection

namespace AtRoute

variable {state : State} {k : Nat} {d e : List (Happening V)}

theorem append (hd : AtRoute state k d)
    (he : AtRoute ((processed d).foldl reduce state) k e) : AtRoute state k (d ++ e) := by
  intro p w q h
  rcases List.append_eq_append_iff.mp h with ⟨p', rfl, hsplit⟩ | ⟨c, hsplit, hrest⟩
  · rw [processed_append, List.foldl_append]
    exact he p' w q hsplit
  · rcases List.cons_eq_append_iff.mp hrest with ⟨rfl, hsplit'⟩ | ⟨q', rfl, rfl⟩
    · rw [List.append_nil] at hsplit
      rw [← hsplit]
      exact he [] w q hsplit'
    · exact hd p w q' hsplit

theorem of_forall (he : processed e = [])
    (hw : ∀ w, .wrote k w ∈ e → state.routeReady = true ∧ w.value = state.selection) :
    AtRoute state k e := by
  rintro p w q rfl
  rw [processed_append, List.append_eq_nil_iff] at he
  rw [he.1]
  exact hw w (List.mem_append_right p (List.mem_cons_self ..))

theorem of_writes (h : writes k e = []) : AtRoute state k e := by
  rintro p w q rfl
  rw [writes_append] at h
  simp [writes] at h

theorem storeChanged [DeepLinker L] (sync : Synchronizer L) (state : State)
    (entries : List LogEntry) :
    AtRoute (V := V) state k ((entries.map fun e => .effect (.note e)) ++
      (sync.storeChanged state.link.1 state.link.2).writes.map (.wrote k)) := by
  refine of_forall (by simp [processed, Function.comp_def]) fun w hw => ?_
  rcases List.mem_append.mp hw with hw | hw
  · obtain ⟨entry, -, hentry⟩ := List.mem_map.mp hw
    cases hentry
  · obtain ⟨w', hw', hsame⟩ := List.mem_map.mp hw
    cases hsame
    exact Synchronizer.mem_writes_storeChanged hw'

end AtRoute

/-! ## while mounted -/

/-- what there is to be told of in a piece of a trace from `state` on -/
def linksFrom (state : State) (d : List (Happening V)) : List (Option String × Bool) :=
  (statesFrom state d).map State.link

theorem linksFrom_append (state : State) (d e : List (Happening V)) (he : processed e = []) :
    linksFrom state (d ++ e) = linksFrom state d :=
  congrArg (List.map State.link) (statesFrom_append state d e he)

theorem linksFrom_concat (state : State) (d e : List (Happening V)) (a : Action)
    (he : processed e = [a]) :
    linksFrom state (d ++ e) =
      linksFrom state d ++ [(reduce ((processed d).foldl reduce state) a).link] := by
  unfold linksFrom
  rw [statesFrom_concat state d e a he, List.map_append]
  rfl

theorem getLast?_linksFrom (state : State) (d : List (Happening V)) :
    (linksFrom state d).getLast? = some ((processed d).foldl reduce state).link := by
  unfold linksFrom
  rw [List.getLast?_map, getLast?_statesFrom]
  rfl

/-- how far the mount of a handle has got, in a piece `d` of a trace that begins with it at `state`:
it was told of all that there is but perhaps the last, and then it is still to be told -/
inductive Writing (state : State) (k : Nat) (key default : String) (m : Moment V L)
    (d : List (Happening V)) : Prop
  | here (sync : Synchronizer L) (last : Option String × Bool)
      (listens : m.store.listener? k = some (.mount sync last))
      (links : List (Option String × Bool)) (latest : links.getLast? = some last)
      (told : linksFrom state d = links ∨
        k ∈ m.due ∧ linksFrom state d = links ++ [m.store.state.link])
      (heard : sync.Heard key default (changes links))
      (all : writes k d = writesFor key default (changes links))
  | gone (p q : List (Happening V)) (split : d = p ++ .left k :: q) (first : k ∉ left p)
      (all : writes k p = writesFor key default (changes (linksFrom state p)) ∨
        writes k p = writesFor key default (changes (linksFrom state p).dropLast))

/-- the account of a mount since a store in which it had not come yet -/
structure Writes (base : Store V L) (k : Nat) (key default : String) (m : Moment V L) : Prop where
  orderly : Orderly m.store
  came : k < m.store.nextHandle
  since : ∃ d, m.store.trace = base.trace ++ d ∧
    m.store.state = (processed d).foldl reduce base.state ∧ AtRoute base.state k d ∧
    Writing base.state k key default m d

namespace Writing

variable {state : State} {k : Nat} {key default : String} {m m' : Moment V L}
  {d e : List (Happening V)}

theorem gone_append {p q : List (Happening V)} (split : d = p ++ .left k :: q)
    (first : k ∉ left p)
    (all : writes k p = writesFor key default (changes (linksFrom state p)) ∨
      writes k p = writesFor key default (changes (linksFrom state p).dropLast)) :
    Writing state k key default m (d ++ e) :=
  .gone p (q ++ e) (by rw [split, List.append_assoc]; rfl) first all

theorem bystander (hs : Writing state k key default m d)
    (hlive : ∀ l, m.store.listener? k = some l → k ∉ left d)
    (h : Bystander k m.store m'.store e) (hdue : k ∈ m.due → k ∈ m'.due) :
    Writing state k key default m' (d ++ e) := by
  cases hs with
  | here sync last listens links latest told heard all =>
    rcases h.stays _ listens with hstays | hleft
    · refine .here sync last hstays links latest ?_ heard ?_
      · rw [linksFrom_append state d e h.processed, h.state]
        exact told.imp id (And.imp hdue id)
      · rw [writes_append, h.writes, List.append_nil, all]
    · obtain ⟨p, q, rfl, hp⟩ := List.eq_append_cons_of_mem (mem_left.mp hleft)
      have hprocessed := h.processed
      have hwrites := h.writes
      rw [processed_append, List.append_eq_nil_iff] at hprocessed
      rw [writes_append, List.append_eq_nil_iff] at hwrites
      refine .gone (d ++ p) q (by rw [List.append_assoc]) ?_ ?_
      · rw [left_append, List.mem_append]
        exact not_or.mpr ⟨hlive _ listens, mt mem_left.mp hp⟩
      · rw [linksFrom_append state d p hprocessed.1, writes_append, hwrites.1, List.append_nil, all]
        -- it may be dropped in the cycle of a state that it was not told of yet
        rcases told with hall | ⟨-, hbehind⟩
        · exact .inl (by rw [hall])
        · exact .inr (by rw [hbehind, List.dropLast_concat])
  | gone p q split first all => exact gone_append split first all

theorem advance (hs : Writing state k key default m d) (hdue : m.due = [])
    (hstate : m.store.state = (processed d).foldl reduce state) {a : Action}
    (hstate' : m'.store.state = reduce m.store.state a)
    (hlistens : m'.store.listener? k = m.store.listener? k) (hdue' : m'.due = m.store.handles)
    (hprocessed : processed e = [a]) (hwrites : writes k e = []) :
    Writing state k key default m' (d ++ e) := by
  cases hs with
  | here sync last listens links latest told heard all =>
    have hlinks : linksFrom state d = links := by
      rw [hdue] at told
      exact told.resolve_right fun h => List.not_mem_nil h.1
    refine .here sync last (hlistens.trans listens) links latest (.inr ⟨?_, ?_⟩) heard ?_
    · rw [hdue']
      exact Store.mem_handles_of_listener? listens
    · rw [linksFrom_concat state d e a hprocessed, hlinks, hstate', hstate]
    · rw [writes_append, hwrites, List.append_nil, all]
  | gone p q split first all => exact gone_append split first all

variable [DeepLinker L]

/-- the mount is told of the state and writes what there is to write -/
theorem write {s t : Store V L} {due : List Nat} (hs : Writing state k key default ⟨s, k :: due⟩ d)
    (hlive : ∀ l, s.listener? k = some l → k ∉ left d)
    (hstate : s.state = (processed d).foldl reduce state) {sync : Synchronizer L}
    {last : Option String × Bool} (listens : s.listener? k = some (.mount sync last))
    (changed : s.state.link ≠ last)
    (hlistens : t.listener? k =
      some (.mount (sync.storeChanged s.state.link.1 s.state.link.2).sync s.state.link))
    (hprocessed : processed e = [])
    (hwrites : writes k e = (sync.storeChanged s.state.link.1 s.state.link.2).writes) :
    Writing state k key default ⟨t, due⟩ (d ++ e) := by
  cases hs with
  | here sync' last' listens' links latest told heard all =>
    cases listens.symm.trans listens'
    have hbehind : linksFrom state d = links ++ [s.state.link] := by
      -- had it been told of all, the link that it heard last would be the one of the state
      rcases told with hall | ⟨-, hbehind⟩
      · have hlast := getLast?_linksFrom state d
        rw [hall, latest, ← hstate] at hlast
        exact absurd (Option.some.inj hlast).symm changed
      · exact hbehind
    have hmore : changes (links ++ [s.state.link]) = changes links ++ [s.state.link] :=
      changes_concat_of_ne latest changed
    obtain ⟨hheard, hwritten⟩ := heard.storeChanged s.state.link
    refine .here _ s.state.link hlistens (links ++ [s.state.link]) List.getLast?_concat ?_ ?_ ?_
    · rw [linksFrom_append state d e hprocessed]
      exact .inl hbehind
    · rw [hmore]
      exact hheard
    · rw [hmore, hwritten, writes_append, all, hwrites]
  | gone p q split first all => exact absurd (mem_left_of_split split) (hlive _ listens)

theorem edit {s : Store V L} (hs : Writing state k key default ⟨s, []⟩ d) (label text : String) :
    Writing state k key default ⟨s.edit label text, []⟩ d := by
  cases hs with
  | here sync last listens links latest told heard all =>
    rcases Store.listener?_edit_mount listens label text with hlistens | hlistens
    · exact .here sync last hlistens links latest told heard all
    · exact .here (sync.edit text) last hlistens links latest told (heard.edit text) all
  | gone p q split first all => exact .gone p q split first all

variable [DecidableEq V]

/-- a turn of the mount, with what it adds to the trace -/
theorem turn (hs : Writing state k key default m d)
    (hlive : ∀ l, m.store.listener? k = some l → k ∉ left d)
    (hstate : m.store.state = (processed d).foldl reduce state) (h : Turn k m m') :
    ∃ e, m'.store.trace = m.store.trace ++ e ∧
      m'.store.state = (processed e).foldl reduce m.store.state ∧
      AtRoute m.store.state k e ∧ Writing state k key default m' (d ++ e) := by
  cases h with
  | pass s due current =>
    refine ⟨[], (List.append_nil _).symm, rfl, .of_writes rfl, ?_⟩
    rw [List.append_nil]
    cases hs with
    | here sync last listens links latest told heard all =>
      rcases told with hall | ⟨-, hbehind⟩
      · exact .here sync last listens links latest (.inl hall) heard all
      · -- the link is the one heard last, so the state that was still to be told adds no change
        have hsame : s.state.link = last := current _ listens
        have hmore : changes (links ++ [s.state.link]) = changes links :=
          changes_concat_of_eq (latest.trans (congrArg some hsame.symm))
        refine .here sync last listens (links ++ [s.state.link]) ?_ (.inl hbehind) ?_ ?_
        · rw [List.getLast?_concat, hsame]
        · rw [hmore]
          exact heard
        · rw [hmore, all]
    | gone p q split first all => exact .gone p q split first all
  | hear s due label project last' reactions listens' changed =>
    cases hs with
    | here sync last listens links latest told heard all => cases listens.symm.trans listens'
    | gone p q split first all => exact absurd (mem_left_of_split split) (hlive _ listens')
  | write s due sync last listens changed =>
    refine ⟨_, List.append_assoc .., ?_, .storeChanged sync s.state _, ?_⟩
    · rw [processed_append]
      simp [processed, Function.comp_def]
      rfl
    · refine hs.write hlive hstate listens changed ?_ ?_ ?_
      · rw [Store.listener?_record, Store.listener?_note, Store.listener?_update_self, listens]
        rfl
      · simp [processed, Function.comp_def]
      · simp [writes, Function.comp_def]
  | take s a rest waits =>
    have hwrites : writes k (.processed .queued a ::
        (transitionEffects s.observers s.state a).map (.effect : Effect → Happening V)) = [] := by
      simp [writes]
    refine ⟨_, Store.trace_advance (s.dequeued rest) .queued a, ?_, .of_writes hwrites, ?_⟩
    · rw [processed_action]
      rfl
    · exact hs.advance rfl hstate rfl (Store.listener?_advance _ .queued a k) rfl
        (processed_action ..) hwrites

end Writing

namespace Writes

variable {base : Store V L} {k : Nat} {key default : String}

theorem opens {s : Store V L} (hs : Writes base k key default ⟨s, []⟩) (a : Action) :
    Writes base k key default ⟨s.advance .dispatched a, s.handles⟩ := by
  obtain ⟨horderly, hcame, d, htrace, hstate, hroute, hwriting⟩ := hs
  have hprocessed := processed_action (V := V) .dispatched a
    (transitionEffects s.observers s.state a)
  have hwrites : writes k (.processed .dispatched a ::
      (transitionEffects s.observers s.state a).map (.effect : Effect → Happening V)) = [] := by
    simp [writes]
  refine ⟨horderly.advance .dispatched a, hcame, d ++ _, ?_, ?_, hroute.append (.of_writes hwrites),
    hwriting.advance rfl hstate rfl (Store.listener?_advance s .dispatched a k) rfl hprocessed
      hwrites⟩
  · rw [← List.append_assoc, ← htrace]
    rfl
  · rw [processed_append, List.foldl_append, ← hstate, hprocessed]
    rfl

variable [DeepLinker L]

theorem edit {s : Store V L} (hs : Writes base k key default ⟨s, []⟩) (label text : String) :
    Writes base k key default ⟨s.edit label text, []⟩ := by
  obtain ⟨horderly, hcame, d, htrace, hstate, hroute, hwriting⟩ := hs
  exact ⟨horderly.edit label text, hcame, d, htrace, hstate, hroute, hwriting.edit label text⟩

/-- the account begins when the mount joins the others, having been told of the state -/
theorem joins {s : Store V L} (hs : Orderly s) (label : String) (linker : L)
    (key default : String) :
    Writes s s.nextHandle key default
      ⟨(s.greeted (Synchronizer.new linker key default)).join label
        (.mount ((Synchronizer.new linker key default).storeChanged s.state.link.1
          s.state.link.2).sync s.state.link), []⟩ := by
  let sync := Synchronizer.new linker key default
  let entries := (sync.storeChanged s.state.link.1 s.state.link.2).entries
  let written := (sync.storeChanged s.state.link.1 s.state.link.2).writes
  have hfresh : s.nextHandle ∉ left (s.note entries).trace := by
    rw [Store.trace_note, left_append, List.mem_append]
    exact not_or.mpr ⟨fun h => Nat.lt_irrefl _ (hs.roster.left_lt _ h),
      (Absent.of_forall (handle?_note entries)).notMem_left⟩
  have hgreeted : Orderly (s.greeted sync) := (hs.aside (.note s entries)).wrote hfresh written
  let greeting : List (Happening V) :=
    (entries.map fun e => .effect (.note e)) ++ written.map (.wrote s.nextHandle)
  have hprocessed : processed (greeting ++ [.joined s.nextHandle]) = [] := by
    simp [greeting, processed, Function.comp_def]
  have hroute : AtRoute s.state s.nextHandle (greeting ++ [.joined s.nextHandle]) :=
    (AtRoute.storeChanged sync s.state entries).append (.of_writes rfl)
  obtain ⟨hheard, hwritten⟩ := (Synchronizer.Heard.new linker key default).storeChanged s.state.link
  refine ⟨hgreeted.join label _, Nat.lt_succ_self _, greeting ++ [.joined s.nextHandle], ?_, ?_,
    hroute, ?_⟩
  · show s.trace ++ _ ++ _ ++ _ = s.trace ++ (_ ++ _ ++ _)
    rw [List.append_assoc, List.append_assoc, List.append_assoc]
    rfl
  · rw [hprocessed]
    rfl
  · refine .here _ s.state.link (Store.listener?_join_self hgreeted.roster.fresh label _)
      [s.state.link] rfl (.inl ?_) hheard ?_
    · exact linksFrom_append s.state [] _ hprocessed
    · refine Eq.trans ?_ hwritten.symm
      simp [writes, greeting, written, sync, writesFor, Function.comp_def]

variable [DecidableEq V]

theorem step {m m' : Moment V L} (hm : Writes base k key default m) (h : Step m m') :
    Writes base k key default m' := by
  obtain ⟨horderly, hcame, d, htrace, hstate, hroute, hwriting⟩ := hm
  refine ⟨horderly.step h, hcame.trans_le h.nextHandle_le, ?_⟩
  have hlive : ∀ l, m.store.listener? k = some l → k ∉ left d :=
    fun _ hl => horderly.roster.notMem_left htrace hl
  rcases h.of_handle (Nat.ne_of_lt hcame) with ⟨e, he, hdue⟩ | hturn
  · refine ⟨d ++ e, by rw [he.trace, htrace, List.append_assoc], ?_,
      hroute.append (.of_writes he.writes), hwriting.bystander hlive he hdue⟩
    rw [he.state, hstate, processed_append, he.processed, List.append_nil]
  · obtain ⟨e, htrace', hstate', hroute', hwriting'⟩ := hwriting.turn hlive hstate hturn
    rw [hstate] at hstate' hroute'
    refine ⟨d ++ e, by rw [htrace', htrace, List.append_assoc], ?_, hroute.append hroute',
      hwriting'⟩
    rw [hstate', processed_append, List.foldl_append]

end Writes

variable [DeepLinker L] [DecidableEq V]

/-- **What a mount writes.**  As long as it is mounted, a synchronizer has written exactly this: of
the active plugin and the readiness of the route, in the state in which it was mounted and after
each action that was processed since, the changes; of these, those at a route; and of them the
plugin, under its key and with its default, the first in place of the current entry.  Once it is
dropped it writes nothing; until then it has written all of that, unless it was dropped in the
middle of a cycle and before its turn, and then all but what the last state adds.  It is dropped
when its label is unmounted, by a call or by a reaction at any moment that follows, or mounted anew.
Every write names the active plugin of a state at a route, and the linker keeps what is written. -/
theorem written_mount (state : State) (observers : List Observer) (before : List (StoreOp V L))
    (label : String) (linker : L) (key default : String) (ops : List (StoreOp V L)) :
    let s := (Store.new state observers : Store V L).run before
    let k := s.nextHandle
    let mounted := s.mount label (Synchronizer.new linker key default)
    let t := mounted.run ops
    Named true k label mounted ∧ Reached ⟨mounted, []⟩ ⟨t, []⟩ ∧
    ∃ d, t.trace = s.trace ++ d ∧
      (k ∉ left d → writes k d = writesFor key default (changes (linksFrom s.state d))) ∧
      (k ∈ left d → ∃ p q, d = p ++ .left k :: q ∧ k ∉ left p ∧ writes k q = [] ∧
        (writes k p = writesFor key default (changes (linksFrom s.state p)) ∨
          writes k p = writesFor key default (changes (linksFrom s.state p).dropLast))) ∧
      (∀ p w q, d = p ++ .wrote k w :: q →
        ((processed p).foldl reduce s.state).routeReady = true ∧
          w.value = ((processed p).foldl reduce s.state).selection) ∧
      ∀ (sync : Synchronizer L) (plugin : Option String) (ready : Bool),
        (sync.storeChanged plugin ready).sync.linker =
          (sync.storeChanged plugin ready).writes.foldl DeepLinker.set sync.linker := by
  intro s k mounted t
  have hs : Orderly s := (reached_run _ before).orderly.1
  have hnamed : Named true k label mounted := (bears_mount hs.roster label _).named
    (mem_handles_mount s label _)
  have hmounted : Writes s k key default ⟨mounted, []⟩ :=
    (Store.steps_mount_joined _ label k).preserve (fun _ _ h hm => hm.step h)
      (Writes.joins hs label linker key default)
  have hrun : Writes s k key default ⟨t, []⟩ :=
    Store.run_induction (fun _ _ h hm => hm.step h) (fun _ a hm => hm.opens a)
      (fun _ name text hm => hm.edit name text) hmounted ops
  obtain ⟨horderly, -, d, htrace, -, hroute, hwriting⟩ := hrun
  refine ⟨hnamed, reached_run mounted ops, d, htrace, ?_, ?_, hroute,
    Synchronizer.linker_storeChanged⟩
  · intro hhere
    cases hwriting with
    | here sync last listens links latest told heard all =>
      rw [told.resolve_right fun h => List.not_mem_nil h.1, all]
    | gone p q split first all => exact absurd (mem_left_of_split split) hhere
  · intro hleft
    cases hwriting with
    | here sync last listens links latest told heard all =>
      exact absurd hleft (horderly.roster.notMem_left htrace listens)
    | gone p q split first all =>
      have hsplit : t.trace = (s.trace ++ p) ++ .left k :: q := by
        rw [htrace, split, List.append_assoc]
      exact ⟨p, q, split, first, (horderly.after k _ q hsplit).2.writes_eq, all⟩

/-- what is chosen while no route is active is written when there is one again -/
example :
    let s : Store Empty Remembered := Store.new State.initial []
    let t := (s.mount "link" (Synchronizer.new ⟨""⟩ "p" "")).run
      [.dispatch (.pluginChanged "a"), .dispatch (.navigated "/"), .dispatch .routeCleared,
        .dispatch (.pluginChanged "b"), .dispatch (.navigated "/")]
    writes 0 t.trace = [⟨"p", "a", true, ""⟩, ⟨"p", "b", false, ""⟩] := by
  decide +kernel

end TabShell

import TabShell.Session
import TabShell.Proofs.Store.Tick
import TabShell.Proofs.Store.Views
/-!
# A session between two commands

The mount of the address is the only subscriber of a session.  Between two commands it has heard of
the state and nothing waits, so a command that dispatches an action does no more than process it and
tell the mount, and an edit of the address is one report that is processed.

* `Settled`          a session between two commands, with the synchronizer of its mount;
* `acted`            the session after one action, spelt out;
* `dispatch_settled`, `hash_settled`   what commands make of a settled session;
* `after_cases`      the same for every command;
* `settled_start`, `settled_after`     a session is settled from the beginning and stays so;
* `afterAll_induction`                 what an action and an edit that is reported preserve, any
                                       commands preserve.
-/

namespace TabShell

/-- a synchronizer when the state has changed: it is told if what it follows has changed -/
def Synchronizer.hear {L : Type} [DeepLinker L] (sync : Synchronizer L) (before after : State) :
    Synchronizer L :=
  if after.link = before.link then sync else (sync.storeChanged after.link.1 after.link.2).sync

namespace Session

/-- the mount of the address as it listens in a state -/
def mounted (sync : Synchronizer Location) (state : State) : Subscriber Empty Location :=
  ⟨0, address, true, .mount sync state.link⟩

/-- between two commands the mount has heard of the state, and nothing waits -/
structure Settled (s : Session) (sync : Synchronizer Location) : Prop where
  entries : s.entries = [⟨true, mounted sync s.state⟩]
  pending : s.pending = []

theorem Settled.subscribers {s : Session} {sync : Synchronizer Location} (h : Settled s sync) :
    s.subscribers = [mounted sync s.state] := by
  unfold Store.subscribers
  rw [h.entries]
  rfl

/-- what a mount adds to the trace when the state has changed -/
def told (sync : Synchronizer Location) (before after : State) : List (Happening Empty) :=
  if after.link = before.link then []
  else
    let r := sync.storeChanged after.link.1 after.link.2
    r.entries.map (fun e => .effect (.note e)) ++ r.writes.map (.wrote 0)

/-- what one action adds to the trace of a session -/
def news (s : Session) (sync : Synchronizer Location) (o : Origin) (a : Action) :
    List (Happening Empty) :=
  .processed o a :: (transitionEffects s.observers s.state a).map .effect ++
    told sync s.state (reduce s.state a)

/-- a session after one action -/
def acted (s : Session) (sync : Synchronizer Location) (o : Origin) (a : Action) : Session :=
  { s with
    state := reduce s.state a
    observers := s.observers.map (·.next a)
    pending := []
    entries := [⟨true, mounted (sync.hear s.state (reduce s.state a)) (reduce s.state a)⟩]
    trace := s.trace ++ s.news sync o a }

variable {s : Session} {sync : Synchronizer Location}

theorem settled_acted (s : Session) (sync : Synchronizer Location) (o : Origin) (a : Action) :
    Settled (s.acted sync o a) (sync.hear s.state (reduce s.state a)) :=
  ⟨rfl, rfl⟩

theorem process_settled (h : Settled s sync) (o : Origin) (a : Action) :
    s.process o a = s.acted sync o a := by
  obtain ⟨hentries, hpending⟩ := h
  have hadvance : (s.advance o a).entries = [⟨true, mounted sync s.state⟩] := by
    show s.entries.filter (·.active) = _
    rw [hentries]
    rfl
  unfold Store.process
  rw [hadvance]
  show (s.advance o a).notify 0 = _
  unfold Store.notify
  rw [hadvance]
  show (if (reduce s.state a).link = s.state.link then _ else _) = _
  -- the mount is told only if what it follows has changed
  by_cases hsame : (reduce s.state a).link = s.state.link
  · have hhear : sync.hear s.state (reduce s.state a) = sync := if_pos hsame
    have htold : told sync s.state (reduce s.state a) = [] := if_pos hsame
    have hmounted : mounted sync (reduce s.state a) = mounted sync s.state := by
      unfold mounted
      rw [hsame]
    rw [if_pos hsame]
    unfold acted news
    rw [hhear, htold, hmounted, List.append_nil, ← hadvance, ← hpending]
    rfl
  · have hhear : sync.hear s.state (reduce s.state a) = _ := if_neg hsame
    have htold : told sync s.state (reduce s.state a) = _ := if_neg hsame
    rw [if_neg hsame]
    unfold acted news
    rw [hhear, htold]
    have hupdate : ∀ f, ((s.advance o a).update 0 f).entries =
        [⟨true, (mounted sync s.state).relisten f⟩] := by
      intro f
      unfold Store.update
      rw [hadvance]
      rfl
    simp only [Store.note, Store.record, Store.advance, Store.update, hpending,
      List.append_assoc] at hupdate ⊢
    rw [hupdate]
    rfl

theorem dispatch_settled (h : Settled s sync) (a : Action) :
    s.dispatch a = s.acted sync .dispatched a := by
  unfold Store.dispatch
  rw [process_settled h]
  exact Store.drain_of_pending_nil rfl

/-- the session when its address has been edited and the report has been noted -/
def edited (s : Session) (sync : Synchronizer Location) (fragment : String) : Session :=
  { s with
    entries := [⟨true, mounted (sync.edit fragment) s.state⟩]
    trace := s.trace ++ [.effect (.note (sync.edit fragment).announcementEntry),
      .queued (sync.edit fragment).announcement] }

theorem hash_settled (h : Settled s sync) (fragment : String) :
    s.after (.hash fragment) =
      (s.edited sync fragment).acted (sync.edit fragment) .queued
        (sync.edit fragment).announcement := by
  obtain ⟨hentries, hpending⟩ := h
  have hedit : (s.edit address fragment).entries =
      [⟨true, mounted (sync.edit fragment) s.state⟩] := by
    show s.entries.map _ = _
    rw [hentries]
    rfl
  have hmounted : (s.edit address fragment).mounted? address = some (sync.edit fragment) := by
    unfold Store.mounted? Store.subscribers
    rw [hedit]
    rfl
  have hreported : (s.edit address fragment).linkChanged address =
      { s.edited sync fragment with pending := [(sync.edit fragment).announcement] } := by
    unfold Store.linkChanged
    rw [hmounted]
    simp only [Store.note, Store.record, Store.queue, edited, hedit, hpending]
    simp [Store.edit, Store.alter, hpending]
  have hsettled : Settled (s.edited sync fragment) (sync.edit fragment) := ⟨rfl, hpending⟩
  show Store.drain _ = _
  -- the report is the only action that waits, and processing it leaves none
  rw [hreported, Store.drain_of_pending_cons rfl]
  have hdequeued : Store.dequeued { s.edited sync fragment with
      pending := [(sync.edit fragment).announcement] } [] = s.edited sync fragment := by
    show { s.edited sync fragment with pending := [] } = _
    rw [← hsettled.pending]
  rw [hdequeued, process_settled hsettled]
  exact Store.drain_of_pending_nil rfl

/-- the first mount of a store that is at no route, where nobody listens and nothing waits -/
theorem settled_mount {s : Session} (hentries : s.entries = []) (hpending : s.pending = [])
    (hnext : s.nextHandle = 0) (hroute : s.state.routeReady = false)
    (sync : Synchronizer Location) :
    Settled (s.mount address sync) sync ∧ (s.mount address sync).state = s.state ∧
      (s.mount address sync).trace = s.trace ++ [.joined 0] := by
  have htold : sync.storeChanged s.state.link.1 s.state.link.2 = ⟨sync, [], []⟩ := by
    show sync.storeChanged s.state.link.1 s.state.routeReady = _
    rw [hroute]
    rfl
  have hgreeted : s.greeted sync = s := by
    unfold Store.greeted
    rw [htold]
    simp [Store.note, Store.record]
  have hjoined : (s.join address (.mount sync s.state.link)).entries =
      [⟨true, ⟨0, address, false, .mount sync s.state.link⟩⟩] := by
    unfold Store.join
    rw [hentries, hnext]
    rfl
  have hdrain : (s.join address (.mount sync s.state.link)).drain =
      s.join address (.mount sync s.state.link) := Store.drain_of_pending_nil hpending
  rw [Store.mount_eq, hgreeted, htold, hdrain, hnext]
  refine ⟨⟨?_, hpending⟩, rfl, ?_⟩
  · show (List.map _ (List.map _ (s.join address _).entries) : List (Entry _ _)) = _
    rw [hjoined]
    rfl
  · show s.trace ++ [.joined s.nextHandle] ++
      ((Entry.live (s.join address _).entries).filter _).map _ = _
    rw [hjoined, hnext]
    exact List.append_nil _

theorem routeReady_withReloadPeriod (period : UInt64) :
    (State.withReloadPeriod period).routeReady = false := by
  unfold State.withReloadPeriod
  split <;> rfl

theorem settled_start (c : Config) :
    Settled (start c) (.new Location.empty c.pluginKey c.defaultValue) ∧
      (start c).state = State.withReloadPeriod c.reloadPeriod ∧
      (start c).trace = (registrations c.deployment.observers).map (fun e => .effect (.note e)) ++
        [.joined 0] :=
  settled_mount rfl rfl rfl (routeReady_withReloadPeriod c.reloadPeriod) _

theorem location_settled (h : Settled s sync) : s.location = sync.linker := by
  unfold location Store.mounted?
  rw [h.subscribers]
  rfl

/-- what does not dispatch and does not edit the address leaves the session as it is -/
theorem after_of_action?_eq_none (s : Session) {c : Command} (hc : ∀ f, c ≠ .hash f)
    (h : action? c = none) : s.after c = s := by
  cases c with
  | hash f => exact absurd rfl (hc f)
  | state | location | quit => rfl
  | _ => cases h

theorem after_of_action? (s : Session) {c : Command} {a : Action} (h : action? c = some a) :
    s.after c = s.dispatch a := by
  cases c with
  | hash f | state | location | quit => cases h
  | _ =>
    cases h
    rfl

/-- a session after commands, one after the other -/
def afterAll (s : Session) (cs : List Command) : Session := cs.foldl after s

/-- what a command makes of sessions that are settled alike: nothing, one action, or an edit and the
action that reports it -/
theorem after_cases (sync : Synchronizer Location) (c : Command) :
    (∀ t : Session, Settled t sync → t.after c = t) ∨
    (∃ a, ∀ t : Session, Settled t sync → t.after c = t.acted sync .dispatched a) ∨
    (∃ f, ∀ t : Session, Settled t sync → t.after c =
      (t.edited sync f).acted (sync.edit f) .queued (sync.edit f).announcement) := by
  by_cases hc : ∃ f, c = .hash f
  · obtain ⟨f, rfl⟩ := hc
    exact .inr (.inr ⟨f, fun t ht => hash_settled ht f⟩)
  · have hno : ∀ f, c ≠ .hash f := fun f hf => hc ⟨f, hf⟩
    cases ha : action? c with
    | none => exact .inl fun t _ => after_of_action?_eq_none t hno ha
    | some a =>
      refine .inr (.inl ⟨a, fun t ht => ?_⟩)
      rw [after_of_action? t ha, dispatch_settled ht]

theorem settled_after (h : Settled s sync) (c : Command) :
    ∃ sync', Settled (s.after c) sync' := by
  rcases after_cases sync c with hc | ⟨a, hc⟩ | ⟨f, hc⟩
  · exact ⟨sync, by rw [hc s h]; exact h⟩
  · exact ⟨_, by rw [hc s h]; exact settled_acted ..⟩
  · exact ⟨_, by rw [hc s h]; exact settled_acted ..⟩

/-- what an action and an edit that is reported preserve, any commands preserve -/
theorem afterAll_induction {P : Session → Synchronizer Location → Prop}
    (settled : ∀ s sync, P s sync → Settled s sync)
    (acted : ∀ s sync o a, P s sync →
      P (s.acted sync o a) (sync.hear s.state (reduce s.state a)))
    (edited : ∀ s sync f, P s sync →
      P ((s.edited sync f).acted (sync.edit f) .queued (sync.edit f).announcement)
        ((sync.edit f).hear s.state (reduce s.state (sync.edit f).announcement)))
    (h : P s sync) (cs : List Command) : ∃ sync', P (s.afterAll cs) sync' := by
  induction cs generalizing s sync with
  | nil => exact ⟨sync, h⟩
  | cons c cs ih =>
    have hafter : ∃ sync', P (s.after c) sync' := by
      rcases after_cases sync c with hc | ⟨a, hc⟩ | ⟨f, hc⟩
      · rw [hc s (settled s sync h)]
        exact ⟨sync, h⟩
      · rw [hc s (settled s sync h)]
        exact ⟨_, acted s sync .dispatched a h⟩
      · rw [hc s (settled s sync h)]
        exact ⟨_, edited s sync f h⟩
    obtain ⟨sync', h'⟩ := hafter
    exact ih h'

end Session

end TabShell

import Mathlib.Data.List.Basic
import TabShell.Proofs.Session.Settled
import TabShell.Proofs.Telemetry.Levels
/-!
# Commands one after the other

What commands make of a session does not depend on what its log says of skipped lines.

* `perform`         commands in order, up to the first that ends the session;
* `perform_append`, `perform_looks`   the commands cut in two, and those that only print;
* `skips`, `hushed`   the skipped lines that a trace speaks of, and a session that does not;
* `hushed_after`    a command to a session that is hushed;
* `skip?_logged`    what the log says of skipped lines, wherever events go.
-/

namespace TabShell

/-- the number of the line that an entry of the log says was skipped, and what was wrong with it -/
def LogEntry.skip? : LogEntry → Option (Nat × CommandError)
  | lineSkipped number e => some (number, e)
  | _ => none

/-- what is logged for debugging tells of no line -/
theorem LogEntry.skip?_of_debug {entry : LogEntry} (h : entry.level = .debug) :
    entry.skip? = none := by
  cases entry with
  | lineSkipped number e => cases h
  | _ => rfl

def Happening.skip? {V : Type} : Happening V → Option (Nat × CommandError)
  | .effect (.note entry) => entry.skip?
  | _ => none

/-- the skipped lines that a trace speaks of -/
def skips {V : Type} (t : List (Happening V)) : List (Nat × CommandError) :=
  t.filterMap Happening.skip?

/-- the trace without them -/
def hush {V : Type} (t : List (Happening V)) : List (Happening V) :=
  t.filter fun x => x.skip?.isNone

/-- a sink says nothing of skipped lines -/
theorem skip?_logged (sink : Sink) (es : List Effect) :
    (sink.logged es).filterMap LogEntry.skip? = (noted es).filterMap LogEntry.skip? := by
  induction es with
  | nil => rfl
  | cons e es ih =>
    have hlogged : sink.logged (e :: es) = sink.entriesOf e ++ sink.logged es := rfl
    rw [hlogged, List.filterMap_append, ih]
    cases e with
    | note entry => exact (List.filterMap_append (l := [entry])).symm
    | send event =>
      have hsilent : (sink.entries event).filterMap LogEntry.skip? = [] := by
        cases sink with
        | log pagePath =>
          unfold Sink.entries Sink.send Sink.report
          cases event.category <;> rfl
        | _ => rfl
      show (sink.entries event).filterMap LogEntry.skip? ++ _ = _
      rw [hsilent]
      rfl

theorem skips_eq {V : Type} (t : List (Happening V)) :
    skips t = (noted (effects t)).filterMap LogEntry.skip? := by
  unfold skips noted effects
  rw [List.filterMap_filterMap, List.filterMap_filterMap]
  refine List.filterMap_congr fun x _ => ?_
  cases x with
  | effect e => cases e <;> rfl
  | _ => rfl

namespace Session

/-- commands in order, up to and including the first that ends the session -/
def perform (s : Session) : List Command → Outcome
  | [] => ⟨s, "", true⟩
  | c :: cs =>
    let o := s.apply c
    if o.goesOn then
      let rest := o.session.perform cs
      ⟨rest.session, o.out ++ rest.out, rest.goesOn⟩
    else o

theorem perform_cons (s : Session) {c : Command} (hc : c ≠ .quit) (cs : List Command) :
    s.perform (c :: cs) =
      ⟨((s.after c).perform cs).session, s.printed c ++ ((s.after c).perform cs).out,
        ((s.after c).perform cs).goesOn⟩ :=
  if_pos (decide_eq_true hc)

theorem perform_quit (s : Session) (cs : List Command) :
    s.perform (.quit :: cs) = ⟨s, "", false⟩ := rfl

theorem perform_append (s : Session) {cs : List Command} (hcs : .quit ∉ cs) (ds : List Command) :
    s.perform (cs ++ ds) =
      ⟨((s.perform cs).session.perform ds).session,
        (s.perform cs).out ++ ((s.perform cs).session.perform ds).out,
        ((s.perform cs).session.perform ds).goesOn⟩ := by
  induction cs generalizing s with
  | nil =>
    show s.perform ds = ⟨_, "" ++ (s.perform ds).out, _⟩
    rw [String.empty_append]
    rfl
  | cons c cs ih =>
    have hc : c ≠ .quit := fun hc => hcs (hc ▸ List.mem_cons_self ..)
    have hrest := ih (s.after c) fun h => hcs (List.mem_cons_of_mem c h)
    rw [List.cons_append, perform_cons s hc, perform_cons s hc, hrest, String.append_assoc]

theorem perform_looks (s : Session) {cs : List Command}
    (hcs : ∀ c ∈ cs, c = .state ∨ c = .location) :
    s.perform cs = ⟨s, String.join (cs.map s.printed), true⟩ := by
  induction cs with
  | nil => rfl
  | cons c cs ih =>
    have hafter : s.after c = s ∧ c ≠ .quit := by
      rcases hcs c (List.mem_cons_self ..) with rfl | rfl <;> exact ⟨rfl, nofun⟩
    rw [perform_cons s hafter.2, hafter.1, ih fun d hd => hcs d (List.mem_cons_of_mem c hd),
      List.map_cons, String.join_cons]

/-! ## sessions whose log is silent about skipped lines -/

/-- the session whose trace does not speak of skipped lines -/
def hushed (s : Session) : Session := { s with trace := hush s.trace }

theorem hush_append (t u : List (Happening Empty)) : hush (t ++ u) = hush t ++ hush u :=
  List.filter_append ..

theorem hush_of_forall {t : List (Happening Empty)} (h : ∀ x ∈ t, x.skip? = none) : hush t = t :=
  List.filter_eq_self.mpr fun x hx => by rw [h x hx]; rfl

theorem skips_append (t u : List (Happening Empty)) : skips (t ++ u) = skips t ++ skips u :=
  List.filterMap_append ..

theorem skips_of_forall {t : List (Happening Empty)} (h : ∀ x ∈ t, x.skip? = none) :
    skips t = [] :=
  List.filterMap_eq_nil_iff.mpr h

variable {s : Session} {sync : Synchronizer Location}

theorem skip?_transitionEffects (observers : List Observer) (x : State) (a : Action) :
    ∀ e ∈ transitionEffects observers x a, (Happening.effect (V := Empty) e).skip? = none := by
  intro e he
  cases e with
  | note entry => exact LogEntry.skip?_of_debug (level_of_mem_transitionEffects he)
  | send event => rfl

theorem skip?_told (sync : Synchronizer Location) (before after : State) :
    ∀ x ∈ told sync before after, x.skip? = none := by
  intro x hx
  unfold told at hx
  split at hx
  · cases hx
  · rcases List.mem_append.mp hx with hx | hx
    · obtain ⟨entry, hentry, rfl⟩ := List.mem_map.mp hx
      exact LogEntry.skip?_of_debug (level_of_mem_storeChanged hentry)
    · obtain ⟨w, -, rfl⟩ := List.mem_map.mp hx
      rfl

theorem skip?_news (s : Session) (sync : Synchronizer Location) (o : Origin) (a : Action) :
    ∀ x ∈ s.news sync o a, x.skip? = none := by
  intro x hx
  rcases List.mem_append.mp hx with hx | hx
  · rcases List.mem_cons.mp hx with rfl | hx
    · rfl
    · obtain ⟨e, he, rfl⟩ := List.mem_map.mp hx
      exact skip?_transitionEffects s.observers s.state a e he
  · exact skip?_told sync s.state (reduce s.state a) x hx

theorem Settled.hushed (h : Settled s sync) : Settled s.hushed sync := ⟨h.entries, h.pending⟩

theorem Settled.note (h : Settled s sync) (entries : List LogEntry) :
    Settled (s.note entries) sync := ⟨h.entries, h.pending⟩

theorem hushed_acted (s : Session) (sync : Synchronizer Location) (o : Origin) (a : Action) :
    (s.acted sync o a).hushed = s.hushed.acted sync o a := by
  unfold acted hushed
  simp only [hush_append]
  rw [hush_of_forall (skip?_news s sync o a)]
  rfl

theorem hushed_edited (s : Session) (sync : Synchronizer Location) (fragment : String) :
    (s.edited sync fragment).hushed = s.hushed.edited sync fragment := by
  unfold edited hushed
  simp only [hush_append]
  rfl

/-- what a command does is the same to a session that is hushed -/
theorem hushed_after (h : Settled s sync) (c : Command) : (s.after c).hushed = s.hushed.after c := by
  rcases after_cases sync c with hc | ⟨a, hc⟩ | ⟨f, hc⟩
  · rw [hc s h, hc s.hushed h.hushed]
  · rw [hc s h, hc s.hushed h.hushed, hushed_acted]
  · rw [hc s h, hc s.hushed h.hushed, hushed_acted, hushed_edited]

theorem skips_acted (s : Session) (sync : Synchronizer Location) (o : Origin) (a : Action) :
    skips (s.acted sync o a).trace = skips s.trace := by
  show skips (s.trace ++ s.news sync o a) = _
  rw [skips_append, skips_of_forall (skip?_news s sync o a), List.append_nil]

theorem skips_after (h : Settled s sync) (c : Command) :
    skips (s.after c).trace = skips s.trace := by
  rcases after_cases sync c with hc | ⟨a, hc⟩ | ⟨f, hc⟩
  · rw [hc s h]
  · rw [hc s h, skips_acted]
  · rw [hc s h, skips_acted]
    show skips (s.trace ++ _) = _
    rw [skips_append]
    exact List.append_nil _

end Session

end TabShell

import TabShell.Store.Run
/-!
# What operations add to a trace

Every view of a trace is a `filterMap`, so it is taken piece by piece; every operation of a store
adds one piece.  The lemmas of this module are for `simp`: the views of a trace that was added to,
and the pieces.
-/

namespace TabShell

variable {V L : Type}

attribute [simp] queued_append processed_append effects_append writes_append
  sent_append

attribute [simp] Happening.queued? Happening.action? Happening.actionFrom? Happening.effect?
  Happening.delivery? Happening.heard? Happening.write? Happening.joined? Happening.left?
  Effect.event?

@[simp] theorem filterMap_none {α β : Type} (as : List α) :
    as.filterMap (fun _ => (none : Option β)) = [] :=
  List.filterMap_eq_nil_iff.mpr fun _ _ => rfl

@[simp] theorem processedFrom_append (o : Origin) (t u : List (Happening V)) :
    processedFrom o (t ++ u) = processedFrom o t ++ processedFrom o u := by
  simp [processedFrom]

@[simp] theorem heard_append (h : Nat) (t u : List (Happening V)) :
    heard h (t ++ u) = heard h t ++ heard h u := by
  simp [heard]

@[simp] theorem left_append (t u : List (Happening V)) : left (t ++ u) = left t ++ left u := by
  simp [left]

theorem left_lefts (xs : List (Subscriber V L)) :
    left (xs.map fun x => (.left x.handle : Happening V)) = xs.map (·.handle) := by
  simp [left, Function.comp_def]

/-- what an action adds to a trace: itself, and what its observers log and send -/
theorem processed_action (o : Origin) (a : Action) (es : List Effect) :
    processed (.processed o a :: es.map (.effect : Effect → Happening V)) = [a] := by
  simp [processed, Function.comp_def]

theorem heard_action (h : Nat) (o : Origin) (a : Action) (es : List Effect) :
    heard h (.processed o a :: es.map (.effect : Effect → Happening V)) = [] := by
  simp [heard]

theorem left_action (o : Origin) (a : Action) (es : List Effect) :
    left (.processed o a :: es.map (.effect : Effect → Happening V)) = [] := by
  simp [left]

/-- an action that is processed had been dispatched or queued -/
theorem processed_perm (t : List (Happening V)) :
    (processed t).Perm (processedFrom .dispatched t ++ processedFrom .queued t) := by
  induction t with
  | nil => exact .refl _
  | cons x t ih =>
    cases x with
    | processed o a =>
      cases o with
      | dispatched => exact ih.cons a
      | queued => exact (ih.cons a).trans List.perm_middle.symm
    | _ => exact ih

namespace Store

@[simp] theorem trace_record (s : Store V L) (hs : List (Happening V)) :
    (s.record hs).trace = s.trace ++ hs := rfl

@[simp] theorem trace_note (s : Store V L) (entries : List LogEntry) :
    (s.note entries).trace = s.trace ++ entries.map fun e => .effect (.note e) := rfl

@[simp] theorem trace_queue (s : Store V L) (as : List Action) :
    (s.queue as).trace = s.trace ++ as.map .queued := rfl

@[simp] theorem trace_dismiss (s : Store V L) (p : Subscriber V L → Bool) :
    (s.dismiss p).trace = s.trace ++ (s.subscribers.filter p).map fun x => .left x.handle := rfl

@[simp] theorem trace_update (s : Store V L) (h : Nat) (f : Listener V L → Listener V L) :
    (s.update h f).trace = s.trace := rfl

@[simp] theorem trace_dequeued (s : Store V L) (rest : List Action) :
    (s.dequeued rest).trace = s.trace := rfl

@[simp] theorem trace_advance (s : Store V L) (o : Origin) (a : Action) :
    (s.advance o a).trace = s.trace ++
      .processed o a :: (transitionEffects s.observers s.state a).map .effect := rfl

theorem left_advance (s : Store V L) (o : Origin) (a : Action) :
    left (s.advance o a).trace = left s.trace := by
  rw [trace_advance, left_append, left_action, List.append_nil]

@[simp] theorem trace_join (s : Store V L) (label : String) (l : Listener V L) :
    (s.join label l).trace = s.trace ++ [.joined s.nextHandle] := rfl

@[simp] theorem trace_introduce (s : Store V L) (mount : Bool) (label : String) (h : Nat) :
    (s.introduce mount label h).trace = s.trace := rfl

variable [DeepLinker L]

@[simp] theorem trace_edit (s : Store V L) (label text : String) :
    (s.edit label text).trace = s.trace := rfl

end Store

end TabShell

import TabShell.Proofs.Store.Changes
import TabShell.Proofs.Store.Turn
/-!
# What a subscription hears

A subscription hears the changes of its projection: in the state in which it was made, and in the
state after each action that is processed while it listens.

* `Standing`       how far a subscription has got with what there is to hear: it has heard all, or it
                   waits for its turn in the cycle that is on, or it has left;
* `Follows`        the account of a subscription, which every step keeps;
* `heard_select`   what is heard in every run.
-/

namespace TabShell

variable {V L : Type}

theorem mem_left {k : Nat} {e : List (Happening V)} : k ∈ left e ↔ .left k ∈ e := by
  unfold left
  rw [List.mem_filterMap]
  constructor
  · rintro ⟨x, hx, hxk⟩
    cases x with
    | left h =>
      cases hxk
      exact hx
    | _ => cases hxk
  · intro h
    exact ⟨_, h, rfl⟩

theorem mem_left_of_split {k : Nat} {e p q : List (Happening V)} (h : e = p ++ .left k :: q) :
    k ∈ left e := by
  rw [mem_left, h]
  exact List.mem_append_right p (List.mem_cons_self ..)

/-- how far the subscription of a handle has got, in a piece `d` of a trace that begins with it at
`state` -/
inductive Standing [DecidableEq V] (state : State) (k : Nat) (project : State → V)
    (m : Moment V L) (d : List (Happening V)) : Prop
  | told (reactions : List (Reaction V))
      (listens : m.store.listener? k =
        some (.subscription project (project m.store.state) reactions))
      (all : heard k d = changes ((statesFrom state d).map project))
  | due (waits : k ∈ m.due) (last : V) (reactions : List (Reaction V))
      (listens : m.store.listener? k = some (.subscription project last reactions))
      (vs : List V) (behind : (statesFrom state d).map project = vs ++ [project m.store.state])
      (latest : vs.getLast? = some last) (all : heard k d = changes vs)
  | gone (p q : List (Happening V)) (split : d = p ++ .left k :: q) (first : k ∉ left p)
      (silent : heard k q = [])
      (all : heard k p = changes ((statesFrom state p).map project) ∨
        heard k p = changes ((statesFrom state p).map project).dropLast)

/-- the account of a subscription since a store in which it had not come yet -/
structure Follows [DecidableEq V] (base : Store V L) (k : Nat) (project : State → V)
    (m : Moment V L) : Prop where
  roster : Roster m.store
  came : k < m.store.nextHandle
  since : ∃ d, m.store.trace = base.trace ++ d ∧
    m.store.state = (processed d).foldl reduce base.state ∧ Standing base.state k project m d

namespace Standing

variable [DecidableEq V] {state : State} {k : Nat} {project : State → V} {m m' : Moment V L}
  {d e : List (Happening V)}

/-- who leaves has heard all, or all but the last -/
theorem leave (hleft : k ∈ left e) (hprocessed : processed e = []) (hheard : heard k e = [])
    (hd : k ∉ left d) (all : heard k d = changes ((statesFrom state d).map project) ∨
      heard k d = changes ((statesFrom state d).map project).dropLast) :
    Standing state k project m (d ++ e) := by
  obtain ⟨p, q, rfl, hp⟩ := List.eq_append_cons_of_mem (mem_left.mp hleft)
  rw [heard_append] at hheard
  rw [processed_append] at hprocessed
  obtain ⟨hheardp, hheardq⟩ := List.append_eq_nil_iff.mp hheard
  obtain ⟨hprocessedp, -⟩ := List.append_eq_nil_iff.mp hprocessed
  refine .gone (d ++ p) q (by rw [List.append_assoc]) ?_ hheardq ?_
  · rw [left_append, List.mem_append]
    exact not_or.mpr ⟨hd, mt mem_left.mp hp⟩
  · rw [statesFrom_append state d p hprocessedp, heard_append, hheardp, List.append_nil]
    exact all

/-- who has left is told nothing -/
theorem gone_append {p q : List (Happening V)} (split : d = p ++ .left k :: q)
    (first : k ∉ left p) (silent : heard k q = [])
    (all : heard k p = changes ((statesFrom state p).map project) ∨
      heard k p = changes ((statesFrom state p).map project).dropLast)
    (hheard : heard k e = []) : Standing state k project m (d ++ e) := by
  refine .gone p (q ++ e) (by rw [split, List.append_assoc]; rfl) first ?_ all
  rw [heard_append, silent, hheard]
  rfl

/-- a step that does not concern the subscription -/
theorem bystander (hs : Standing state k project m d)
    (hlive : ∀ l, m.store.listener? k = some l → k ∉ left d)
    (h : Bystander k m.store m'.store e) (hdue : k ∈ m.due → k ∈ m'.due) :
    Standing state k project m' (d ++ e) := by
  have hstates := statesFrom_append state d e h.processed
  have hheard : heard k (d ++ e) = heard k d := by rw [heard_append, h.heard, List.append_nil]
  cases hs with
  | told reactions listens all =>
    rcases h.stays _ listens with hstays | hleft
    · exact .told reactions (by rw [hstays, h.state]) (by rw [hheard, hstates, all])
    · exact leave hleft h.processed h.heard (hlive _ listens) (.inl all)
  | due waits last reactions listens vs behind latest all =>
    rcases h.stays _ listens with hstays | hleft
    · exact .due (hdue waits) last reactions hstays vs (by rw [hstates, behind, h.state]) latest
        (by rw [hheard, all])
    · refine leave hleft h.processed h.heard (hlive _ listens) (.inr ?_)
      rw [behind, List.dropLast_concat, all]
  | gone p q split first silent all => exact gone_append split first silent all h.heard

/-- the state changes, and a cycle begins -/
theorem advance (hs : Standing state k project m d) (hdue : m.due = [])
    (hstate : m.store.state = (processed d).foldl reduce state) {a : Action}
    (hstate' : m'.store.state = reduce m.store.state a)
    (hlistens : m'.store.listener? k = m.store.listener? k) (hdue' : m'.due = m.store.handles)
    (hprocessed : processed e = [a]) (hheard : heard k e = []) :
    Standing state k project m' (d ++ e) := by
  cases hs with
  | told reactions listens all =>
    refine .due ?_ (project m.store.state) reactions (hlistens.trans listens)
      ((statesFrom state d).map project) ?_ ?_ ?_
    · rw [hdue']
      exact Store.mem_handles_of_listener? listens
    · rw [statesFrom_concat state d e a hprocessed, List.map_append, hstate', hstate]
      rfl
    · rw [List.getLast?_map, getLast?_statesFrom, hstate]
      rfl
    · rw [heard_append, hheard, List.append_nil, all]
  | due waits last reactions listens vs behind latest all =>
    rw [hdue] at waits
    cases waits
  | gone p q split first silent all => exact gone_append split first silent all hheard

variable [DeepLinker L]

/-- a turn of the subscription, with what it adds to the trace -/
theorem turn (hs : Standing state k project m d)
    (hlive : ∀ l, m.store.listener? k = some l → k ∉ left d)
    (hstate : m.store.state = (processed d).foldl reduce state) (h : Turn k m m') :
    ∃ e, m'.store.trace = m.store.trace ++ e ∧
      m'.store.state = (processed (d ++ e)).foldl reduce state ∧
      Standing state k project m' (d ++ e) := by
  cases h with
  | pass s due current =>
    refine ⟨[], (List.append_nil _).symm, by rw [List.append_nil, hstate], ?_⟩
    rw [List.append_nil]
    cases hs with
    | told reactions listens all => exact .told reactions listens all
    | due waits last reactions listens vs behind latest all =>
      -- the value is the one heard last, so the state that was still to be told adds no change
      have hsame : project s.state = last := current _ listens
      refine .told reactions (by rw [hsame]; exact listens) ?_
      rw [behind, hsame, changes_concat_of_eq latest, all]
    | gone p q split first silent all => exact .gone p q split first silent all
  | hear s due label shown last' reactions' listens' changed =>
    refine ⟨_, Store.trace_record _ _, ?_, ?_⟩
    · rw [processed_append]
      exact hstate.trans (congrArg (List.foldl reduce state) (List.append_nil _).symm)
    cases hs with
    | told reactions listens all =>
      cases listens.symm.trans listens'
      exact absurd rfl changed
    | due waits last reactions listens vs behind latest all =>
      cases listens.symm.trans listens'
      refine .told (reactions'.map (Reaction.spend (project s.state))) ?_ ?_
      · rw [Store.listener?_record, Store.listener?_update_self, listens]
        rfl
      · rw [statesFrom_append _ _ _ rfl, behind, changes_concat_of_ne latest changed, heard_append,
          all]
        simp [heard]
    | gone p q split first silent all =>
      exact absurd (mem_left_of_split split) (hlive _ listens')
  | write s due sync last' listens' changed =>
    exfalso
    cases hs with
    | told reactions listens all => cases listens.symm.trans listens'
    | due waits last reactions listens vs behind latest all => cases listens.symm.trans listens'
    | gone p q split first silent all => exact hlive _ listens' (mem_left_of_split split)
  | take s a rest waits =>
    refine ⟨_, Store.trace_advance _ _ _, ?_, ?_⟩
    · rw [processed_append, List.foldl_append, ← hstate, processed_action]
      rfl
    · exact hs.advance rfl hstate rfl (Store.listener?_advance _ .queued a k) rfl
        (processed_action _ _ _) (heard_action _ _ _ _)

/-- an edit of a link does not concern subscriptions -/
theorem edit {s : Store V L} (hs : Standing state k project ⟨s, []⟩ d) (label text : String) :
    Standing state k project ⟨s.edit label text, []⟩ d := by
  cases hs with
  | told reactions listens all =>
    exact .told reactions (Store.listener?_edit_subscription listens label text) all
  | due waits last reactions listens vs behind latest all => cases waits
  | gone p q split first silent all => exact .gone p q split first silent all

end Standing

variable [DecidableEq V] {base : Store V L} {k : Nat} {project : State → V}

namespace Follows

/-- a dispatch begins -/
theorem opens {s : Store V L} (hs : Follows base k project ⟨s, []⟩) (a : Action) :
    Follows base k project ⟨s.advance .dispatched a, s.handles⟩ := by
  obtain ⟨hroster, hcame, d, htrace, hstate, hstands⟩ := hs
  have hprocessed := processed_action (V := V) .dispatched a
    (transitionEffects s.observers s.state a)
  refine ⟨hroster.advance .dispatched a, hcame, d ++ _, ?_, ?_,
    hstands.advance rfl hstate rfl (Store.listener?_advance s .dispatched a k) rfl hprocessed
      (heard_action _ _ _ _)⟩
  · rw [← List.append_assoc, ← htrace]
    rfl
  · rw [processed_append, List.foldl_append, ← hstate, processed_action]
    rfl

variable [DeepLinker L]

theorem step {m m' : Moment V L} (hm : Follows base k project m) (h : Step m m') :
    Follows base k project m' := by
  obtain ⟨hroster, hcame, d, htrace, hstate, hstands⟩ := hm
  refine ⟨hroster.step h, hcame.trans_le h.nextHandle_le, ?_⟩
  have hlive : ∀ l, m.store.listener? k = some l → k ∉ left d :=
    fun _ hl => hroster.notMem_left htrace hl
  rcases h.of_handle (Nat.ne_of_lt hcame) with ⟨e, he, hdue⟩ | hturn
  · refine ⟨d ++ e, by rw [he.trace, htrace, List.append_assoc], ?_, ?_⟩
    · rw [he.state, hstate, processed_append, he.processed, List.append_nil]
    · exact hstands.bystander hlive he hdue
  · obtain ⟨e, htrace', hstate', hstands'⟩ := hstands.turn hlive hstate hturn
    exact ⟨d ++ e, by rw [htrace', htrace, List.append_assoc], hstate', hstands'⟩

theorem edit {s : Store V L} (hs : Follows base k project ⟨s, []⟩) (label text : String) :
    Follows base k project ⟨s.edit label text, []⟩ := by
  obtain ⟨hroster, hcame, d, htrace, hstate, hstands⟩ := hs
  exact ⟨hroster.edit label text, hcame, d, htrace, hstate, hstands.edit label text⟩

/-- the account begins when the subscription joins the others, having heard the current value -/
theorem joins {s : Store V L} (hs : Roster s) (label : String) (project : State → V)
    (reactions : List (Reaction V)) :
    Follows s s.nextHandle project
      ⟨(s.deliver s.nextHandle label (project s.state) reactions).join label
        (.subscription project (project s.state)
          (reactions.map (Reaction.spend (project s.state)))), []⟩ := by
  have hasides := Store.asides_deliver s s.nextHandle label (project s.state) reactions
  obtain ⟨e, he⟩ := Bystander.asides (k := s.nextHandle) hasides
  have hroster := (hs.keep (Store.trace_record s _) rfl rfl rfl).asides hasides
  have hnext : (s.deliver s.nextHandle label (project s.state) reactions).nextHandle =
      s.nextHandle := hasides.nextHandle_eq
  refine ⟨hroster.join label _, hnext.ge.trans_lt (Nat.lt_succ_self _),
    [.delivered s.nextHandle label (project s.state)] ++ e ++ [.joined s.nextHandle], ?_, ?_, ?_⟩
  · rw [Store.trace_join, he.trace, hnext, Store.trace_record, List.append_assoc, List.append_assoc]
    rfl
  · rw [processed_append, processed_append, he.processed]
    exact he.state
  · refine .told (reactions.map (Reaction.spend (project s.state))) ?_ ?_
    · have hself := Store.listener?_join_self hroster.fresh label (.subscription project
        (project s.state) (reactions.map (Reaction.spend (project s.state))))
      rw [hnext] at hself
      refine hself.trans ?_
      exact congrArg (fun state => some (Listener.subscription project (project state) _))
        he.state.symm
    · rw [statesFrom_append _ _ _ rfl, statesFrom_append _ _ _ he.processed, heard_append,
        heard_append, he.heard]
      simp only [heard, List.filterMap_cons, List.filterMap_nil, Happening.heard?, if_true]
      rfl

end Follows

variable [DeepLinker L]

/-- **What a subscription hears.**  As long as it listens, it has heard exactly the changes of its
projection: in the state in which it was made and after each action that was processed since.  So
no two values in a row are equal, and the last one is that of the state.  Once it has left it hears
nothing; until then it has heard all of that, unless it was dropped in the middle of a cycle and
before its turn, and then all but the last. -/
theorem heard_select (state : State) (observers : List Observer) (before : List (StoreOp V L))
    (label : String) (project : State → V) (reactions : List (Reaction V))
    (ops : List (StoreOp V L)) :
    let s := (Store.new state observers : Store V L).run before
    let k := s.nextHandle
    let t := (s.select label project reactions).run ops
    ∃ d, t.trace = s.trace ++ d ∧
      (k ∉ left d →
        heard k d = changes ((statesFrom s.state d).map project) ∧
        (heard k d).IsChain (· ≠ ·) ∧
        (heard k d).getLast? = some (project t.state)) ∧
      (k ∈ left d → ∃ p q, d = p ++ .left k :: q ∧ k ∉ left p ∧ heard k q = [] ∧
        (heard k p = changes ((statesFrom s.state p).map project) ∨
          heard k p = changes ((statesFrom s.state p).map project).dropLast)) := by
  intro s k t
  have hs : Roster s := roster_run (Roster.new state observers) before
  have hjoined := Follows.joins hs label project reactions
  have hselect : Follows s k project ⟨s.select label project reactions, []⟩ :=
    (Store.steps_select_joined _ label k).preserve (fun _ _ h hm => hm.step h) hjoined
  have hrun : Follows s k project ⟨t, []⟩ :=
    Store.run_induction (fun _ _ h hm => hm.step h) (fun _ a hm => hm.opens a)
      (fun _ name text hm => hm.edit name text) hselect ops
  obtain ⟨hroster, -, d, htrace, hstate, hstands⟩ := hrun
  refine ⟨d, htrace, ?_, ?_⟩
  · intro hhere
    cases hstands with
    | told last listens all =>
      refine ⟨all, ?_, ?_⟩
      · rw [all]
        exact isChain_changes _
      · rw [all, getLast?_changes, List.getLast?_map, getLast?_statesFrom, ← hstate]
        rfl
    | due waits last reactions listens vs behind latest all => cases waits
    | gone p q split first silent all => exact absurd (mem_left_of_split split) hhere
  · intro hleft
    cases hstands with
    | told last listens all => exact absurd hleft (hroster.notMem_left htrace listens)
    | due waits last reactions listens vs behind latest all => cases waits
    | gone p q split first silent all => exact ⟨p, q, split, first, silent, all⟩

end TabShell

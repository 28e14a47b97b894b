import TabShell.Fragment.Location
/-!
# What a location holds under a key

A fragment may hold a key several times, in any order and however badly written.  Writing a
parameter settles its own key and leaves all others as they are, because

* `valuesOf_mergeSort`   sorting by keys is stable, so what one key holds keeps its order;
* `valuesOf_update`      the parameters after a write, key by key;
* `params_set`           what is written is what is read back (`TabShell.Fragment.Location`).

`values_set` puts these together for every fragment, key, value and default.
-/

namespace TabShell

open Text Fragment

/-- the values under a key, in order and with duplicates -/
def valuesOf (key : String) (ps : List Param) : List String :=
  (ps.filter (·.key = key)).map (·.value)

theorem valuesOf_append (key : String) (ps qs : List Param) :
    valuesOf key (ps ++ qs) = valuesOf key ps ++ valuesOf key qs := by
  simp [valuesOf]

theorem valuesOf_singleton (key : String) (p : Param) :
    valuesOf key [p] = if p.key = key then [p.value] else [] := by
  by_cases h : p.key = key <;> simp [valuesOf, h]

theorem valuesOf_others (key other : String) (ps : List Param) :
    valuesOf key (ps.filter (·.key ≠ other)) = if key = other then [] else valuesOf key ps := by
  unfold valuesOf
  rw [List.filter_filter]
  split
  · next h =>
    subst h
    simp
  · next h =>
    congr 1
    apply List.filter_congr
    intro p _
    by_cases hp : p.key = key
    · simp [hp, h]
    · simp [hp]

theorem pairwise_keyLE_filter (key : String) (ps : List Param) :
    (ps.filter (·.key = key)).Pairwise (Location.keyLE · ·) := by
  have hkey : ∀ p ∈ ps.filter (·.key = key), p.key = key := by
    intro p hp
    simpa using (List.mem_filter.mp hp).2
  apply List.pairwise_of_forall_mem_list
  intro p hp q hq
  simp [Location.keyLE, hkey p hp, hkey q hq]

/-- sorting by keys is stable: what one key holds keeps its order -/
theorem valuesOf_mergeSort (key : String) (ps : List Param) :
    valuesOf key (ps.mergeSort Location.keyLE) = valuesOf key ps := by
  have hsub : (ps.filter (·.key = key)).Sublist (ps.mergeSort Location.keyLE) :=
    List.sublist_mergeSort Location.keyLE_trans Location.keyLE_total
      (pairwise_keyLE_filter key ps) List.filter_sublist
  have hfilter := hsub.filter (fun p => decide (p.key = key))
  rw [List.filter_filter] at hfilter
  simp only [Bool.and_self] at hfilter
  have hperm := (List.mergeSort_perm ps Location.keyLE).filter (fun p => decide (p.key = key))
  unfold valuesOf
  rw [hfilter.eq_of_length hperm.length_eq.symm]

/-- a write settles its own key and no other -/
theorem valuesOf_update (key : String) (ps : List Param) (w : Write) :
    valuesOf key (Location.update ps w) =
      if key = w.key then (if w.value = w.default then [] else [w.value])
      else valuesOf key ps := by
  unfold Location.update
  by_cases hd : w.value = w.default
  · simp only [hd, if_true]
    exact valuesOf_others key w.key ps
  · simp only [hd, if_false]
    rw [valuesOf_mergeSort, valuesOf_append, valuesOf_others, valuesOf_singleton]
    by_cases hk : key = w.key
    · simp [hk]
    · simp [hk, Ne.symm hk]

theorem sorted_update {w : Write} (h : w.value ≠ w.default) (ps : List Param) :
    (Location.update ps w).Pairwise fun p q => utf8 p.key.toList ≤ utf8 q.key.toList := by
  unfold Location.update
  rw [if_neg h]
  have hsort := List.pairwise_mergeSort Location.keyLE_trans Location.keyLE_total
    (ps.filter (·.key ≠ w.key) ++ [Param.mk w.key w.value])
  exact hsort.imp fun {p q} hpq => by simpa [Location.keyLE] using hpq

namespace Location

/-- the values under a key of the current fragment -/
def values (l : Location) (key : String) : List String := valuesOf key l.params

theorem get_eq_head (l : Location) (key : String) : l.get key = (l.values key).head?.getD "" := by
  simp [get, values, valuesOf, List.head?_map, List.head?_filter]

/-- how often a key occurs is how many values it has -/
theorem countP_key (l : Location) (key : String) :
    l.params.countP (·.key = key) = (l.values key).length := by
  simp [values, valuesOf, List.countP_eq_length_filter]

theorem values_write (l : Location) (w : Write) (key : String) :
    (l.set w).values key =
      if key = w.key then (if w.value = w.default then [] else [w.value]) else l.values key := by
  unfold values
  rw [params_set]
  exact valuesOf_update key l.params w

theorem get_write (l : Location) (w : Write) :
    (l.set w).get w.key = if w.value = w.default then "" else w.value := by
  rw [get_eq_head, values_write, if_pos rfl]
  split <;> rfl

/-- **Get after set, with frame.**  The written key holds the value, once, or nothing if the value
is its default; every other key holds what it held, duplicates included and in the same order; and
a value that is kept leaves the parameters in the order of their keys' bytes. -/
theorem values_set (l : Location) (w : Write) :
    (l.set w).get w.key = (if w.value = w.default then "" else w.value) ∧
    (l.set w).params.countP (·.key = w.key) = (if w.value = w.default then 0 else 1) ∧
    (∀ key, (l.set w).values key =
      if key = w.key then (if w.value = w.default then [] else [w.value]) else l.values key) ∧
    (w.value ≠ w.default →
      (l.set w).params.Pairwise fun p q => utf8 p.key.toList ≤ utf8 q.key.toList) := by
  refine ⟨get_write l w, ?_, values_write l w, ?_⟩
  · rw [countP_key, values_write, if_pos rfl]
    split <;> rfl
  · intro h
    rw [params_set]
    exact sorted_update h l.params

/-- a key that is written among badly written and repeated ones -/
theorem values_set_misspelt :
    "x&b=1" ≠ "" ∧
    ((ofFragment "#b=%zz&a=1&&b=%FF&a").set ⟨"a", "x&b=1", false, ""⟩).get "a" = "x&b=1" ∧
    ((ofFragment "#b=%zz&a=1&&b=%FF&a").set ⟨"a", "x&b=1", false, ""⟩).values "b" =
      ["%zz", "\uFFFD"] := by
  obtain ⟨hget, -, hvalues, -⟩ :=
    values_set (ofFragment "#b=%zz&a=1&&b=%FF&a") ⟨"a", "x&b=1", false, ""⟩
  refine ⟨by decide, hget.trans (if_neg (by decide)), ?_⟩
  rw [hvalues, if_neg (by decide)]
  decide +kernel

end Location

end TabShell

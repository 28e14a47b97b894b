import TabShell.Fragment.Location
/-!
# A location that keeps one parameter

Who alone writes to a location, under one key, finds there what it wrote last and nothing else.

* `single`          the fragment of one value under a key, nothing for the default;
* `single_inj`      different values have different fragments;
* `set_of_forall_key`   a write to a location that holds nothing else.
-/

namespace TabShell.Location

open Fragment

/-- the fragment that keeps one value under a key; a default is kept by nothing -/
def single (key default value : String) : String :=
  if value = default then "" else String.ofList (Param.encode ⟨key, value⟩)

theorem encodeAll_singleton (p : Param) : Param.encodeAll [p] = Param.encode p := by
  simp [Param.encodeAll, List.intercalate]

theorem decodeAll_single (key default value : String) :
    Param.decodeAll (single key default value).toList =
      if value = default then [] else [⟨key, value⟩] := by
  unfold single
  split
  · exact Param.decodeAll_encodeAll []
  · rw [String.toList_ofList, ← encodeAll_singleton]
    exact Param.decodeAll_encodeAll [⟨key, value⟩]

theorem single_inj {key default v w : String} (h : single key default v = single key default w) :
    v = w := by
  have hparams := congrArg (fun f : String => Param.decodeAll f.toList) h
  simp only [decodeAll_single] at hparams
  by_cases hv : v = default
  · by_cases hw : w = default
    · exact hv.trans hw.symm
    · rw [if_pos hv, if_neg hw] at hparams
      cases hparams
  · by_cases hw : w = default
    · rw [if_neg hv, if_pos hw] at hparams
      cases hparams
    · rw [if_neg hv, if_neg hw] at hparams
      injection List.singleton_inj.mp hparams

theorem forall_key_of_current {l : Location} {key default value : String}
    (h : l.current = single key default value) : ∀ p ∈ l.params, p.key = key := by
  unfold params
  rw [h, decodeAll_single]
  split
  · exact nofun
  · intro p hp
    rw [List.mem_singleton.mp hp]

theorem update_of_forall_key {ps : List Param} {w : Write} (h : ∀ p ∈ ps, p.key = w.key) :
    update ps w = if w.value = w.default then [] else [⟨w.key, w.value⟩] := by
  have hothers : ps.filter (·.key ≠ w.key) = [] := by
    rw [List.filter_eq_nil_iff]
    intro p hp
    simp [h p hp]
  unfold update
  rw [hothers]
  split
  · rfl
  · exact List.mergeSort_singleton _

/-- a write to a location that holds nothing under other keys -/
theorem set_of_forall_key {l : Location} {w : Write} (h : ∀ p ∈ l.params, p.key = w.key) :
    l.set w = l.navigate (single w.key w.default w.value) w.replace := by
  unfold set single
  rw [update_of_forall_key h]
  split
  · rfl
  · rw [encodeAll_singleton]

theorem params_empty : empty.params = [] := Param.decodeAll_encodeAll []

theorem getLast?_history (l : Location) : l.history.getLast? = some l.current :=
  List.getLast?_concat

end TabShell.Location

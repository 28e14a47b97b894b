/-!
# What the steps of a run meet

A run takes the elements of a list one after the other.  What it leaves in a log is what its steps
add there, each in the state that it meets.

* `met step s as`     the elements of a run, each with the state that it meets;
* `foldl_eq_met`      a log that every step only adds to.
-/

namespace TabShell

variable {σ α β : Type} {step : σ → α → σ}

/-- the elements of a run, each with the state that it meets -/
def met (step : σ → α → σ) (s : σ) (as : List α) : List (σ × α) := (as.scanl step s).zip as

theorem met_nil (s : σ) : met step s [] = [] := rfl

theorem met_cons (s : σ) (a : α) (as : List α) :
    met step s (a :: as) = (s, a) :: met step (step s a) as := by
  unfold met
  rw [List.scanl_cons, List.zip_cons_cons]

/-- a log that every step only adds to holds in the end what each step added, in order -/
theorem foldl_eq_met {log : σ → List β} {added : σ × α → List β}
    (h : ∀ s a, log (step s a) = log s ++ added (s, a)) (s : σ) (as : List α) :
    log (as.foldl step s) = log s ++ (met step s as).flatMap added := by
  induction as generalizing s with
  | nil => exact (List.append_nil _).symm
  | cons a as ih =>
    rw [List.foldl_cons, ih, h, met_cons, List.flatMap_cons, List.append_assoc]

end TabShell

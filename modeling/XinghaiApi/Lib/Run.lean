import Mathlib.Data.List.Basic
import Mathlib.Tactic.Common

/-!
# Runs of a step machine

A machine is a step function `step : σ → ε → σ`: events carry every choice of the environment
(arguments, failures, clock readings), so a run is determined by its list of events. This file
has the run, the states it meets, and the rules by which facts about single steps become
facts about runs: an invariant kept by the steps that meet a guard holds after every guarded
run, and an invariant kept by *exactly* the guarded steps holds along a run iff the run is
guarded. Where steps have a cost, the run has their total.
-/

namespace Machine

variable {σ ε : Type*}

section

variable (step : σ → ε → σ) (s : σ) (e : ε) (es : List ε)

/-- The state after a list of events. -/
def run (s : σ) (es : List ε) : σ :=
  es.foldl step s

/-- The states a run meets, the first and the last one included. -/
def states (s : σ) : List ε → List σ
  | []      => [s]
  | e :: es => s :: states (step s e) es

/-- The steps of a run, each with the state before it. -/
def steps (s : σ) : List ε → List (σ × ε)
  | []      => []
  | e :: es => (s, e) :: steps (step s e) es

/-- Every step of the run meets the guard `ok` in the state before it. -/
def Along (ok : σ → ε → Prop) (s : σ) : List ε → Prop
  | []      => True
  | e :: es => ok s e ∧ Along ok (step s e) es

@[simp] lemma run_nil : run step s [] = s := rfl

@[simp] lemma run_cons : run step s (e :: es) = run step (step s e) es := rfl

lemma run_append (es' : List ε) : run step s (es ++ es') = run step (run step s es) es' :=
  List.foldl_append

@[simp] lemma states_nil : states step s [] = [s] := rfl

@[simp] lemma states_cons : states step s (e :: es) = s :: states step (step s e) es := rfl

lemma run_mem_states : run step s es ∈ states step s es := by
  induction es generalizing s with
  | nil => simp
  | cons e es ih =>
    simp only [states_cons, List.mem_cons]
    exact Or.inr (ih (step s e))

@[simp] lemma steps_nil : steps step s [] = [] := rfl

@[simp] lemma steps_cons : steps step s (e :: es) = (s, e) :: steps step (step s e) es := rfl

end

section

variable {step : σ → ε → σ} {ok ok' : σ → ε → Prop} {I : σ → Prop} {s : σ} {es : List ε}

@[simp] lemma along_nil (s : σ) : Along step ok s [] := trivial

@[simp] lemma along_cons (s : σ) (e : ε) (es : List ε) :
    Along step ok s (e :: es) ↔ ok s e ∧ Along step ok (step s e) es := Iff.rfl

lemma along_append (s : σ) (es es' : List ε) :
    Along step ok s (es ++ es') ↔ Along step ok s es ∧ Along step ok (run step s es) es' := by
  induction es generalizing s with
  | nil => simp
  | cons e es ih => simp [ih, and_assoc]

lemma along_of_forall (h : ∀ e ∈ es, ∀ s, ok s e) : Along step ok s es := by
  induction es generalizing s with
  | nil => exact trivial
  | cons e es ih =>
    exact ⟨h e List.mem_cons_self s, ih fun e' he' => h e' (List.mem_cons_of_mem e he')⟩

instance Along.decidable (step : σ → ε → σ) (ok : σ → ε → Prop)
    [∀ s e, Decidable (ok s e)] : ∀ (s : σ) (es : List ε), Decidable (Along step ok s es)
  | _, []      => .isTrue trivial
  | s, e :: es =>
    have := Along.decidable step ok (step s e) es
    inferInstanceAs (Decidable (ok s e ∧ Along step ok (step s e) es))

section

variable (hstep : ∀ s e, I s → ok s e → I (step s e)) (hs : I s) (h : Along step ok s es)

include hstep hs h

/-- The invariant rule: what guarded steps preserve holds in every state a guarded run meets. -/
theorem Along.states_invariant : ∀ t ∈ states step s es, I t := by
  induction es generalizing s with
  | nil => simpa using hs
  | cons e es ih =>
    obtain ⟨hok, htail⟩ := h
    intro t ht
    rcases List.mem_cons.mp ht with rfl | ht
    · exact hs
    · exact ih (hstep s e hs hok) htail t ht

theorem Along.invariant : I (run step s es) := h.states_invariant hstep hs _ (run_mem_states _ _ _)

/-- A guard gives another one in the states of an invariant that it preserves. -/
theorem Along.imp (himp : ∀ s e, I s → ok s e → ok' s e) : Along step ok' s es := by
  induction es generalizing s with
  | nil => exact trivial
  | cons e es ih =>
    obtain ⟨hok, htail⟩ := h
    exact ⟨himp s e hs hok, ih (hstep s e hs hok) htail⟩

end

section

variable (hstep : ∀ s e, I s → I (step s e)) (hs : I s) (es : List ε)

include hstep hs

/-- The invariant rule for steps that need no guard. -/
theorem states_invariant : ∀ t ∈ states step s es, I t := by
  have hes : Along step (fun _ _ => True) s es := along_of_forall fun _ _ _ => trivial
  exact hes.states_invariant (fun s e hI _ => hstep s e hI) hs

theorem run_invariant : I (run step s es) := states_invariant hstep hs es _ (run_mem_states _ _ _)

/-- Guards that agree in the states of an invariant agree along runs. -/
theorem along_congr (hok : ∀ s e, I s → (ok s e ↔ ok' s e)) :
    Along step ok s es ↔ Along step ok' s es := by
  induction es generalizing s with
  | nil => simp
  | cons e es ih => rw [along_cons, along_cons, hok s e hs, ih (hstep s e hs)]

end

/-- When a step from a good state is good iff it meets the guard, a run stays good in every
state it meets iff all its steps meet the guard. -/
theorem forall_states_iff_along (hstep : ∀ s e, I s → (I (step s e) ↔ ok s e)) (hs : I s)
    (es : List ε) : (∀ t ∈ states step s es, I t) ↔ Along step ok s es := by
  induction es generalizing s with
  | nil => simpa using hs
  | cons e es ih =>
    simp only [states_cons, List.mem_cons, forall_eq_or_imp]
    constructor
    · rintro ⟨-, htail⟩
      have hnext : I (step s e) := by
        apply htail
        cases es <;> simp
      exact ⟨(hstep s e hs).mp hnext, (ih hnext).mp htail⟩
    · rintro ⟨hok, htail⟩
      exact ⟨hs, (ih ((hstep s e hs).mpr hok)).mpr htail⟩

end

/-! ### What a run costs -/

/-- The sum of what the steps of a run cost, each in the state before it. -/
def total (step : σ → ε → σ) (cost : σ → ε → Int) (s : σ) : List ε → Int
  | []      => 0
  | e :: es => cost s e + total step cost (step s e) es

section

variable {step : σ → ε → σ} {cost : σ → ε → Int} {I : σ → Prop} {R : Int → σ → σ → Prop}

@[simp] lemma total_nil (s : σ) : total step cost s [] = 0 := rfl

@[simp] lemma total_cons (s : σ) (e : ε) (es : List ε) :
    total step cost s (e :: es) = cost s e + total step cost (step s e) es := rfl

lemma total_nonneg (hcost : ∀ s e, 0 ≤ cost s e) (s : σ) (es : List ε) :
    0 ≤ total step cost s es := by
  induction es generalizing s with
  | nil => simp
  | cons e es ih => exact Int.add_nonneg (hcost s e) (ih (step s e))

/-- When no step gives anything back, a run costs nothing iff none of its steps does. -/
theorem total_eq_zero_iff_along {ok : σ → ε → Prop} (hcost : ∀ s e, 0 ≤ cost s e)
    (hok : ∀ s e, cost s e = 0 ↔ ok s e) (s : σ) (es : List ε) :
    total step cost s es = 0 ↔ Along step ok s es := by
  induction es generalizing s with
  | nil => simp
  | cons e es ih =>
    rw [total_cons, along_cons, ← ih (step s e), ← hok s e]
    have hhead := hcost s e
    have htail : 0 ≤ total step cost (step s e) es := total_nonneg hcost (step s e) es
    omega

/-- The accounting rule: a relation that adds up along steps relates the ends of a run by the
total of what the steps cost. -/
theorem run_total (hrefl : ∀ s, I s → R 0 s s)
    (htrans : ∀ x y s t u, R x s t → R y t u → R (x + y) s u)
    (hstep : ∀ s e, I s → I (step s e) ∧ R (cost s e) s (step s e)) {s : σ} (hs : I s)
    (es : List ε) :
    I (run step s es) ∧ R (total step cost s es) s (run step s es) := by
  induction es generalizing s with
  | nil => exact ⟨hs, hrefl s hs⟩
  | cons e es ih =>
    obtain ⟨hnext, hpaid⟩ := hstep s e hs
    obtain ⟨hend, hrest⟩ := ih hnext
    exact ⟨hend, htrans _ _ _ _ _ hpaid hrest⟩

end

end Machine

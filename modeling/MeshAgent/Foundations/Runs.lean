import Mathlib.Tactic.Lemma
import Mathlib.Tactic.TypeStar

/-!
# Runs of labelled transition relations
-/

namespace MeshAgent.Foundations

variable {σ ε : Type*}

/-- `Run step s es t`: the labels `es`, taken in order, lead from `s` to `t`. -/
inductive Run (step : σ → ε → σ → Prop) : σ → List ε → σ → Prop
  | nil (s : σ) : Run step s [] s
  | snoc {s t u : σ} {es : List ε} {e : ε} :
      Run step s es t → step t e u → Run step s (es ++ [e]) u

namespace Run

variable {step : σ → ε → σ → Prop} {s t u : σ} {es fs : List ε}

/-- What one step preserves, a whole run preserves. -/
theorem invariant {P : σ → Prop} (hstep : ∀ s e t, P s → step s e t → P t)
    (h : Run step s es t) (hs : P s) : P t := by
  induction h with
  | nil => exact hs
  | snoc _ hlast ih => exact hstep _ _ _ ih hlast

/-- An invariant that also speaks of the labels so far. -/
theorem history {P : List ε → σ → Prop} (h : Run step s es t) (hs : P [] s)
    (hstep : ∀ es s e t, P es s → step s e t → P (es ++ [e]) t) : P es t := by
  induction h with
  | nil => exact hs
  | snoc _ hlast ih => exact hstep _ _ _ _ ih hlast

lemma single {e : ε} (h : step s e t) : Run step s [e] t :=
  snoc (nil s) h

theorem append (h : Run step s es t) (h' : Run step t fs u) : Run step s (es ++ fs) u := by
  induction h' with
  | nil => simpa using h
  | snoc _ hlast ih =>
    rw [← List.append_assoc]
    exact snoc ih hlast

lemma mono_mem {step' : σ → ε → σ → Prop} (himp : ∀ e ∈ es, ∀ s t, step s e t → step' s e t)
    (h : Run step s es t) : Run step' s es t := by
  induction h with
  | nil => exact nil _
  | snoc _ hlast ih =>
    exact snoc (ih fun e he => himp e (List.mem_append_left _ he)) (himp _ (by simp) _ _ hlast)

lemma mono {step' : σ → ε → σ → Prop} (himp : ∀ s e t, step s e t → step' s e t)
    (h : Run step s es t) : Run step' s es t :=
  h.mono_mem fun e _ s t => himp s e t

/-- A run that a function computes. -/
theorem of_foldlM_mem {next : σ → ε → Option σ}
    (hnext : ∀ e ∈ es, ∀ s t, next s e = some t → step s e t) (h : es.foldlM next s = some t) :
    Run step s es t := by
  induction es generalizing s with
  | nil =>
    cases h
    exact nil _
  | cons e es ih =>
    rw [List.foldlM_cons] at h
    obtain ⟨u, hfirst, hrest⟩ := Option.bind_eq_some_iff.mp h
    exact (single (hnext e (by simp) s u hfirst)).append
      (ih (fun e he => hnext e (List.mem_cons_of_mem _ he)) hrest)

theorem of_foldlM {next : σ → ε → Option σ} (hnext : ∀ s e t, next s e = some t → step s e t)
    (h : es.foldlM next s = some t) : Run step s es t :=
  of_foldlM_mem (fun e _ s t => hnext s e t) h

/-- Forward simulation: if every step is matched, a whole run is. -/
theorem simulate {τ δ : Type*} {step' : τ → δ → τ → Prop} {R : σ → τ → Prop} {label : ε → δ}
    (hstep : ∀ s e s' a, R s a → step s e s' → ∃ a', step' a (label e) a' ∧ R s' a')
    (h : Run step s es t) {a : τ} (ha : R s a) :
    ∃ b, Run step' a (es.map label) b ∧ R t b := by
  induction h with
  | nil => exact ⟨a, nil a, ha⟩
  | snoc _ hlast ih =>
    obtain ⟨b, hrun, hb⟩ := ih
    obtain ⟨c, hc, hR⟩ := hstep _ _ _ _ hb hlast
    refine ⟨c, ?_, hR⟩
    rw [List.map_append]
    exact snoc hrun hc

/-- What is owed before a run and what is gained in it are what is spent in it and what is owed
after it, in this order. -/
theorem account {ω : Type*} (owed : σ → List ω) {gain spend : ε → List ω}
    (hstep : ∀ s e t, step s e t → owed s ++ gain e = spend e ++ owed t) (h : Run step s es t) :
    owed s ++ es.flatMap gain = es.flatMap spend ++ owed t := by
  induction h with
  | nil => simp
  | snoc _ hlast ih =>
    rw [List.flatMap_append, List.flatMap_append, List.flatMap_singleton, List.flatMap_singleton,
      ← List.append_assoc, ih, List.append_assoc, hstep _ _ _ hlast, List.append_assoc]

/-- Refinement: if every step is matched by a run that shows the same, a whole run is. -/
theorem refine {τ δ ω : Type*} {step' : τ → δ → τ → Prop} {R : σ → τ → Prop} {shown : ε → List ω}
    {shown' : δ → List ω}
    (hstep : ∀ s e s' a, R s a → step s e s' →
      ∃ ds a', Run step' a ds a' ∧ ds.flatMap shown' = shown e ∧ R s' a')
    (h : Run step s es t) {a : τ} (ha : R s a) :
    ∃ ds b, Run step' a ds b ∧ ds.flatMap shown' = es.flatMap shown ∧ R t b := by
  induction h with
  | nil => exact ⟨[], a, nil a, rfl, ha⟩
  | snoc _ hlast ih =>
    obtain ⟨ds, b, hrun, hshown, hb⟩ := ih
    obtain ⟨ds', c, hrun', hshown', hc⟩ := hstep _ _ _ _ hb hlast
    refine ⟨ds ++ ds', c, hrun.append hrun', ?_, hc⟩
    rw [List.flatMap_append, List.flatMap_append, hshown, hshown', List.flatMap_singleton]

end Run

/-- The relation with an observer that follows the steps and does not influence them. -/
def Observed {γ : Type*} (step : σ → ε → σ → Prop) (observe : σ → ε → γ → γ) (s : σ × γ) (e : ε)
    (t : σ × γ) : Prop :=
  step s.1 e t.1 ∧ t.2 = observe s.1 e s.2

theorem Run.observed {γ : Type*} {step : σ → ε → σ → Prop} {s t : σ} {es : List ε}
    (h : Run step s es t) (observe : σ → ε → γ → γ) (g : γ) :
    ∃ g', Run (Observed step observe) (s, g) es (t, g') := by
  induction h with
  | nil => exact ⟨g, .nil _⟩
  | snoc _ hlast ih =>
    obtain ⟨g', hrun⟩ := ih
    exact ⟨_, hrun.snoc ⟨hlast, rfl⟩⟩

end MeshAgent.Foundations

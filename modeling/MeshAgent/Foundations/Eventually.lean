import Mathlib.Algebra.Order.BigOperators.Group.Finset
import Mathlib.Order.WellFounded
import MeshAgent.Foundations.Runs

/-!
# What happens in the end

A goal is reached whatever steps are taken, if every step lowers a rank and no state without
the goal is stuck.
-/

namespace MeshAgent.Foundations

variable {σ ε : Type*} {step : σ → ε → σ → Prop} {Q Q' : σ → Prop} {s : σ}

/-- However one goes on from the state, a state with `Q` is reached, and until then one can go
on. -/
inductive Eventually (step : σ → ε → σ → Prop) (Q : σ → Prop) : σ → Prop
  | now {s : σ} (h : Q s) : Eventually step Q s
  | later {s : σ} (hsome : ∃ e t, step s e t) (hnext : ∀ e t, step s e t → Eventually step Q t) :
      Eventually step Q s

namespace Eventually

theorem of_rank {α : Type*} [LT α] [WellFoundedLT α] {I : σ → Prop} (rank : σ → α)
    (hsome : ∀ s, I s → ¬ Q s → ∃ e t, step s e t)
    (hstep : ∀ s e t, I s → step s e t → I t ∧ rank t < rank s) (hs : I s) :
    Eventually step Q s := by
  induction hr : rank s using WellFoundedLT.induction generalizing s with
  | ind r ih =>
    by_cases hq : Q s
    · exact .now hq
    · apply Eventually.later (hsome s hs hq)
      intro e t hst
      obtain ⟨ht, hless⟩ := hstep s e t hs hst
      exact ih (rank t) (hr ▸ hless) ht rfl

lemma imp (himp : ∀ s, Q s → Q' s) (h : Eventually step Q s) : Eventually step Q' s := by
  induction h with
  | now h => exact .now (himp _ h)
  | later hsome _ ih => exact .later hsome ih

theorem exists_run (h : Eventually step Q s) : ∃ es t, Run step s es t ∧ Q t := by
  induction h with
  | now h => exact ⟨[], _, .nil _, h⟩
  | later hsome _ ih =>
    obtain ⟨e, t, hst⟩ := hsome
    obtain ⟨es, u, hrun, hu⟩ := ih e t hst
    exact ⟨e :: es, u, (Run.single hst).append hrun, hu⟩

end Eventually

/-- A rank that is a sum falls when one of its terms falls and the others stay. -/
lemma sum_range_lt {α : Type*} [AddCommMonoid α] [PartialOrder α] [IsOrderedCancelAddMonoid α]
    {n k : Nat} {f g : Nat → α} (hk : k < n) (hless : f k < g k) (hrest : ∀ i, i ≠ k → f i = g i) :
    ∑ i ∈ Finset.range n, f i < ∑ i ∈ Finset.range n, g i := by
  refine Finset.sum_lt_sum (fun i _ => ?_) ⟨k, Finset.mem_range.mpr hk, hless⟩
  by_cases hi : i = k
  · exact hi ▸ hless.le
  · exact (hrest i hi).le

end MeshAgent.Foundations

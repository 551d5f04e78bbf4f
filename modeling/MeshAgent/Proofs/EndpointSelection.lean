import MeshAgent.Model.LoadBalancer

/-!
# Which endpoint is selected

The scan of `select_endpoint_time_based` runs downwards and moves on strict improvement
only: of the endpoints of minimal cost it keeps the last one.
-/

namespace MeshAgent.Proofs
open MeshAgent.Foundations MeshAgent.Model

/-- `k` is the last of the indices from `i` up to `n` at which the cost is minimal. -/
structure LeastFrom (cost : Nat → Int) (n i k : Nat) : Prop where
  ge : i ≤ k
  lt : k < n
  le_cost : ∀ j, i ≤ j → j < n → cost k ≤ cost j
  lt_cost : ∀ j, k < j → j < n → cost k < cost j

lemma selectLoop_least {cost : Nat → Int} {n i k : Nat} (h : LeastFrom cost n i k) :
    LeastFrom cost n 0 (LoadBalancer.selectLoop cost i k (cost k)) := by
  induction i generalizing k with
  | zero => exact h
  | succ i ih =>
    have hge := h.ge
    have hlt := h.lt
    rw [LoadBalancer.selectLoop]
    by_cases hless : cost i < cost k
    · rw [if_pos hless]
      apply ih
      refine ⟨Nat.le_refl i, by omega, ?_, ?_⟩
      · intro j hj hjn
        rcases Nat.eq_or_lt_of_le hj with rfl | hj
        · exact Int.le_refl _
        · exact Int.le_trans (Int.le_of_lt hless) (h.le_cost j hj hjn)
      · intro j hj hjn
        exact Int.lt_of_lt_of_le hless (h.le_cost j hj hjn)
    · rw [if_neg hless]
      apply ih
      refine ⟨by omega, hlt, ?_, h.lt_cost⟩
      intro j hj hjn
      rcases Nat.eq_or_lt_of_le hj with rfl | hj
      · exact Int.not_lt.mp hless
      · exact h.le_cost j hj hjn

/-- Endpoint `i` is the last one of minimal estimated cost. -/
def LeastCost (t : LimitTables) (lb : LoadBalancer) (i : Nat) : Prop :=
  LeastFrom (lb.estimateCost t) lb.numOfEnds 0 i

theorem selectIndex_leastCost (t : LimitTables) {lb : LoadBalancer} (h : 0 < lb.numOfEnds) :
    LeastCost t lb (lb.selectIndex t) := by
  apply selectLoop_least
  refine ⟨Nat.le_refl _, by omega, ?_, ?_⟩
  · intro j hj hjn
    have hlast : j = lb.numOfEnds - 1 := by omega
    rw [hlast]
  · intro j hj hjn
    omega

lemma numOfEnds_balancerStep {t : LimitTables} {lb lb' : LoadBalancer} {e : BalancerEvent}
    (hstep : BalancerStep t lb e lb') : lb'.numOfEnds = lb.numOfEnds := by
  cases hstep with
  | select => rfl
  | finish => rfl

end MeshAgent.Proofs

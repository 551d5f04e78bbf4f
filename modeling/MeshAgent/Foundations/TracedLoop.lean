import Mathlib.Tactic.Lemma
import Mathlib.Tactic.TypeStar

/-!
# Endless loops with a trace

A `for (;;)` body either returns or handles one event and goes round again. The
handler is logged before it runs, so the trace also shows a call that never returns.
-/

namespace MeshAgent.Foundations

variable {σ ε : Type*}

/-- One pass through the body. `emit e none`: the handler of `e` does not return. -/
inductive Pass (σ ε : Type*)
  | ret
  | emit (e : ε) (next : Option σ)

/-- The handled events and the state at the return; no state if the loop does not
return within `fuel` passes. -/
def tracedLoop (body : σ → Pass σ ε) : Nat → σ → List ε × Option σ
  | 0, _ => ([], none)
  | fuel + 1, s =>
    match body s with
    | .ret => ([], some s)
    | .emit e none => ([e], none)
    | .emit e (some s') => (e :: (tracedLoop body fuel s').1, (tracedLoop body fuel s').2)

variable {body : σ → Pass σ ε} {s s' : σ} {e : ε}

lemma tracedLoop_ret (fuel : Nat) (h : body s = .ret) :
    tracedLoop body (fuel + 1) s = ([], some s) := by
  simp [tracedLoop, h]

lemma tracedLoop_emit (fuel : Nat) (h : body s = .emit e (some s')) :
    tracedLoop body (fuel + 1) s =
      (e :: (tracedLoop body fuel s').1, (tracedLoop body fuel s').2) := by
  simp [tracedLoop, h]

/-- What every pass logs, the whole trace shows. -/
theorem tracedLoop_trace {Q : ε → Prop} (hbody : ∀ s e next, body s = .emit e next → Q e)
    (fuel : Nat) (s : σ) : ∀ e ∈ (tracedLoop body fuel s).1, Q e := by
  induction fuel generalizing s with
  | zero => simp [tracedLoop]
  | succ fuel ih =>
    intro e he
    rw [tracedLoop] at he
    split at he
    · simp at he
    · next hb =>
      rw [List.mem_singleton.mp he]
      exact hbody _ _ _ hb
    · next hb =>
      rcases List.mem_cons.mp he with rfl | hrest
      · exact hbody _ _ _ hb
      · exact ih _ e hrest

/-- The loop from the first state comes to the second one, where it begins a pass. -/
inductive Reaches (body : σ → Pass σ ε) : σ → σ → Prop
  | start (s : σ) : Reaches body s s
  | pass {s s' t : σ} {e : ε} (hpass : body s = .emit e (some s')) (hrest : Reaches body s' t) :
      Reaches body s t

/-- Finitely many passes lower the size, and the one after them returns. -/
inductive Shrinks (body : σ → Pass σ ε) (size : σ → Nat) : σ → Prop
  | ret {s : σ} (hpass : body s = .ret) : Shrinks body size s
  | pass {s s' : σ} {e : ε} (hpass : body s = .emit e (some s')) (hless : size s' < size s)
      (hrest : Shrinks body size s') : Shrinks body size s

variable {size : σ → Nat} {t : σ}

/-- What every pass preserves holds wherever the loop comes. -/
theorem Reaches.invariant {P : σ → Prop}
    (hbody : ∀ s e s', P s → body s = .emit e (some s') → P s') (h : Reaches body s t) (hs : P s) :
    P t := by
  induction h with
  | start => exact hs
  | pass hpass _ ih => exact ih (hbody _ _ _ hs hpass)

lemma tracedLoop_reaches {fuel : Nat} {es : List ε} (h : tracedLoop body fuel s = (es, some t)) :
    Reaches body s t := by
  induction fuel generalizing s es with
  | zero => exact absurd h (by simp [tracedLoop])
  | succ fuel ih =>
    cases hpass : body s with
    | ret =>
      rw [tracedLoop_ret fuel hpass] at h
      cases h
      exact .start _
    | emit e next =>
      cases next with
      | none => exact absurd h (by simp [tracedLoop, hpass])
      | some s' =>
        rw [tracedLoop_emit fuel hpass, Prod.mk.injEq] at h
        exact .pass hpass (ih (Prod.ext rfl h.2))

/-- As many passes as the size suffice. -/
theorem Shrinks.returns (h : Shrinks body size s) (fuel : Nat) (hfuel : size s < fuel) :
    ∃ es t, tracedLoop body fuel s = (es, some t) := by
  induction h generalizing fuel with
  | ret hpass =>
    obtain ⟨fuel, rfl⟩ : ∃ k, fuel = k + 1 := ⟨fuel - 1, by omega⟩
    exact ⟨[], _, tracedLoop_ret fuel hpass⟩
  | @pass s s' e hpass hless _ ih =>
    obtain ⟨fuel, rfl⟩ : ∃ k, fuel = k + 1 := ⟨fuel - 1, by omega⟩
    obtain ⟨es, t, hrest⟩ := ih fuel (by omega)
    exact ⟨e :: es, t, by rw [tracedLoop_emit fuel hpass, hrest]⟩

/-- A pass that leaves the state as it is is made for ever. -/
theorem tracedLoop_of_fixed (hpass : body s = .emit e (some s)) (fuel : Nat) :
    (tracedLoop body fuel s).2 = none := by
  induction fuel with
  | zero => rfl
  | succ fuel ih => rw [tracedLoop_emit fuel hpass, ih]

end MeshAgent.Foundations

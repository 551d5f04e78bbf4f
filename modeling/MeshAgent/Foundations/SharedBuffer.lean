import MeshAgent.Foundations.ByteMemory

/-!
# Transmission by reference

A transmission that keeps a reference reads its buffer whenever it goes on, so what it
transmits depends on what is stored there in the meantime.
-/

namespace MeshAgent.Foundations

variable {β : Type*}

/-- Nothing has changed from `bound` on. -/
def SameFrom (bound : Int) (m m' : Mem β) : Prop := ∀ x, bound ≤ x → m' x = m x

namespace SameFrom

variable {m m' m'' : Mem β} {bound : Int}

lemma refl (bound : Int) (m : Mem β) : SameFrom bound m m := fun _ _ => rfl

lemma trans (h : SameFrom bound m m') (h' : SameFrom bound m' m'') : SameFrom bound m m'' := by
  intro x hx
  rw [h' x hx, h x hx]

lemma mono (h : SameFrom bound m m') {bound' : Int} (hle : bound ≤ bound') :
    SameFrom bound' m m' :=
  fun x hx => h x (le_trans hle hx)

lemma write (m : Mem β) {a : Int} {cells : List β} (h : a + (cells.length : Int) ≤ bound) :
    SameFrom bound m (m.write a cells) :=
  fun x hx => Mem.write_apply_of_ge m a x cells (le_trans h hx)

end SameFrom

/-- What has been sent, followed by what the buffer at `base` still holds, is what was built
there. -/
def Intact (m : Mem β) (base : Int) (built sent : List β) : Prop :=
  sent ++ m.read (base + (sent.length : Int)) (built.length - sent.length) = built

namespace Intact

variable {m m' : Mem β} {base : Int} {built sent : List β}

lemma start (h : m.read base built.length = built) : Intact m base built [] := by
  unfold Intact
  simpa using h

theorem isPrefix (h : Intact m base built sent) : sent <+: built :=
  ⟨_, h⟩

theorem transmit (h : Intact m base built sent) {k : Nat} (hk : sent.length + k ≤ built.length) :
    Intact m base built (sent ++ m.read (base + (sent.length : Int)) k) := by
  have hrest : built.length - sent.length = k + (built.length - (sent.length + k)) := by omega
  have hnext : base + (sent.length : Int) + (k : Int) = base + ((sent.length + k : Nat) : Int) := by
    push_cast
    omega
  unfold Intact at h ⊢
  rw [hrest, Mem.read_add, hnext, ← List.append_assoc] at h
  rw [List.length_append, Mem.length_read]
  exact h

theorem of_sameFrom (h : Intact m base built sent)
    (hsame : SameFrom (base + (sent.length : Int)) m m') : Intact m' base built sent := by
  have hcells : m'.read (base + (sent.length : Int)) (built.length - sent.length) =
      m.read (base + (sent.length : Int)) (built.length - sent.length) := by
    apply Mem.read_congr
    intro k _
    exact hsame _ (by omega)
  unfold Intact at h ⊢
  rw [hcells]
  exact h

end Intact

end MeshAgent.Foundations

import Mathlib.Data.List.Basic
import Mathlib.Algebra.Order.Ring.Int
import Mathlib.Tactic.Lemma

/-!
# Cell memory

A memory is a total function from offsets to cells: what lies outside an allocated
block is some unknown value, not a failure. Blocks are read and stored as lists, so
that `memcpy`, `memset` and `memmove` are compositions of `read` and `write`.
-/

namespace MeshAgent.Foundations

/-- Cells addressed by offsets from one pointer; offsets may be negative. -/
abbrev Mem (β : Type*) := Int → β

namespace Mem

variable {β : Type*}

/-- The `n` cells from offset `a` on. -/
def read (m : Mem β) (a : Int) (n : Nat) : List β :=
  (List.range n).map (fun k : Nat => m (a + k))

/-- The memory after the cells `bs` are stored from offset `a` on. -/
def write (m : Mem β) (a : Int) (bs : List β) : Mem β :=
  fun x => if a ≤ x then (bs[(x - a).toNat]?).getD (m x) else m x

/-- `memmove`: the source is read before the destination is stored. -/
def move (m : Mem β) (dst src : Int) (n : Nat) : Mem β :=
  m.write dst (m.read src n)

@[simp] lemma length_read (m : Mem β) (a : Int) (n : Nat) : (m.read a n).length = n := by
  simp [read]

@[simp] lemma read_zero (m : Mem β) (a : Int) : m.read a 0 = [] := rfl

@[simp] lemma getElem_read (m : Mem β) (a : Int) (n k : Nat) (h : k < (m.read a n).length) :
    (m.read a n)[k] = m (a + (k : Int)) := by
  simp only [read, List.getElem_map, List.getElem_range]

lemma read_succ (m : Mem β) (a : Int) (n : Nat) :
    m.read a (n + 1) = m a :: m.read (a + 1) n := by
  apply List.ext_getElem
  · simp
  · intro k h1 h2
    cases k with
    | zero => simp
    | succ k =>
      simp only [getElem_read, List.getElem_cons_succ]
      congr 1
      push_cast
      omega

lemma read_add (m : Mem β) (a : Int) (n k : Nat) :
    m.read a (n + k) = m.read a n ++ m.read (a + (n : Int)) k := by
  induction n generalizing a with
  | zero => simp
  | succ n ih =>
    have hsum : n + 1 + k = (n + k) + 1 := by omega
    have hoff : a + 1 + (n : Int) = a + ((n + 1 : Nat) : Int) := by push_cast; omega
    rw [hsum, read_succ, read_succ, ih, List.cons_append, hoff]

lemma read_append_iff (m : Mem β) (a : Int) (xs ys : List β) :
    m.read a (xs ++ ys).length = xs ++ ys ↔
      m.read a xs.length = xs ∧ m.read (a + (xs.length : Int)) ys.length = ys := by
  rw [List.length_append, read_add]
  exact ⟨fun h => List.append_inj h (length_read m a xs.length), fun h => by rw [h.1, h.2]⟩

section Parts

variable {m : Mem β} {a : Int} {n : Nat} {xs ys : List β} (h : m.read a n = xs ++ ys)
include h

lemma length_of_read_append : n = xs.length + ys.length := by
  rw [← List.length_append, ← h, length_read]

lemma read_first : m.read a xs.length = xs := by
  rw [length_of_read_append h, read_add] at h
  exact (List.append_inj h (length_read m a xs.length)).1

lemma read_rest : m.read (a + (xs.length : Int)) ys.length = ys := by
  rw [length_of_read_append h, read_add] at h
  exact (List.append_inj h (length_read m a xs.length)).2

end Parts

lemma take_read (m : Mem β) (a : Int) (n k : Nat) (h : k ≤ n) :
    (m.read a n).take k = m.read a k := by
  obtain ⟨d, rfl⟩ := Nat.exists_eq_add_of_le h
  rw [read_add, List.take_left' (length_read m a k)]

lemma drop_read (m : Mem β) (a : Int) (n k : Nat) (h : k ≤ n) :
    (m.read a n).drop k = m.read (a + (k : Int)) (n - k) := by
  obtain ⟨d, rfl⟩ := Nat.exists_eq_add_of_le h
  rw [read_add, List.drop_left' (length_read m a k)]
  congr 1
  omega

lemma read_part {m : Mem β} {a : Int} {bs : List β} (h : m.read a bs.length = bs) {k n : Nat}
    (hk : k + n ≤ bs.length) : m.read (a + (k : Int)) n = (bs.drop k).take n := by
  have hdrop := drop_read m a bs.length k (by omega)
  rw [h] at hdrop
  rw [hdrop, take_read _ _ _ _ (by omega)]

lemma read_eq_iff (m : Mem β) (a : Int) (bs : List β) :
    m.read a bs.length = bs ↔ ∀ k (h : k < bs.length), m (a + (k : Int)) = bs[k] := by
  constructor
  · intro h k hk
    have hk' : k < (m.read a bs.length).length := by simpa using hk
    rw [← getElem_read m a bs.length k hk']
    simp only [h]
  · intro h
    apply List.ext_getElem
    · simp
    · intro k h1 h2
      rw [getElem_read]
      exact h k h2

lemma read_congr {m m' : Mem β} {a b : Int} {n : Nat}
    (h : ∀ k : Nat, k < n → m (a + (k : Int)) = m' (b + (k : Int))) :
    m.read a n = m'.read b n := by
  apply List.ext_getElem
  · simp
  · intro k h1 h2
    rw [getElem_read, getElem_read]
    exact h k (by simpa using h1)

lemma read_of_agree {m m' : Mem β} {a : Int} {bs : List β} (hm : m.read a bs.length = bs)
    (h : ∀ x < a + bs.length, m' x = m x) : m'.read a bs.length = bs := by
  rw [← hm, length_read]
  exact read_congr (fun k hk => h _ (by omega))

lemma apply_of_read_eq {m : Mem β} {a : Int} {bs : List β} (h : m.read a bs.length = bs)
    (x : Int) (hl : a ≤ x) (hr : x < a + (bs.length : Int)) :
    bs[(x - a).toNat]? = some (m x) := by
  have hk : (x - a).toNat < bs.length := by omega
  rw [List.getElem?_eq_getElem hk, ← (read_eq_iff m a bs).mp h _ hk]
  congr 2
  omega

lemma write_apply_of_lt (m : Mem β) (a x : Int) (bs : List β) (h : x < a) :
    m.write a bs x = m x := by
  simp [write, Int.not_le.mpr h]

lemma write_apply_of_ge (m : Mem β) (a x : Int) (bs : List β) (h : a + (bs.length : Int) ≤ x) :
    m.write a bs x = m x := by
  have hn : bs.length ≤ (x - a).toNat := by omega
  simp [write, List.getElem?_eq_none hn]

lemma write_apply (m : Mem β) (a x : Int) (bs : List β) (h : a ≤ x) :
    m.write a bs x = (bs[(x - a).toNat]?).getD (m x) := by
  simp [write, h]

lemma write_replicate_apply (m : Mem β) (a : Int) (c : β) {n k : Nat} (hk : k < n) :
    m.write a (List.replicate n c) (a + (k : Int)) = c := by
  have hidx : (a + (k : Int) - a).toNat = k := by omega
  rw [write_apply _ _ _ _ (by omega), hidx, List.getElem?_replicate, if_pos hk, Option.getD_some]

@[simp] lemma write_nil (m : Mem β) (a : Int) : m.write a [] = m := by
  funext x
  simp [write]

@[simp] lemma read_write_self (m : Mem β) (a : Int) (bs : List β) (n : Nat) (h : n = bs.length) :
    (m.write a bs).read a n = bs := by
  subst h
  rw [read_eq_iff]
  intro k hk
  have hi : (a + (k : Int) - a).toNat = k := by omega
  rw [write_apply _ _ _ _ (by omega), hi, List.getElem?_eq_getElem hk]
  rfl

lemma write_injective (m : Mem β) (a : Int) {bs cs : List β} (hlen : bs.length = cs.length)
    (h : m.write a bs = m.write a cs) : bs = cs := by
  have hread := congrArg (fun m : Mem β => m.read a bs.length) h
  simpa [hlen] using hread

lemma read_write_before (m : Mem β) (a b : Int) (bs : List β) (n : Nat)
    (h : b + (n : Int) ≤ a) : (m.write a bs).read b n = m.read b n := by
  apply read_congr
  intro k hk
  exact write_apply_of_lt m a _ bs (by omega)

lemma read_write_after (m : Mem β) (a b : Int) (bs : List β) (n : Nat)
    (h : a + (bs.length : Int) ≤ b) : (m.write a bs).read b n = m.read b n := by
  apply read_congr
  intro k _
  exact write_apply_of_ge m a _ bs (by omega)

lemma write_write_append (m : Mem β) (a b : Int) (bs cs : List β)
    (h : b = a + (bs.length : Int)) :
    (m.write a bs).write b cs = m.write a (bs ++ cs) := by
  subst h
  funext x
  rcases lt_or_ge x a with hx | hx
  · rw [write_apply_of_lt _ _ _ _ (by omega), write_apply_of_lt _ _ _ _ hx,
      write_apply_of_lt _ _ _ _ hx]
  · rcases lt_or_ge x (a + (bs.length : Int)) with hb | hb
    · rw [write_apply_of_lt _ _ _ _ hb, write_apply _ _ _ _ hx, write_apply _ _ _ _ hx,
        List.getElem?_append_left (by omega)]
    · have hi : (x - a).toNat - bs.length = (x - (a + (bs.length : Int))).toNat := by omega
      rw [write_apply _ _ _ _ hb, write_apply_of_ge _ _ _ _ hb, write_apply _ _ _ _ hx,
        List.getElem?_append_right (by omega), hi]

lemma write_write_front (m : Mem β) (a b : Int) (bs cs : List β) (h : b = a + (bs.length : Int)) :
    (m.write b cs).write a bs = m.write a (bs ++ cs) := by
  subst h
  funext x
  rcases lt_or_ge x a with hx | hx
  · rw [write_apply_of_lt _ _ _ _ hx, write_apply_of_lt _ _ _ _ (by omega),
      write_apply_of_lt _ _ _ _ hx]
  · rcases lt_or_ge x (a + (bs.length : Int)) with hb | hb
    · have hi : (x - a).toNat < bs.length := by omega
      rw [write_apply _ _ _ _ hx, write_apply _ _ _ _ hx, List.getElem?_append_left hi,
        List.getElem?_eq_getElem hi, Option.getD_some, Option.getD_some]
    · have hi : (x - a).toNat - bs.length = (x - (a + (bs.length : Int))).toNat := by omega
      rw [write_apply_of_ge _ _ _ _ hb, write_apply _ _ _ _ hb, write_apply _ _ _ _ hx,
        List.getElem?_append_right (by omega), hi]

lemma write_write_replace (m : Mem β) (a : Int) (bs cs : List β) (h : cs.length = bs.length) :
    (m.write a bs).write a cs = m.write a cs := by
  funext x
  rcases lt_or_ge x a with hx | hx
  · rw [write_apply_of_lt _ _ _ _ hx, write_apply_of_lt _ _ _ _ hx, write_apply_of_lt _ _ _ _ hx]
  · rcases lt_or_ge x (a + (bs.length : Int)) with hb | hb
    · have hi : (x - a).toNat < cs.length := by omega
      rw [write_apply (m.write a bs) a x cs hx, write_apply m a x cs hx,
        List.getElem?_eq_getElem hi, Option.getD_some, Option.getD_some]
    · rw [write_apply_of_ge _ _ _ _ (by omega), write_apply_of_ge _ _ _ _ hb,
        write_apply_of_ge _ _ _ _ (by omega)]

lemma write_write_inside (m : Mem β) (a b : Int) (us vs ws cs : List β)
    (hb : b = a + (us.length : Int)) (h : cs.length = vs.length) :
    (m.write a (us ++ (vs ++ ws))).write b cs = m.write a (us ++ (cs ++ ws)) := by
  rw [← write_write_append m a b us (vs ++ ws) hb, ← write_write_append m a b us (cs ++ ws) hb,
    ← write_write_append _ b _ vs ws rfl, write_write_front _ b _ cs ws (by rw [h]),
    ← write_write_append _ b (b + (vs.length : Int)) cs ws (by rw [h]),
    write_write_replace _ b vs cs h, write_write_append _ b _ cs ws (by rw [h])]

lemma write_restore (m : Mem β) (a : Int) (bs : List β) (n : Nat) (h : n = bs.length) :
    (m.write a bs).write a (m.read a n) = m := by
  funext x
  rcases lt_or_ge x a with hx | hx
  · rw [write_apply_of_lt _ _ _ _ hx, write_apply_of_lt _ _ _ _ hx]
  · rcases lt_or_ge x (a + (n : Int)) with hb | hb
    · have hi : (x - a).toNat < (m.read a n).length := by rw [length_read]; omega
      rw [write_apply _ _ _ _ hx, List.getElem?_eq_getElem hi, getElem_read, Option.getD_some]
      congr 1
      omega
    · rw [write_apply_of_ge _ _ _ _ (by rw [length_read]; omega),
        write_apply_of_ge _ _ _ _ (by omega)]

lemma write_read_self (m : Mem β) (a : Int) (n : Nat) : m.write a (m.read a n) = m := by
  funext x
  by_cases hx : x < a
  · exact write_apply_of_lt m a x _ hx
  · rw [write_apply m a x _ (by omega)]
    by_cases hin : (x - a).toNat < n
    · rw [List.getElem?_eq_getElem (by rw [length_read]; exact hin), Option.getD_some,
        getElem_read]
      congr 1
      omega
    · rw [List.getElem?_eq_none (by rw [length_read]; omega), Option.getD_none]

lemma write_agrees_iff (m : Mem β) {a lo hi : Int} {bs : List β} (hlo : lo ≤ a)
    (hhi : a + (bs.length : Int) ≤ hi) :
    (∀ x, lo ≤ x → x < hi → m.write a bs x = m x) ↔ m.read a bs.length = bs := by
  constructor
  · intro h
    rw [read_eq_iff]
    intro k hk
    have hcell := h (a + (k : Int)) (by omega) (by omega)
    have hi : (a + (k : Int) - a).toNat = k := by omega
    rw [write_apply _ _ _ _ (by omega), hi, List.getElem?_eq_getElem hk, Option.getD_some] at hcell
    exact hcell.symm
  · intro h x _ _
    rw [← h, write_read_self]

lemma read_move (m : Mem β) (dst src : Int) (n : Nat) :
    (m.move dst src n).read dst n = m.read src n := by
  rw [move, read_write_self _ _ _ _ (by simp)]

end Mem

end MeshAgent.Foundations

import MeshAgent.Foundations.PercentCoding
import MeshAgent.Proofs.Splitter

/-!
# Form bodies

A form body is `key=value` fields joined by `&`. The splitters find where its keys and
values begin and end.
-/

namespace MeshAgent.Proofs
open MeshAgent.Foundations MeshAgent.Model

/-- A field of a form body. -/
structure FormField where
  key : List UInt8
  value : List UInt8
  key_eq : 61 ∉ key
  key_amp : 38 ∉ key
  value_amp : 38 ∉ value

def FormField.bytes (f : FormField) : List UInt8 := f.key ++ 61 :: f.value

/-- The fields joined by `&`. -/
def formBody : List FormField → List UInt8
  | [] => []
  | [f] => f.bytes
  | f :: g :: fs => f.bytes ++ 38 :: formBody (g :: fs)

/-- The offsets of fields of which the first begins at `p`. -/
def fieldOffsets : Nat → List FormField → List Int
  | _, [] => []
  | p, f :: fs => ((p + f.key.length : Nat) : Int) :: ((p + f.bytes.length : Nat) : Int) ::
      fieldOffsets (p + f.bytes.length + 1) fs

lemma FormField.length_bytes (f : FormField) :
    f.bytes.length = f.key.length + 1 + f.value.length := by
  simp only [FormField.bytes, List.length_append, List.length_cons]
  omega

lemma formBody_cons (f : FormField) (fs : List FormField) :
    ∃ post, formBody (f :: fs) = f.key ++ 61 :: (f.value ++ post) ∧
      (fs = [] ∧ post = [] ∨ fs ≠ [] ∧ post = 38 :: formBody fs) := by
  cases fs with
  | nil => exact ⟨[], by simp [formBody, FormField.bytes], .inl ⟨rfl, rfl⟩⟩
  | cons g fs =>
    exact ⟨38 :: formBody (g :: fs), by simp [formBody, FormField.bytes], .inr ⟨by simp, rfl⟩⟩

lemma length_fieldOffsets (p : Nat) (fs : List FormField) :
    (fieldOffsets p fs).length = 2 * fs.length := by
  induction fs generalizing p with
  | nil => rfl
  | cons f fs ih =>
    simp only [fieldOffsets, List.length_cons, ih]
    omega

lemma splitOffsets_formBody (fs : List FormField) (hfs : fs ≠ []) (pre sep : List UInt8)
    (hsep : 61 ∉ sep) :
    SplitOffsets (pre ++ (sep ++ formBody fs)) pre.length
      (fieldOffsets (pre.length + sep.length) fs) := by
  induction fs generalizing pre sep with
  | nil => exact absurd rfl hfs
  | cons f fs ih =>
    obtain ⟨post, hbody, hpost⟩ := formBody_cons f fs
    have hkey : 61 ∉ sep ++ f.key := by simp [hsep, f.key_eq]
    have hval : 38 ∉ 61 :: f.value := by simp [f.value_amp]
    have hform : pre ++ (sep ++ formBody (f :: fs)) =
        pre ++ ((sep ++ f.key) ++ 61 :: (f.value ++ post)) := by
      rw [hbody]
      simp
    have hshape : pre ++ (sep ++ formBody (f :: fs)) =
        pre ++ (sep ++ f.key) ++ ((61 :: f.value) ++ post) := by
      rw [hbody]
      simp
    have hkeyEnd : (pre ++ (sep ++ f.key)).length = pre.length + sep.length + f.key.length := by
      simp only [List.length_append]
      omega
    have hvalEnd : pre.length + sep.length + f.key.length + (61 :: f.value).length =
        pre.length + sep.length + f.bytes.length := by
      rw [f.length_bytes, List.length_cons]
      omega
    have heq := firstAt_append pre (sep ++ f.key) (f.value ++ post) 61 hkey
    have hamp := nextOrEnd_append (pre ++ (sep ++ f.key)) (61 :: f.value) post 38 hval
      (by rcases hpost with ⟨-, rfl⟩ | ⟨-, rfl⟩ <;> simp)
    rw [← hform, ← List.length_append, hkeyEnd] at heq
    rw [← hshape, hkeyEnd, hvalEnd] at hamp
    have hlen : (pre ++ (sep ++ formBody (f :: fs))).length =
        pre.length + sep.length + f.bytes.length + post.length := by
      rw [hshape, List.length_append, hkeyEnd, List.length_append, ← Nat.add_assoc, hvalEnd]
    rw [fieldOffsets]
    rcases hpost with ⟨rfl, rfl⟩ | ⟨hne, rfl⟩
    · rw [List.length_nil, Nat.add_zero] at hlen
      rw [← hlen] at hamp ⊢
      exact .last heq hamp
    · have hrest := ih hne (pre ++ (sep ++ f.key) ++ (61 :: f.value)) [38] (by simp)
      rw [List.length_append, hkeyEnd, hvalEnd, List.length_singleton] at hrest
      exact .more heq hamp (by rw [hlen, List.length_cons]; omega)
        (by rw [hshape]; simpa [List.append_assoc] using hrest)

end MeshAgent.Proofs

import MeshAgent.Proofs.Reassembly
import MeshAgent.Proofs.RequestIsolation

/-!
# What encoding a frame does to the relay buffer

The vector splitters zero the 16 bytes behind the body, where the next frame may begin. One
of them puts the bytes back.
-/

namespace MeshAgent.Proofs
open MeshAgent.Foundations MeshAgent.Model

/-- The call of `generate_res_in_place` for the frame at the front of `raw_buf1` returns, and
every byte of the buffer is as before. -/
def LeavesBuffer (b : Build) (dubboPackage : Mem UInt8) (relay : TcpRelay) : Prop :=
  ∃ raw res size, generateResInPlace b dubboPackage relay.rawBuf1 12
      (toShort (fourCharToInt relay.rawBuf1 0)) (bytes8ToLong relay.rawBuf1 4) =
        some (raw, res, size) ∧
    ∀ x : Int, 0 ≤ x → x < relay.maxBufferSize → raw x = relay.rawBuf1 x

/-- The call returns, and `rest` is still received behind the frame of `n` bytes. -/
def KeepsReceived (b : Build) (dubboPackage : Mem UInt8) (relay : TcpRelay) (n : Nat)
    (rest : List UInt8) : Prop :=
  ∃ raw res size, generateResInPlace b dubboPackage relay.rawBuf1 12
      (toShort (fourCharToInt relay.rawBuf1 0)) (bytes8ToLong relay.rawBuf1 4) =
        some (raw, res, size) ∧
    raw.read n rest.length = rest

/-- A frame of a request that the splitter takes apart into at most 15 fields. -/
structure EncodableFrame (f : List UInt8) : Prop where
  lengthPrefixed : LengthPrefixed 12 0 f
  short : f.length ≤ 4080
  hasEq : 61 ∈ f.drop 12
  noAmp : NoAmpAfterLastEq (f.drop 12)
  count : ∀ off, SplitOffsets (f.drop 12) 0 off → off.length / 2 ≤ 15

section

variable {b : Build} {relay : TcpRelay} {f rest : List UInt8}

lemma generateResInPlace_frame (b : Build) (dubboPackage : Mem UInt8) (hrelay : RelayFits1 relay)
    (hf : EncodableFrame f) (hcontent : content1 relay = f ++ rest) :
    ∃ res size, generateResInPlace b dubboPackage relay.rawBuf1 12
        (toShort (fourCharToInt relay.rawBuf1 0)) (bytes8ToLong relay.rawBuf1 4) =
      some (afterSplit b relay.rawBuf1 12 ((f.length : Int) - 12), res, size) := by
  have hcap : pDefaultPackageSize = 4096 := rfl
  have hle := hf.lengthPrefixed.le_length
  have hshort := hf.short
  have hsize := hrelay.2
  obtain ⟨-, hpayload⟩ := read_header_payload hf.lengthPrefixed hcontent
  have hbuffered := bufferedFrame_of_frame hf.lengthPrefixed (by decide) (by omega) hcontent
  obtain ⟨-, hlength, -⟩ := (bufferedFrame_eq_some_iff (by decide) (by omega)).mp hbuffered
  have hbody : (f.drop 12).length = f.length - 12 := List.length_drop
  have hlen : (f.length : Int) - (12 : Nat) = (f.drop 12).length := by omega
  rw [hlen, Int.toNat_natCast] at hpayload
  rw [hlen, Nat.cast_zero] at hlength
  obtain ⟨off, hoff⟩ := exists_splitOffsets_of_noAmp (f.drop 12) hf.hasEq hf.noAmp
  have hgen := generateResInPlace_eq_serializedPackage b hpayload (by omega) hoff
    (hf.count off hoff) dubboPackage (bytes8ToLong relay.rawBuf1 4)
  rw [← hlength, toShort_eq_self (by omega) (by omega)]
  rw [Nat.cast_ofNat] at hgen hlen
  rw [hlen]
  exact ⟨_, _, hgen⟩

lemma exists_generateResInPlace_iff (b : Build) (dubboPackage : Mem UInt8)
    (hrelay : RelayFits1 relay) (hf : EncodableFrame f) (hcontent : content1 relay = f ++ rest)
    (P : Mem UInt8 → Prop) :
    (∃ raw res size, generateResInPlace b dubboPackage relay.rawBuf1 12
        (toShort (fourCharToInt relay.rawBuf1 0)) (bytes8ToLong relay.rawBuf1 4) =
          some (raw, res, size) ∧ P raw) ↔
      P (afterSplit b relay.rawBuf1 12 ((f.length : Int) - 12)) := by
  obtain ⟨res, size, hgen⟩ := generateResInPlace_frame b dubboPackage hrelay hf hcontent
  constructor
  · rintro ⟨raw, res', size', hret, hraw⟩
    rw [hgen, Option.some.injEq, Prod.mk.injEq] at hret
    rwa [hret.1]
  · exact fun hraw => ⟨_, _, _, hgen, hraw⟩

/-- Encoding the first frame changes no byte of the buffer, exactly on the builds that put
the bytes back or do not touch them, and where there are zeros already. -/
theorem leavesBuffer_iff (b : Build) (dubboPackage : Mem UInt8) (relay : TcpRelay)
    (f rest : List UInt8) (hrelay : RelayFits1 relay) (hf : EncodableFrame f)
    (hcontent : content1 relay = f ++ rest) :
    LeavesBuffer b dubboPackage relay ↔
      b ≠ .bmi ∨ relay.rawBuf1.read f.length 16 = List.replicate 16 0 := by
  have hcap : pDefaultPackageSize = 4096 := rfl
  have hshort := hf.short
  have hmax := hrelay.1
  rw [LeavesBuffer, exists_generateResInPlace_iff b dubboPackage hrelay hf hcontent
    fun raw => ∀ x : Int, 0 ≤ x → x < relay.maxBufferSize → raw x = relay.rawBuf1 x]
  by_cases hb : b = .bmi
  · subst hb
    have hbehind : (12 : Int) + ((f.length : Int) - 12) = f.length := by omega
    simp only [afterSplit, hbehind, ne_eq, not_true_eq_false, false_or]
    exact Mem.write_agrees_iff _ (by omega) (by rw [List.length_replicate]; omega)
  · rw [afterSplit_of_ne_bmi hb]
    simp [hb]

/-- The frame of the body `a=1` with the id 7. -/
def fieldFrame : List UInt8 := intToFourChar 3 ++ (longTo8bytes 7 ++ [97, 61, 49])

lemma encodableFrame_fieldFrame : EncodableFrame fieldFrame where
  lengthPrefixed := lengthPrefixed_frame (by decide) (by decide) (by decide)
  short := by decide
  hasEq := by decide
  noAmp := noAmpAfterLastEq_append [97] [49] (by decide) (by decide)
  count := fun _ hoff => le_trans hoff.count_le (by decide)

/-- A relay that has received the frame twice. -/
def twoFrames : TcpRelay where
  rawBuf1 := Mem.write (fun _ => 0) 0 (fieldFrame ++ fieldFrame)
  rawBuf2 := fun _ => 0
  rawBuf1Size := 30
  rawBuf2Size := 0
  maxBufferSize := pDefaultPackageSize

lemma content1_twoFrames : content1 twoFrames = fieldFrame ++ fieldFrame :=
  Mem.read_write_self _ _ _ _ (by decide)

theorem leavesBuffer_sse42 : LeavesBuffer .sse42 (fun _ => 0) twoFrames :=
  (leavesBuffer_iff .sse42 _ twoFrames fieldFrame fieldFrame ⟨rfl, by decide⟩
    encodableFrame_fieldFrame content1_twoFrames).mpr (.inl (by decide))

/-- The low byte of the second frame's length becomes 0. -/
theorem second_length_zeroed :
    ¬ ∀ (b : Build) (dubboPackage : Mem UInt8) (relay : TcpRelay) (f rest : List UInt8),
      RelayFits1 relay → EncodableFrame f → content1 relay = f ++ rest →
      LeavesBuffer b dubboPackage relay := by
  intro h
  have hfits : RelayFits1 twoFrames := ⟨rfl, by decide⟩
  have hleaves := h .bmi (fun _ => 0) twoFrames fieldFrame fieldFrame hfits
    encodableFrame_fieldFrame content1_twoFrames
  have hsame := (exists_generateResInPlace_iff .bmi (fun _ => 0) hfits encodableFrame_fieldFrame
    content1_twoFrames fun raw => ∀ x : Int, 0 ≤ x → x < twoFrames.maxBufferSize →
      raw x = twoFrames.rawBuf1 x).mp hleaves
  exact absurd (hsame 18 (by decide) (by decide)) (by decide)

/-- The received bytes behind the frame, which the next passes parse, survive on the same
builds, and where the first 16 of them are zeros. -/
theorem keepsReceived_iff (b : Build) (dubboPackage : Mem UInt8) (relay : TcpRelay)
    (f rest : List UInt8) (hrelay : RelayFits1 relay) (hf : EncodableFrame f)
    (hcontent : content1 relay = f ++ rest) :
    KeepsReceived b dubboPackage relay f.length rest ↔ b ≠ .bmi ∨ ∀ c ∈ rest.take 16, c = 0 := by
  have hrest : relay.rawBuf1.read (0 + (f.length : Int)) rest.length = rest :=
    Mem.read_rest hcontent
  rw [zero_add] at hrest
  rw [KeepsReceived, exists_generateResInPlace_iff b dubboPackage hrelay hf hcontent
    fun raw => raw.read f.length rest.length = rest]
  by_cases hb : b = .bmi
  · subst hb
    have hbehind : (12 : Int) + ((f.length : Int) - 12) = f.length := by omega
    simp only [afterSplit, hbehind, ne_eq, not_true_eq_false, false_or]
    rw [Mem.read_eq_iff] at hrest ⊢
    constructor
    · intro hkept c hc
      obtain ⟨k, hk, rfl⟩ := List.mem_iff_getElem.mp hc
      have hshort := hk
      rw [List.length_take] at hshort
      have hzero := hkept k (by omega)
      rw [Mem.write_replicate_apply _ _ _ (by omega)] at hzero
      rw [List.getElem_take]
      exact hzero.symm
    · intro hzeros k hk
      by_cases hin : k < 16
      · rw [Mem.write_replicate_apply _ _ _ hin]
        have hk' : k < (rest.take 16).length := by
          rw [List.length_take]
          omega
        have hzero := hzeros _ (List.getElem_mem hk')
        rw [List.getElem_take] at hzero
        exact hzero.symm
      · rw [Mem.write_apply_of_ge _ _ _ _ (by rw [List.length_replicate]; omega)]
        exact hrest k hk
  · rw [afterSplit_of_ne_bmi hb]
    simp [hb, hrest]

end

end MeshAgent.Proofs

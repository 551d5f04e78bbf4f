import MeshAgent.Model.HardCodedPackage
import MeshAgent.Proofs.Transcoding

/-!
# The three encoders agree

On the one method that the hard-wired paths serve, they write the package that the general
transcoder writes.
-/

namespace MeshAgent.Proofs
open MeshAgent.Foundations MeshAgent.Model

/-- `interface=...&method=hash&parameterTypesString=Ljava%2Flang%2FString%3B&parameter=` -/
def hashRequest : List UInt8 :=
  ascii ['i', 'n', 't', 'e', 'r', 'f', 'a', 'c', 'e', '='] ++ (helloService ++
    ascii ['&', 'm', 'e', 't', 'h', 'o', 'd', '=', 'h', 'a', 's', 'h', '&', 'p', 'a', 'r', 'a',
      'm', 'e', 't', 'e', 'r', 'T', 'y', 'p', 'e', 's', 'S', 't', 'r', 'i', 'n', 'g', '=', 'L',
      'j', 'a', 'v', 'a', '%', '2', 'F', 'l', 'a', 'n', 'g', '%', '2', 'F', 'S', 't', 'r', 'i',
      'n', 'g', '%', '3', 'B', '&', 'p', 'a', 'r', 'a', 'm', 'e', 't', 'e', 'r', '='])

lemma amp_notMem_helloService : 38 ∉ helloService := by decide

lemma amp_notMem_hash : 38 ∉ ascii ['h', 'a', 's', 'h'] := by decide

lemma amp_notMem_javaLangString :
    38 ∉ ascii ['L', 'j', 'a', 'v', 'a', '%', '2', 'F', 'l', 'a', 'n', 'g', '%', '2', 'F', 'S', 't',
      'r', 'i', 'n', 'g', '%', '3', 'B'] := by decide

/-- The fields of that request. -/
def hashRequestFields (parameter : List UInt8) (h : 38 ∉ parameter) : List FormField :=
  [postField 0 helloService amp_notMem_helloService,
    postField 1 (ascii ['h', 'a', 's', 'h']) amp_notMem_hash,
    postField 2 (ascii ['L', 'j', 'a', 'v', 'a', '%', '2', 'F', 'l', 'a', 'n', 'g', '%', '2', 'F',
      'S', 't', 'r', 'i', 'n', 'g', '%', '3', 'B']) amp_notMem_javaLangString,
    postField 3 parameter h]

/-- The body that all three write. -/
def hashPackageBody (parameter : List UInt8) : List UInt8 :=
  methodDetailValuesOnea ++ 34 :: (parameter ++ 34 :: hardCodePath)

lemma length_helloService : helloService.length = 57 := rfl

lemma length_hashRequest : hashRequest.length = 136 := by
  rw [hashRequest, List.length_append, List.length_append, length_helloService]
  rfl

lemma length_methodDetailValuesOnea : methodDetailValuesOnea.length = 101 := rfl

lemma length_hardCodePath : hardCodePath.length = 70 := rfl

lemma methodDetailValuesOne_eq : methodDetailValuesOne = methodDetailValuesOnea := rfl

lemma methodDetailPath_eq : methodDetailPath = hardCodePath := rfl

section

variable {parameter : List UInt8}

lemma length_hashPackageBody : (hashPackageBody parameter).length = 173 + parameter.length := by
  simp only [hashPackageBody, List.length_append, List.length_cons,
    length_methodDetailValuesOnea, length_hardCodePath]
  omega

lemma formBody_hashRequestFields (h : 38 ∉ parameter) :
    formBody (hashRequestFields parameter h) = hashRequest ++ parameter := by
  rfl

lemma knownValid_hashRequestFields (h : 38 ∉ parameter) (hpercent : 37 ∉ parameter) :
    KnownValid (hashRequestFields parameter h) := by
  apply knownValid_of_forall
  intro f hf
  simp only [hashRequestFields, List.mem_cons, List.not_mem_nil, or_false] at hf
  rcases hf with rfl | rfl | rfl | rfl
  · exact percentValid_of_notMem (by decide)
  · exact percentValid_of_notMem (by decide)
  · have hclass : PercentValid (ascii ['%', '3', 'B']) :=
      percentValid_nil.cons_escape (by decide) (by decide)
    have hlang := (hclass.append (u := ascii ['S', 't', 'r', 'i', 'n', 'g'])
      (by decide)).cons_escape
      (d := 50) (l := 70) (by decide) (by decide)
    exact ((hlang.append (u := ascii ['l', 'a', 'n', 'g']) (by decide)).cons_escape
      (d := 50) (l := 70) (by decide) (by decide)).append
        (u := ascii ['L', 'j', 'a', 'v', 'a']) (by decide)
  · exact percentValid_of_notMem hpercent

lemma dubboBody_hashRequestFields (h : 38 ∉ parameter) (hpercent : 37 ∉ parameter) :
    dubboBody (hashRequestFields parameter h) = hashPackageBody parameter := by
  have h0 : knownLine (hashRequestFields parameter h) 0 = 34 :: (helloService ++ [34, 10]) := by
    change 34 :: (percentDecode helloService ++ [34, 10]) = _
    rw [percentDecode_self (by decide)]
  have h3 : knownLine (hashRequestFields parameter h) 3 = 34 :: (parameter ++ [34, 10]) := by
    change 34 :: (percentDecode parameter ++ [34, 10]) = _
    rw [percentDecode_self hpercent]
  have hpath : pathLine (hashRequestFields parameter h) =
      pathPrefix ++ (helloService ++ pathSuffix) := rfl
  have h1 : knownLine (hashRequestFields parameter h) 1 =
      ascii ['"', 'h', 'a', 's', 'h', '"', '\n'] := by
    rfl
  have h2 : knownLine (hashRequestFields parameter h) 2 =
      ascii ['"', 'L', 'j', 'a', 'v', 'a', '/', 'l', 'a', 'n', 'g', '/', 'S', 't', 'r', 'i', 'n',
        'g', ';', '"', '\n'] := by
    rfl
  rw [dubboBody, h0, h1, h2, h3, hpath]
  unfold hashPackageBody methodDetailValuesOnea hardCodePath
  simp [dubboVersion, nullLine, pathPrefix, pathSuffix, ascii]

variable {m : Mem UInt8} {str : Int}

lemma read_parameter (hm : m.read str (136 + parameter.length) = hashRequest ++ parameter) :
    m.read (str + 136) parameter.length = parameter := by
  have hsplit : m.read str (hashRequest ++ parameter).length = hashRequest ++ parameter := by
    rw [List.length_append, length_hashRequest, hm]
  have h := ((Mem.read_append_iff m str hashRequest parameter).mp hsplit).2
  rw [length_hashRequest] at h
  exact h

lemma write_hashPackageBody (res : Mem UInt8) (parameter : List UInt8) :
    ((((res.write 16 methodDetailValuesOnea).write 117 [34]).write 118 parameter).write
        (118 + (parameter.length : Int)) [34]).write (119 + (parameter.length : Int)) hardCodePath =
      res.write 16 (hashPackageBody parameter) := by
  have hquote : (117 : Int) = 16 + (methodDetailValuesOnea.length : Int) := by
    rw [length_methodDetailValuesOnea]
    norm_num
  have hpath : 119 + (parameter.length : Int) =
      118 + (parameter.length : Int) + (([34] : List UInt8).length : Int) := by
    rw [List.length_singleton]
    push_cast
    omega
  rw [Mem.write_write_append _ _ _ _ _ hpath, Mem.write_write_append _ _ _ _ _ rfl,
    Mem.write_write_append _ 117 118 _ _ rfl, Mem.write_write_append _ _ _ _ _ hquote]
  rfl

lemma take_methodDetailValuesOnea :
    methodDetailValuesOnea.take 101 = methodDetailValuesOnea := rfl

lemma take_hardCodePath : hardCodePath.take 70 = hardCodePath := rfl

lemma generateBodyHardCode_eq (res : Mem UInt8)
    (hm : m.read (str + 136) parameter.length = parameter) :
    generateBodyHardCode res m (str + 136) parameter.length =
      some (16 + ((hashPackageBody parameter).length : Int),
        res.write 16 (hashPackageBody parameter)) := by
  have hnonneg : ¬ (parameter.length : Int) < 0 := by omega
  have hend : (119 : Int) + parameter.length + (70 : Nat) =
      16 + ((173 + parameter.length : Nat) : Int) := by
    push_cast
    omega
  have hclose : (16 : Int) + 101 + 1 + parameter.length + 1 = 119 + parameter.length := by
    omega
  unfold generateBodyHardCode
  rw [if_neg hnonneg, Int.toNat_natCast, hm, take_methodDetailValuesOnea, length_hardCodePath,
    length_hashPackageBody, ← write_hashPackageBody]
  simp only [hclose, hend]
  rfl

/-- The package that all three write. -/
def hashPackage (parameter : List UInt8) (reqId : Int) : List UInt8 :=
  dubboHeader reqId (hashPackageBody parameter).length ++ hashPackageBody parameter

lemma length_hashPackage (parameter : List UInt8) (reqId : Int) :
    (hashPackage parameter reqId).length = 16 + (hashPackageBody parameter).length := by
  rw [hashPackage, List.length_append, length_dubboHeader]

lemma toShort_sub (hsize : parameter.length ≤ 32000) :
    toShort (136 + parameter.length : Nat) - 136 = parameter.length := by
  rw [toShort, signed_eq_self (k := 15) (by push_cast; omega) (by push_cast; omega)]
  push_cast
  omega

lemma generateResInPlaceHardCode_eq (hsize : parameter.length ≤ 32000) (res : Mem UInt8)
    (hm : m.read (str + 136) parameter.length = parameter) (reqId : Int) :
    generateResInPlaceHardCode res m str (136 + parameter.length : Nat) reqId =
      some (res.write 0 (hashPackage parameter reqId),
        ((hashPackage parameter reqId).length : Int)) := by
  have hlen := toShort_sub hsize
  have hbody : (16 + ((hashPackageBody parameter).length : Int)) - 16 =
      (hashPackageBody parameter).length := by
    omega
  unfold generateResInPlaceHardCode
  simp only [hlen, generateBodyHardCode_eq res hm, Option.bind_eq_bind, Option.bind_some, hbody,
    generateHeader_eq]
  rw [length_hashPackage]
  push_cast
  rfl

lemma generateFastReqPackageInPlace_eq (hsize : parameter.length ≤ 32000) (res : Mem UInt8)
    (hm : m.read (str + 136) parameter.length = parameter) (reqId : Int) :
    ∃ fast, generateFastReqPackageInPlace res m str (136 + parameter.length : Nat) reqId =
        some (fast, ((14 + parameter.length : Nat) : Int)) ∧
      fast.read 6 8 = longTo8bytes reqId ∧ fast.read 14 parameter.length = parameter := by
  have hlen := toShort_sub hsize
  have hnonneg : ¬ (parameter.length : Int) < 0 := by omega
  have hret : (parameter.length : Int) + 14 = ((14 + parameter.length : Nat) : Int) := by
    push_cast
    omega
  refine ⟨generateFastReqPackageHeader (res.write 14 parameter) parameter.length reqId, ?_, ?_, ?_⟩
  · unfold generateFastReqPackageInPlace
    simp only [hlen, if_neg hnonneg, hret, Int.toNat_natCast, hm]
  · unfold generateFastReqPackageHeader
    rw [Mem.read_write_self _ _ _ _ (by simp)]
  · unfold generateFastReqPackageHeader
    simp only
    rw [Mem.read_write_after _ _ _ _ _ (by simp), Mem.read_write_after _ _ _ _ _ (by simp),
      Mem.read_write_self _ _ _ _ rfl]

lemma generateDubboPackage_eq (res : Mem UInt8) {fast : Mem UInt8} {reqId : Int}
    (hid : fast.read 6 8 = longTo8bytes reqId)
    (hparameter : fast.read 14 parameter.length = parameter) :
    generateDubboPackage res fast (14 + parameter.length : Nat) =
      some (res.write 0 (hashPackage parameter reqId),
        ((hashPackage parameter reqId).length : Int)) := by
  have hnot : ¬ ((14 + parameter.length : Nat) : Int) < 14 := by omega
  have hlen : ((14 + parameter.length : Nat) : Int) - 14 = parameter.length := by omega
  have hclose : (16 : Int) + 101 + 1 + parameter.length + 1 = 119 + parameter.length := by
    omega
  have hend : (119 : Int) + parameter.length + 70 =
      16 + ((hashPackageBody parameter).length : Int) := by
    rw [length_hashPackageBody]
    push_cast
    omega
  have hbody : 16 + ((hashPackageBody parameter).length : Int) - 16 =
      (hashPackageBody parameter).length := by
    omega
  have hmerge := write_hashPackageBody
    ((res.write 0 (headerBytes.take 4)).write 4 (longTo8bytes reqId)) parameter
  unfold generateDubboPackage
  rw [if_neg hnot]
  simp only [hlen, hid, Int.toNat_natCast, hparameter, methodDetailValuesOne_eq,
    methodDetailPath_eq, take_methodDetailValuesOnea, take_hardCodePath, hclose, hend, hbody]
  have hwrite : ((((res.write 0 (headerBytes.take 4)).write 4 (longTo8bytes reqId)).write 16
        (hashPackageBody parameter)).write 12
          (intToFourChar ((hashPackageBody parameter).length : Int))) =
      res.write 0 (hashPackage parameter reqId) := by
    rw [Mem.write_write_front _ 12 16 _ _ (by simp), Mem.write_write_append _ 0 4 _ _ rfl,
      Mem.write_write_append _ 0 12 _ _ (by simp [headerBytes]), intToFourChar_eq]
    simp [hashPackage, dubboHeader, headerBytes, longTo8bytes]
  rw [length_hashPackage, ← hwrite, ← hmerge]
  push_cast
  rfl

end

/-- On the hash request, with any parameter that needs no decoding, the three encoders write
the same package and return its length. -/
theorem encoders_agree (b : Build) (parameter : List UInt8) (hamp : 38 ∉ parameter)
    (hpercent : 37 ∉ parameter) (hsize : parameter.length ≤ 32000) (reqId : Int)
    (m : Mem UInt8) (str : Int)
    (hm : m.read str (136 + parameter.length) = hashRequest ++ parameter)
    (res resHardCode fastPackage resFast : Mem UInt8) :
    ∃ (package : List UInt8) (m' fast : Mem UInt8) (fastLen : Int),
      generateResInPlace b res m str (136 + parameter.length : Nat) reqId =
        some (m', res.write 0 package, (package.length : Int)) ∧
      generateResInPlaceHardCode resHardCode m str (136 + parameter.length : Nat) reqId =
        some (resHardCode.write 0 package, (package.length : Int)) ∧
      generateFastReqPackageInPlace fastPackage m str (136 + parameter.length : Nat) reqId =
        some (fast, fastLen) ∧
      generateDubboPackage resFast fast fastLen =
        some (resFast.write 0 package, (package.length : Int)) := by
  have hform := formBody_hashRequestFields hamp
  have hlen : (formBody (hashRequestFields parameter hamp)).length = 136 + parameter.length := by
    rw [hform, List.length_append, length_hashRequest]
  have hvalid := knownValid_hashRequestFields hamp hpercent
  have hread : m.read str (formBody (hashRequestFields parameter hamp)).length =
      formBody (hashRequestFields parameter hamp) := by
    rw [hlen, hm, hform]
  obtain ⟨package, hpackage, hgen⟩ := generateResInPlace_eq b (hashRequestFields parameter hamp)
    (by simp [hashRequestFields]) (by simp [hashRequestFields]) (by omega) hread res reqId
  have heq : package = hashPackage parameter reqId := by
    rw [hpackage.eq_of_valid hvalid, dubboPackage, dubboBody_hashRequestFields hamp hpercent]
    rfl
  obtain ⟨fast, hfast, hid, hparameter⟩ :=
    generateFastReqPackageInPlace_eq hsize fastPackage (read_parameter hm) reqId
  rw [hlen] at hgen
  refine ⟨package, _, fast, _, hgen, ?_, hfast, ?_⟩
  · rw [heq]
    exact generateResInPlaceHardCode_eq hsize resHardCode (read_parameter hm) reqId
  · rw [heq]
    exact generateDubboPackage_eq resFast hid hparameter

/-- The parameter `a=` and an empty buffer around the body. -/
theorem encoders_agree_short :
    ∃ (package : List UInt8) (m' fast : Mem UInt8) (fastLen : Int),
      generateResInPlace .sse42 (fun _ => 0)
          (Mem.write (fun _ => 0) 0 (hashRequest ++ [97, 61])) 0 (136 + 2 : Nat) (-7) =
        some (m', Mem.write (fun _ => 0) 0 package, (package.length : Int)) ∧
      generateResInPlaceHardCode (fun _ => 1)
          (Mem.write (fun _ => 0) 0 (hashRequest ++ [97, 61])) 0 (136 + 2 : Nat) (-7) =
        some (Mem.write (fun _ => 1) 0 package, (package.length : Int)) ∧
      generateFastReqPackageInPlace (fun _ => 2)
          (Mem.write (fun _ => 0) 0 (hashRequest ++ [97, 61])) 0 (136 + 2 : Nat) (-7) =
        some (fast, fastLen) ∧
      generateDubboPackage (fun _ => 3) fast fastLen =
        some (Mem.write (fun _ => 3) 0 package, (package.length : Int)) :=
  encoders_agree .sse42 [97, 61] (by decide) (by decide) (by decide) (-7) _ 0
    (Mem.read_write_self _ _ _ _ (by rw [List.length_append, length_hashRequest])) _ _ _ _

end MeshAgent.Proofs

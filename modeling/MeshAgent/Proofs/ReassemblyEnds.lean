import MeshAgent.Proofs.BodyCuts
import MeshAgent.Proofs.Reassembly

/-!
# When the reassembly loops end

A length field is signed. A frame that is found complete has between zero bytes and all that is
buffered; a frame of zero bytes is taken off for ever.
-/

namespace MeshAgent.Proofs
open MeshAgent.Foundations MeshAgent.Model

/-- The length field of the first frame makes it a frame that is buffered as a whole. -/
def Complete (header o : Nat) (raw : Mem UInt8) (size : Nat) : Prop :=
  header ≤ size ∧ 0 ≤ header + fourCharToInt raw o ∧ header + fourCharToInt raw o ≤ size

/-- The first `n` of `size` buffered bytes are gone. -/
def dropFront (raw : Mem UInt8) (size n : Nat) : Mem UInt8 := raw.move 0 n (size - n)

/-- The length fields cut the buffered bytes into frames, up to one that is not complete. Each
frame before it has a positive size and can be handled, which leaves `after`. -/
inductive FramesHandled (header o : Nat) (handled : Mem UInt8 → Int → Prop)
    (after : Mem UInt8 → Int → Mem UInt8) : Mem UInt8 → Nat → Prop
  | rest {raw : Mem UInt8} {size : Nat} : ¬ Complete header o raw size →
      FramesHandled header o handled after raw size
  | frame {raw : Mem UInt8} {size n : Nat} : Complete header o raw size →
      header + fourCharToInt raw o = n → 0 < n → handled raw (fourCharToInt raw o) →
      FramesHandled header o handled after (dropFront (after raw (fourCharToInt raw o)) size n)
        (size - n) →
      FramesHandled header o handled after raw size

/-- A read callback returns, each pass of its loop but the last lowers the size, and no pass
takes more off than is there. -/
structure Ends {σ ε : Type} (body : σ → Pass σ ε) (size taken : σ → Nat)
    (callback : List ε × Option σ) (s : σ) : Prop where
  returns : ∃ es t, callback = (es, some t)
  shrinks : Shrinks body size s
  noWrap : ∀ t, Reaches body s t → taken t ≤ size t

lemma bufferedFrame_of_complete {header o : Nat} {raw : Mem UInt8} {size n : Nat}
    (hheader : header < 2 ^ 31) (hsize : size < 2 ^ 31) (h : Complete header o raw size)
    (hn : header + fourCharToInt raw o = n) :
    bufferedFrame header o raw size = some (fourCharToInt raw o, (n : Int)) := by
  obtain ⟨hle, hnonneg, hfits⟩ := h
  rw [bufferedFrame_eq_some_iff hheader hsize]
  exact ⟨hle, rfl, hn.symm, by omega, by omega⟩

lemma bufferedFrame_of_not_complete {header o : Nat} {raw : Mem UInt8} {size : Nat}
    (hheader : header < 2 ^ 31) (hsize : size < 2 ^ 31) (h : ¬ Complete header o raw size) :
    bufferedFrame header o raw size = none := by
  by_contra hfound
  obtain ⟨⟨length, lastLength⟩, hfound⟩ := Option.ne_none_iff_exists'.mp hfound
  obtain ⟨hle, rfl, rfl, hnonneg, hfits⟩ := (bufferedFrame_eq_some_iff hheader hsize).mp hfound
  exact h ⟨hle, hnonneg, hfits⟩

/-- A pass that takes the frame in front off, if it is complete and can be handled, and keeps what
the handling looks at besides the buffer. -/
structure TakesOff {σ ε : Type} (header o : Nat) (raw : σ → Mem UInt8) (size : σ → Nat)
    (handled : Mem UInt8 → Int → Prop) (after : Mem UInt8 → Int → Mem UInt8) (Inv : σ → Prop)
    (body : σ → Pass σ ε) : Prop where
  ret : ∀ s, bufferedFrame header o (raw s) (size s) = none → body s = .ret
  emit : ∀ s (length : Int) (n : Nat), Inv s → header + length = n → n ≤ size s → size s ≤ 4096 →
    bufferedFrame header o (raw s) (size s) = some (length, (n : Int)) →
    ∃ e next, body s = .emit e next ∧ (next.isSome = true ↔ handled (raw s) length) ∧
      ∀ s', next = some s' → Inv s' ∧ size s' = size s - n ∧
        raw s' = dropFront (after (raw s) length) (size s) n

lemma takeOff_eq (raw : Mem UInt8) (size : Nat) {n : Nat} (hn : n < 2 ^ 32) :
    takeOff raw size n = (dropFront raw size n, size - n) := by
  simp only [takeOff, sizeTOfInt_of_nonneg (Int.natCast_nonneg n) (by omega : (n : Int) < 2 ^ 32),
    Int.toNat_natCast, dropFront]

namespace TakesOff

variable {σ ε : Type} {header o : Nat} {raw : σ → Mem UInt8} {size : σ → Nat}
  {handled : Mem UInt8 → Int → Prop} {after : Mem UInt8 → Int → Mem UInt8} {Inv : σ → Prop}
  {body : σ → Pass σ ε} {s : σ}

lemma pass_of_complete (h : TakesOff header o raw size handled after Inv body)
    (hheader : header < 2 ^ 31) (hinv : Inv s) (hsize : size s ≤ 4096)
    (hcomplete : Complete header o (raw s) (size s)) :
    ∃ (n : Nat) (e : ε) (next : Option σ), header + fourCharToInt (raw s) o = n ∧ n ≤ size s ∧
      body s = .emit e next ∧ (next.isSome = true ↔ handled (raw s) (fourCharToInt (raw s) o)) ∧
      ∀ s', next = some s' → Inv s' ∧ size s' = size s - n ∧
        raw s' = dropFront (after (raw s) (fourCharToInt (raw s) o)) (size s) n := by
  obtain ⟨hle, hnonneg, hfits⟩ := hcomplete
  obtain ⟨n, hn⟩ := Int.eq_ofNat_of_zero_le hnonneg
  have hfound := bufferedFrame_of_complete hheader (by omega) ⟨hle, hnonneg, hfits⟩ hn
  obtain ⟨e, next, hpass, hhandled, hrest⟩ := h.emit s _ n hinv hn (by omega) hsize hfound
  exact ⟨n, e, next, hn, by omega, hpass, hhandled, hrest⟩

lemma pass_of_not_complete (h : TakesOff header o raw size handled after Inv body)
    (hheader : header < 2 ^ 31) (hsize : size s ≤ 4096)
    (hcomplete : ¬ Complete header o (raw s) (size s)) : body s = .ret :=
  h.ret s (bufferedFrame_of_not_complete hheader (by omega) hcomplete)

theorem framesHandled_of_shrinks (h : TakesOff header o raw size handled after Inv body)
    (hheader : header < 2 ^ 31) (hshrinks : Shrinks body size s) (hinv : Inv s)
    (hsize : size s ≤ 4096) : FramesHandled header o handled after (raw s) (size s) := by
  induction hshrinks with
  | @ret s hret =>
    apply FramesHandled.rest
    intro hcomplete
    obtain ⟨_, _, _, -, -, hpass, -, -⟩ := h.pass_of_complete hheader hinv hsize hcomplete
    rw [hret] at hpass
    exact absurd hpass (by simp)
  | @pass s s' e hemit hless _ ih =>
    by_cases hcomplete : Complete header o (raw s) (size s)
    · obtain ⟨n, e', next, hn, hle, hpass, hhandled, hrest⟩ :=
        h.pass_of_complete hheader hinv hsize hcomplete
      rw [hpass] at hemit
      cases hemit
      obtain ⟨hinv', hsize', hraw'⟩ := hrest s' rfl
      have htail := ih hinv' (by omega)
      rw [hsize', hraw'] at htail
      exact .frame hcomplete hn (by omega) (hhandled.mp rfl) htail
    · exact .rest hcomplete

theorem shrinks_of_framesHandled (h : TakesOff header o raw size handled after Inv body)
    (hheader : header < 2 ^ 31) (hinv : Inv s) (hsize : size s ≤ 4096)
    (hframes : FramesHandled header o handled after (raw s) (size s)) : Shrinks body size s := by
  generalize hr : raw s = r at hframes
  generalize hz : size s = z at hframes
  induction hframes generalizing s with
  | rest hcomplete =>
    subst hr hz
    exact .ret (h.pass_of_not_complete hheader hsize hcomplete)
  | @frame _ _ n hcomplete hn hpos hcan _ ih =>
    subst hr hz
    obtain ⟨n', e, next, hn', hle, hpass, hhandled, hrest⟩ :=
      h.pass_of_complete hheader hinv hsize hcomplete
    obtain rfl : n = n' := by omega
    obtain ⟨s', rfl⟩ := Option.isSome_iff_exists.mp (hhandled.mpr hcan)
    obtain ⟨hinv', hsize', hraw'⟩ := hrest s' rfl
    exact .pass hpass (by omega) (ih hinv' (by omega) hraw' hsize')

/-- A callback that runs the loop ends exactly if the frames in the buffer can be handled. -/
theorem ends_iff (h : TakesOff header o raw size handled after Inv body) (hheader : header < 2 ^ 31)
    (hinv : Inv s) (hsize : size s ≤ 4096) {callback : List ε × Option σ}
    (hcallback : callback = tracedLoop body (size s + 1) s) :
    Ends body size (fun t => takenBytes header o (raw t) (size t)) callback s ↔
      FramesHandled header o handled after (raw s) (size s) := by
  constructor
  · exact fun hends => h.framesHandled_of_shrinks hheader hends.shrinks hinv hsize
  · intro hframes
    have hends := h.shrinks_of_framesHandled hheader hinv hsize hframes
    obtain ⟨es, t, hloop⟩ := hends.returns (size s + 1) (Nat.lt_succ_self _)
    exact ⟨⟨es, t, hcallback.trans hloop⟩, hends, fun t _ => takenBytes_le header o _ _⟩

end TakesOff

lemma Cuts.length_even {b : Build} {m : Mem UInt8} {str len i : Int} {off : List Int}
    (h : Cuts b m str len i off) : off.length = 2 * (off.length / 2) := by
  induction h with
  | last => simp
  | more _ _ _ _ ih =>
    simp only [List.length_cons]
    omega

lemma generateResInPlace_eq_some_iff (b : Build) (fresh m : Mem UInt8) (str len reqId : Int)
    (m' res : Mem UInt8) (size : Int) :
    generateResInPlace b fresh m str len reqId = some (m', res, size) ↔
      ∃ off body, simdSplitEfficient b m str len = some (m', off) ∧ off.length ≤ offCapacity ∧
        generateBody b fresh m' str off off.length = some (size, body) ∧
        res = generateHeader body (size - 16) reqId := by
  simp only [generateResInPlace, Option.bind_eq_bind, Option.bind_eq_some_iff, Prod.exists,
    ite_eq_iff, reduceCtorEq, and_false, false_or, Option.some.injEq, Prod.mk.injEq, not_lt]
  constructor
  · rintro ⟨_, off, hsplit, hroom, _, body, hbody, rfl, rfl, rfl⟩
    exact ⟨off, body, hsplit, hroom, hbody, rfl⟩
  · rintro ⟨off, body, hsplit, hroom, hbody, rfl⟩
    exact ⟨m', off, hsplit, hroom, size, body, hbody, rfl, rfl, rfl⟩

/-- The body behind a header of 12 bytes is cut into at most 15 fields, the first interface among
them has a value that does not end before it begins, and the package has at most 4096 bytes. -/
def PackageInside (b : Build) (raw : Mem UInt8) (length : Int) : Prop :=
  ∃ off, Cuts b (splitMemory b raw 12 length) 12 length 0 off ∧ off.length / 2 ≤ 15 ∧
    NameOrdered (afterSplit b raw 12 length) 12 (-1 :: off) (off.length / 2) 0 ∧
    16 + (serializedBody (fieldTable (afterSplit b raw 12 length) 12 (-1 :: off)
      (off.length / 2) 0)).length ≤ pDefaultPackageSize

theorem packageInside_iff (b : Build) (fresh raw : Mem UInt8) (length reqId : Int) :
    PackageInside b raw length ↔ ∃ res size,
      generateResInPlace b fresh raw 12 length reqId =
        some (afterSplit b raw 12 length, res, size) ∧ size ≤ pDefaultPackageSize := by
  have hcap : offCapacity = 32 := rfl
  simp only [generateResInPlace_eq_some_iff, generateBody_eq_some_iff, simdSplitEfficient_iff]
  constructor
  · rintro ⟨off, hcuts, hcount, hord, hfits⟩
    have heven := hcuts.length_even
    have hlen : (-1 :: off).length / 2 = off.length / 2 := by
      rw [List.length_cons]
      omega
    refine ⟨_, _, ⟨-1 :: off, _, ⟨trivial, off, rfl, hcuts, ?_⟩, ?_, ⟨hlen ▸ hord, rfl, rfl⟩,
      rfl⟩, ?_⟩
    · unfold shortCycle
      omega
    · rw [List.length_cons]
      omega
    · rw [hlen]
      exact_mod_cast hfits
  · rintro ⟨_, _, ⟨_, _, ⟨-, off, rfl, hcuts, -⟩, hroom, ⟨hord, rfl, -⟩, -⟩, hfits⟩
    have heven := hcuts.length_even
    have hlen : (-1 :: off).length / 2 = off.length / 2 := by
      rw [List.length_cons]
      omega
    rw [hlen] at hord hfits
    rw [List.length_cons] at hroom
    exact ⟨off, hcuts, by omega, hord, by exact_mod_cast hfits⟩

/-- A request whose package fits is transcoded inside the blocks; the vector paths need 16 bytes of
the buffer behind the body. -/
def HandlesRequest (b : Build) (maxBufferSize : Nat) (raw : Mem UInt8) (length : Int) : Prop :=
  (b ≠ .plain → 12 + length + 16 ≤ maxBufferSize) ∧ PackageInside b raw length

section

variable {b : Build} {fresh : Mem UInt8} {relay relay' : TcpRelay} {length : Int}

lemma pTranscode_eq_some_iff (hshort : toShort length = length) (package : List UInt8) :
    pTranscode b fresh relay length = some (relay', package) ↔
      (b ≠ .plain → 12 + length + 16 ≤ relay.maxBufferSize) ∧ ∃ raw res size,
        generateResInPlace b fresh relay.rawBuf1 12 length (bytes8ToLong relay.rawBuf1 4) =
          some (raw, res, size) ∧ size ≤ pDefaultPackageSize ∧
        relay' = { relay with rawBuf1 := raw } ∧ package = res.read 0 (unsigned 32 size) := by
  simp only [pTranscode, hshort, Option.bind_eq_bind, ite_eq_iff, reduceCtorEq, and_false,
    false_or, Option.bind_eq_some_iff, Prod.exists, not_and, not_lt, Option.some.injEq,
    Prod.mk.injEq]
  apply and_congr_right
  intro _
  constructor
  · rintro ⟨raw, res, size, hgen, hfits, rfl, rfl⟩
    exact ⟨raw, res, size, hgen, hfits, rfl, rfl⟩
  · rintro ⟨raw, res, size, hgen, hfits, rfl, rfl⟩
    exact ⟨raw, res, size, hgen, hfits, rfl, rfl⟩

lemma pTranscode_isSome_iff (fresh : Mem UInt8) (hshort : toShort length = length) :
    (pTranscode b fresh relay length).isSome = true ↔
      HandlesRequest b relay.maxBufferSize relay.rawBuf1 length := by
  rw [HandlesRequest, packageInside_iff b fresh _ _ (bytes8ToLong relay.rawBuf1 4),
    Option.isSome_iff_exists]
  simp only [Prod.exists, pTranscode_eq_some_iff hshort]
  constructor
  · rintro ⟨_, _, hroom, raw, res, size, hgen, hfits, -, -⟩
    have hraw : raw = afterSplit b relay.rawBuf1 12 length := by
      obtain ⟨off, -, hsplit, -⟩ := (generateResInPlace_eq_some_iff ..).mp hgen
      exact (simdSplitEfficient_iff.mp hsplit).1
    exact ⟨hroom, res, size, hraw ▸ hgen, hfits⟩
  · rintro ⟨hroom, res, size, hgen, hfits⟩
    exact ⟨_, _, hroom, _, res, size, hgen, hfits, rfl, rfl⟩

lemma relay_of_pTranscode (hshort : toShort length = length) {package : List UInt8}
    (h : pTranscode b fresh relay length = some (relay', package)) :
    relay' = { relay with rawBuf1 := afterSplit b relay.rawBuf1 12 length } := by
  obtain ⟨-, raw, res, size, hgen, -, rfl, -⟩ := (pTranscode_eq_some_iff hshort _).mp h
  obtain ⟨off, -, hsplit, -⟩ := (generateResInPlace_eq_some_iff ..).mp hgen
  rw [(simdSplitEfficient_iff.mp hsplit).1]

end

lemma pReadConnectionDataHttpReqPass_takesOff (b : Build) (fresh : Mem UInt8) (max : Nat) :
    TakesOff 12 0 TcpRelay.rawBuf1 TcpRelay.rawBuf1Size (HandlesRequest b max)
      (fun raw length => afterSplit b raw 12 length) (fun relay => relay.maxBufferSize = max)
      (pReadConnectionDataHttpReqPass b fresh) := by
  constructor
  · intro relay hnone
    rw [pReadConnectionDataHttpReqPass, hnone]
  · intro relay length n hmax hn hle hsize hfound
    have hshort : toShort length = length := toShort_eq_self (by omega) (by omega)
    subst hmax
    rw [pReadConnectionDataHttpReqPass, hfound, ← pTranscode_isSome_iff fresh hshort]
    simp only
    cases htrans : pTranscode b fresh relay length with
    | none => exact ⟨_, _, rfl, Iff.rfl, fun _ hnone => absurd hnone (by simp)⟩
    | some result =>
      obtain ⟨relay', package⟩ := result
      obtain rfl := relay_of_pTranscode hshort htrans
      refine ⟨_, _, rfl, Iff.rfl, ?_⟩
      rintro next ⟨⟩
      simp only [takeOff_eq _ _ (by omega : n < 2 ^ 32), and_self]

/-- An answer of status 20 has a hash of a length that is not negative and fits its block. -/
def HandlesResult (raw : Mem UInt8) (length : Int) : Prop :=
  charVal (raw 3) = 20 → 3 ≤ length ∧ length ≤ 4048

lemma pAnswer_isSome_iff (fresh : Mem UInt8) (relay : TcpRelay) (length : Int) :
    (pAnswer fresh relay length).isSome = true ↔ 3 ≤ length ∧ length ≤ 4048 := by
  have hcap : pDefaultPackageSize = 4096 := rfl
  have htemplate : responseTemplateLen = 39 := rfl
  unfold pAnswer
  simp only
  split
  · simp only [Option.isSome_none, Bool.false_eq_true, false_iff]
    omega
  · simp only [Option.isSome_some, true_iff]
    omega

lemma pOnReadResultsPass_takesOff (fresh : Mem UInt8) :
    TakesOff 16 12 TcpRelay.rawBuf2 TcpRelay.rawBuf2Size HandlesResult (fun raw _ => raw)
      (fun _ => True) (pOnReadResultsPass fresh) := by
  constructor
  · intro relay hnone
    rw [pOnReadResultsPass, hnone]
  · intro relay length n _ _ hle hsize hfound
    rw [pOnReadResultsPass, hfound, HandlesResult, ← pAnswer_isSome_iff fresh relay length]
    simp only [takeOff_eq _ _ (by omega : n < 2 ^ 32)]
    by_cases hstatus : charVal (relay.rawBuf2 3) = 20
    · simp only [if_pos hstatus]
      cases hanswer : pAnswer fresh relay length with
      | none => exact ⟨_, _, rfl, by simp [hstatus], fun _ hnone => absurd hnone (by simp)⟩
      | some answer =>
        refine ⟨_, _, rfl, by simp, ?_⟩
        rintro next ⟨⟩
        exact ⟨trivial, rfl, rfl⟩
    · simp only [if_neg hstatus]
      refine ⟨_, _, rfl, by simp [hstatus], ?_⟩
      rintro next ⟨⟩
      exact ⟨trivial, rfl, rfl⟩

def replyRaw (which : Nat) (s : ReplyLoop) : Mem UInt8 :=
  (s.evLoop.server.endpointServers which).rawArray

def replySize (which : Nat) (s : ReplyLoop) : Nat :=
  (s.evLoop.server.endpointServers which).sizeOfRawArray

/-- The slot of the id exists, and if it holds a client, then one that has not been freed, and the
payload has a length that is not negative. -/
def HandlesReplyOf (evLoop : EventLoop) (raw : Mem UInt8) (lengthBody : Int) : Prop :=
  0 ≤ (bytes8ToLong raw 4).tmod hashSlotNum ∧
    ∀ client, replyClient evLoop (bytes8ToLong raw 4) = some client →
      (evLoop.reqs client).isSome = true ∧ 0 ≤ lengthBody

/-- The slots and the records that are allocated. -/
def SameTable (evLoop evLoop' : EventLoop) : Prop :=
  evLoop'.server.httpReqDict = evLoop.server.httpReqDict ∧
    ∀ client, (evLoop'.reqs client).isSome = (evLoop.reqs client).isSome

lemma SameTable.handlesReplyOf {evLoop evLoop' : EventLoop} (h : SameTable evLoop evLoop')
    (raw : Mem UInt8) (lengthBody : Int) :
    HandlesReplyOf evLoop' raw lengthBody ↔ HandlesReplyOf evLoop raw lengthBody := by
  simp only [HandlesReplyOf, replyClient, h.1, h.2]

lemma handleReply_isSome_iff (lb : LoadBalancer) (evLoop : EventLoop) (which : Nat)
    (lengthBody now : Int) (raw : Mem UInt8) (payload : List UInt8)
    (hfits : lengthBody ≤ defaultPackageSize) :
    (handleReply lb evLoop which (bytes8ToLong raw 4) lengthBody now payload).isSome = true ↔
      HandlesReplyOf evLoop raw lengthBody := by
  unfold handleReply HandlesReplyOf replyClient
  simp only
  split
  · simp only [Option.isSome_none, Bool.false_eq_true, false_iff]
    omega
  · next hslot =>
    have hnonneg : 0 ≤ (bytes8ToLong raw 4).tmod hashSlotNum := by omega
    cases evLoop.server.httpReqDict ((bytes8ToLong raw 4).tmod hashSlotNum).toNat with
    | none => simp [hnonneg]
    | some client =>
      simp only [Option.some.injEq, forall_eq']
      cases evLoop.reqs client with
      | none => simp
      | some httpConn =>
        simp only [Option.isSome_some, true_and]
        split
        · simp only [Option.isSome_none, Bool.false_eq_true, false_iff]
          omega
        · simp only [Option.isSome_some, true_iff]
          omega

lemma cReadFromProvideAgentsPass_takesOff (which : Nat) (evLoop : EventLoop) :
    TakesOff 12 0 (replyRaw which) (replySize which) (HandlesReplyOf evLoop) (fun raw _ => raw)
      (fun s => SameTable evLoop s.evLoop) (cReadFromProvideAgentsPass which) := by
  have hcap : defaultPackageSize = 4096 := rfl
  constructor
  · intro s hnone
    unfold replyRaw replySize at hnone
    unfold cReadFromProvideAgentsPass
    simp only [hnone]
  · intro s lengthBody n hinv hn hle hsize hfound
    rw [← hinv.handlesReplyOf, ← handleReply_isSome_iff s.lb s.evLoop which lengthBody (s.clock 0)
      (replyRaw which s) ((replyRaw which s).read 12 lengthBody.toNat) (by omega)]
    unfold replyRaw replySize at hfound
    unfold cReadFromProvideAgentsPass replyRaw
    simp only [hfound, takeOff_eq _ _ (by omega : n < 2 ^ 32)]
    cases hreply : handleReply s.lb s.evLoop which
      (bytes8ToLong (s.evLoop.server.endpointServers which).rawArray 4) lengthBody (s.clock 0)
      ((s.evLoop.server.endpointServers which).rawArray.read 12 lengthBody.toNat) with
    | none => exact ⟨_, _, rfl, Iff.rfl, fun _ hnone => absurd hnone (by simp)⟩
    | some result =>
      obtain ⟨lb, evLoop'⟩ := result
      refine ⟨_, _, rfl, by simp, ?_⟩
      rintro next ⟨⟩
      unfold replySize
      simp only [endpointServers_setEndpoint]
      refine ⟨⟨?_, fun client => ?_⟩, trivial, trivial⟩
      · exact (congrArg TcpServer.httpReqDict (server_handleReply hreply)).trans hinv.1
      · exact (isSome_reqs_handleReply hreply client).trans (hinv.2 client)

/-! ### The three callbacks -/

/-- The relay when the loop of `p_read_connection_data_http_req` begins. -/
def receivedRelay1 (relay : TcpRelay) (nread : Int) : TcpRelay :=
  { relay with rawBuf1Size := relay.rawBuf1Size + nread.toNat }

/-- The relay when the loop of `p_on_read_results` begins. -/
def receivedRelay2 (relay : TcpRelay) (nread : Int) : TcpRelay :=
  { relay with rawBuf2Size := relay.rawBuf2Size + nread.toNat }

/-- The state in which the loop of `c_read_from_provide_agents` begins. -/
def receivedReplies (which : Nat) (s : ReplyLoop) (nread : Int) : ReplyLoop :=
  let server := s.evLoop.server.endpointServers which
  { s with
    evLoop := s.evLoop.setEndpoint which
      { server with sizeOfRawArray := server.sizeOfRawArray + nread.toNat } }

/-- Whatever is buffered, each of the three callbacks ends, lowering the size with each pass that
does not return, exactly if each frame that the length fields cut off the buffered bytes has a
positive size and can be handled. -/
theorem reassembly_ends_iff (b : Build) (fresh : Mem UInt8) (which : Nat) (nread : Int)
    (hnread : 0 < nread) :
    (∀ relay : TcpRelay, relay.rawBuf1Size + nread ≤ pDefaultPackageSize →
      (Ends (pReadConnectionDataHttpReqPass b fresh) TcpRelay.rawBuf1Size
          (fun t => takenBytes 12 0 t.rawBuf1 t.rawBuf1Size)
          (pReadConnectionDataHttpReq b fresh relay nread) (receivedRelay1 relay nread) ↔
        FramesHandled 12 0 (HandlesRequest b relay.maxBufferSize)
          (fun raw length => afterSplit b raw 12 length) relay.rawBuf1
          (relay.rawBuf1Size + nread.toNat))) ∧
    (∀ relay : TcpRelay, relay.rawBuf2Size + nread ≤ pDefaultPackageSize →
      (Ends (pOnReadResultsPass fresh) TcpRelay.rawBuf2Size
          (fun t => takenBytes 16 12 t.rawBuf2 t.rawBuf2Size)
          (pOnReadResults fresh relay nread) (receivedRelay2 relay nread) ↔
        FramesHandled 16 12 HandlesResult (fun raw _ => raw) relay.rawBuf2
          (relay.rawBuf2Size + nread.toNat))) ∧
    (∀ s : ReplyLoop, replySize which s + nread ≤ defaultResponseSize →
      ∃ replies result,
        cReadFromProvideAgents which s nread = .frames replies result ∧
        (Ends (cReadFromProvideAgentsPass which) (replySize which)
            (fun t => takenBytes 12 0 (replyRaw which t) (replySize which t))
            (replies, result) (receivedReplies which s nread) ↔
          FramesHandled 12 0 (HandlesReplyOf s.evLoop) (fun raw _ => raw) (replyRaw which s)
            (replySize which s + nread.toNat))) := by
  have hcap : pDefaultPackageSize = 4096 := rfl
  have hcap' : defaultResponseSize = 4096 := rfl
  refine ⟨?_, ?_, ?_⟩
  · intro relay hfits
    apply (pReadConnectionDataHttpReqPass_takesOff b fresh relay.maxBufferSize).ends_iff
      (s := receivedRelay1 relay nread) (by decide) rfl
    · unfold receivedRelay1
      simp only
      omega
    · unfold pReadConnectionDataHttpReq
      rw [if_pos hnread]
      rfl
  · intro relay hfits
    apply (pOnReadResultsPass_takesOff fresh).ends_iff (s := receivedRelay2 relay nread)
      (by decide) trivial
    · unfold receivedRelay2
      simp only
      omega
    · unfold pOnReadResults
      rw [if_pos hnread]
      rfl
  · intro s hfits
    have hraw : replyRaw which (receivedReplies which s nread) = replyRaw which s := by
      unfold receivedReplies replyRaw
      rw [endpointServers_setEndpoint]
    have hsize : replySize which (receivedReplies which s nread) =
        replySize which s + nread.toNat := by
      unfold receivedReplies replySize
      rw [endpointServers_setEndpoint]
    have hcallback : cReadFromProvideAgents which s nread =
        .frames
          (tracedLoop (cReadFromProvideAgentsPass which) (replySize which s + nread.toNat + 1)
            (receivedReplies which s nread)).1
          (tracedLoop (cReadFromProvideAgentsPass which) (replySize which s + nread.toNat + 1)
            (receivedReplies which s nread)).2 := by
      unfold cReadFromProvideAgents
      rw [if_pos hnread]
      rfl
    refine ⟨_, _, hcallback, ?_⟩
    rw [← hraw, ← hsize]
    apply (cReadFromProvideAgentsPass_takesOff which s.evLoop).ends_iff
      (s := receivedReplies which s nread) (by decide) ⟨rfl, fun _ => rfl⟩
    · omega
    · rfl

/-- A request `interface=x` with the id 7, and a byte of the next one. -/
def requestAndByte : List UInt8 :=
  [0, 0, 0, 11, 7, 0, 0, 0, 0, 0, 0, 0] ++
    (ascii ['i', 'n', 't', 'e', 'r', 'f', 'a', 'c', 'e', '=', 'x'] ++ [0])

lemma packageInside_requestAndByte :
    PackageInside .sse42 (Mem.write (fun _ => 0) 0 requestAndByte) 11 := by
  have heq : ∀ j < 9, ¬ EqAfter .sse42 (splitMemory .sse42
      (Mem.write (fun _ => 0) 0 requestAndByte) 12 11) 12 0 j := by
    unfold EqAfter
    decide
  have hamp : ∀ j < 16, ¬ AmpAfter .sse42 (splitMemory .sse42
      (Mem.write (fun _ => 0) 0 requestAndByte) 12 11) 12 11 9 j := by
    unfold AmpAfter
    decide
  refine ⟨[9, 11], .last (e := 9) (s := 25)
    ⟨9, ⟨?_, fun j hj => le_of_not_gt fun hlt => heq j hlt hj⟩, by decide⟩
    ⟨16, ⟨.inr ⟨by decide, by decide⟩, fun j hj => le_of_not_gt fun hlt => hamp j hlt hj⟩,
      by decide⟩ (by simp [EndsAt]), by decide, ?_, by decide⟩
  · rw [Set.mem_ofPred_eq, EqAfter]
    decide
  · intro k _ hk _ _
    obtain rfl : k = 0 := by simpa using hk
    decide

/-- The relay whose buffers hold a frame and bytes of the next one. -/
def relayOfFrames : TcpRelay :=
  initTcpRelay pDefaultPackageSize (Mem.write (fun _ => 0) 0 requestAndByte)
    (Mem.write (fun _ => 0) 0 resultFrame)

/-- The record of endpoint 0 holds a reply with the id 7, which client 0 waits for. -/
def replyOfFrame : ReplyLoop :=
  let server := initTcpServer 0 (fun _ => Mem.write (fun _ => 0) 0 requestFrame)
  ⟨initLoadBalancer 1,
    ⟨{ server with httpReqDict := Function.update server.httpReqDict 7 (some 0) },
    fun _ => some (initHttpReq 0 (fun _ => 0) (fun _ => 0) 0 0)⟩, fun _ => 0⟩

/-- A whole frame and the first bytes of the next one end each of the callbacks. -/
theorem reassembly_ends_frame :
    Ends (pReadConnectionDataHttpReqPass .sse42 (fun _ => 0)) TcpRelay.rawBuf1Size
      (fun t => takenBytes 12 0 t.rawBuf1 t.rawBuf1Size)
      (pReadConnectionDataHttpReq .sse42 (fun _ => 0) relayOfFrames 24)
      (receivedRelay1 relayOfFrames 24) ∧
    Ends (pOnReadResultsPass (fun _ => 0)) TcpRelay.rawBuf2Size
      (fun t => takenBytes 16 12 t.rawBuf2 t.rawBuf2Size)
      (pOnReadResults (fun _ => 0) relayOfFrames 24) (receivedRelay2 relayOfFrames 24) ∧
    ∃ replies result,
      cReadFromProvideAgents 0 replyOfFrame 24 = .frames replies result ∧
      Ends (cReadFromProvideAgentsPass 0) (replySize 0)
        (fun t => takenBytes 12 0 (replyRaw 0 t) (replySize 0 t))
        (replies, result) (receivedReplies 0 replyOfFrame 24) := by
  obtain ⟨h1, h2, h3⟩ := reassembly_ends_iff .sse42 (fun _ => 0) 0 24 (by decide)
  obtain ⟨replies, result, hcallback, hends⟩ := h3 replyOfFrame (by decide)
  refine ⟨(h1 relayOfFrames (by decide)).mpr ?_, (h2 relayOfFrames (by decide)).mpr ?_,
    replies, result, hcallback, hends.mpr ?_⟩
  · refine .frame (n := 23) (by unfold Complete; decide) (by decide) (by decide)
      ⟨fun _ => by decide, ?_⟩ (.rest (by unfold Complete; decide))
    exact packageInside_requestAndByte
  · exact .frame (n := 20) (by unfold Complete; decide) (by decide) (by decide)
      (fun _ => by decide) (.rest (by unfold Complete; decide))
  · refine .frame (n := 15) (by unfold Complete; decide) (by decide) (by decide)
      ⟨by decide, fun client _ => ⟨rfl, by decide⟩⟩ (.rest (by unfold Complete; decide))

/-- A result with the length field -16 that is not answered stays in front. -/
lemma pOnReadResultsPass_fixed (fresh : Mem UInt8) (relay : TcpRelay)
    (hl : 16 ≤ relay.rawBuf2Size) (hr : relay.rawBuf2Size ≤ pDefaultPackageSize)
    (hfield : fourCharToInt relay.rawBuf2 12 = -16) (hstatus : charVal (relay.rawBuf2 3) ≠ 20) :
    ∃ e, pOnReadResultsPass fresh relay = .emit e (some relay) := by
  have hcap : pDefaultPackageSize = 4096 := rfl
  have hfound : bufferedFrame 16 12 relay.rawBuf2 relay.rawBuf2Size = some (-16, 0) := by
    rw [bufferedFrame_eq_some_iff (by decide) (by omega), Nat.cast_ofNat, hfield]
    omega
  have htaken : takeOff relay.rawBuf2 relay.rawBuf2Size 0 =
      (relay.rawBuf2, relay.rawBuf2Size) := by
    simp only [takeOff, Mem.move, Mem.write_read_self,
      sizeTOfInt_of_nonneg (x := 0) (by decide) (by decide)]
    rfl
  unfold pOnReadResultsPass
  simp only [hfound, htaken, if_neg hstatus]
  exact ⟨_, rfl⟩

/-- A result that is not answered, with the length field -16. -/
def emptyResult : List UInt8 := [0xda, 0xbb, 2, 0, 0, 0, 0, 0, 0, 0, 0, 0, 0xff, 0xff, 0xff, 0xf0]

/-- The loop of `p_on_read_results` makes passes for ever. -/
theorem reassembly_hangs :
    ∃ relay : TcpRelay, relay.maxBufferSize = pDefaultPackageSize ∧ relay.rawBuf2Size = 0 ∧
      relay.rawBuf2.read 0 16 = emptyResult ∧
      ∀ fuel, (tracedLoop (pOnReadResultsPass (fun _ => 0)) fuel (receivedRelay2 relay 16)).2 =
        none := by
  refine ⟨initTcpRelay pDefaultPackageSize (fun _ => 0) (Mem.write (fun _ => 0) 0 emptyResult),
    rfl, rfl, by decide, fun fuel => ?_⟩
  obtain ⟨e, hpass⟩ := pOnReadResultsPass_fixed (fun _ => 0)
    (receivedRelay2 (initTcpRelay pDefaultPackageSize (fun _ => 0)
      (Mem.write (fun _ => 0) 0 emptyResult)) 16) (by decide) (by decide) (by decide) (by decide)
  exact tracedLoop_of_fixed hpass fuel

end MeshAgent.Proofs

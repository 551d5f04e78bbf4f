import MeshAgent.Proofs.ClientCall

/-!
# From a client request to a frame

Which frames a request can become, and under which cutting of the stream it becomes the
right one.
-/

namespace MeshAgent.Proofs
open MeshAgent.Foundations MeshAgent.Model

/-- A frame of the length `c` for a received body: a length field that is read as `c`, the
id, and the first `c` bytes of the body. -/
structure SelfConsistent (d : Dispatch) (c : Int) (body : List UInt8) : Prop where
  nonneg : 0 ≤ c
  le_length : c ≤ body.length
  bytes : ∃ four, four.length = 4 ∧
    (∀ (m : Mem UInt8) (a : Int), m.read a 4 = four → fourCharToInt m a = c) ∧
    d.bytes = four ++ longTo8bytes d.reqId ++ body.take c.toNat

lemma atoi_mem_int (s : List UInt8) : -2 ^ 31 ≤ atoi s ∧ atoi s < 2 ^ 31 :=
  ⟨le_signed 31 _, signed_lt 31 _⟩

lemma headerContentLength_mem_int (httpReq : HttpReq) (value : Option Int) {stale : Int}
    (hl : -2 ^ 31 ≤ stale) (hr : stale < 2 ^ 31) :
    -2 ^ 31 ≤ headerContentLength httpReq value stale ∧
      headerContentLength httpReq value stale < 2 ^ 31 := by
  cases value with
  | none => exact ⟨hl, hr⟩
  | some v => exact atoi_mem_int _

lemma selfConsistent_frameBytes {raw : Mem UInt8} {h c : Int} {size id endpoint : Nat}
    {unset : Bool} (hh : 0 ≤ h) (hc : 0 ≤ c) (hc' : c + 12 < 2 ^ 31) (hsize : c + h ≤ size) :
    SelfConsistent ⟨endpoint, id, frameBytes raw h c id, c, unset⟩ c
      (raw.read h (size - h.toNat)) := by
  refine ⟨hc, ?_, intToFourChar c, rfl, ?_, ?_⟩
  · rw [Mem.length_read]
    omega
  · intro m a hread
    exact fourCharToInt_of_read hread (by omega) (by omega)
  · rw [Mem.take_read _ _ _ _ (by omega)]
    exact frameBytes_of_nonneg raw h id hc hc'

/-- A call that has a header block of `h` bytes dispatches only self-consistent frames
exactly when the length is not negative, or so negative that the request never looks
complete. -/
theorem dispatch_selfConsistent_iff (env : Environment) (lb : LoadBalancer) (server : TcpServer)
    (me : Nat) (httpReq parsed : HttpReq) (value : Option Int) (nread stale now : Int)
    (hn : 0 < nread) (hparse : parsedRequest env httpReq nread = (parsed, value))
    (hheader : 12 ≤ parsed.requestLength) (hblock : parsed.requestLength ≤ parsed.rawArraySize)
    (hsize : parsed.rawArraySize < 2 ^ 31) (hstale : -2 ^ 31 ≤ stale) (hstale' : stale < 2 ^ 31)
    (hid : server.reqId + eventLoopNum < 2 ^ 63) :
    (∀ d lb' server' httpReq',
        cReadConnectionData env lb server me httpReq nread stale now =
          some (.dispatch d lb' server' httpReq') →
        d.reqId = server.reqId ∧
        SelfConsistent d (headerContentLength parsed value stale)
          (parsed.rawArray.read parsed.requestLength
            (parsed.rawArraySize - parsed.requestLength.toNat))) ↔
      0 ≤ headerContentLength parsed value stale ∨
        headerContentLength parsed value stale + parsed.requestLength < 0 := by
  obtain ⟨hcl, hcr⟩ := headerContentLength_mem_int parsed value hstale hstale'
  have hraw := rawArray_of_parsedRequest hparse
  have hcontent : callContentLength env httpReq nread stale =
      headerContentLength parsed value stale := by
    rw [callContentLength, hparse]
  generalize hc : headerContentLength parsed value stale = c at *
  constructor
  · intro hall
    by_contra hbad
    have hwait : ¬ parsed.rawArraySize < sizeTOfInt (addInt c parsed.requestLength) := by
      rw [lt_sizeTOfInt_addInt_iff hsize hcl hcr (by omega) hblock]
      omega
    obtain ⟨lb', server', httpReq', hcall⟩ :=
      cReadConnectionData_returns hn hparse
        hheader hid (by rw [hc]; exact hwait)
    rw [hc] at hcall
    have := (hall _ _ _ _ hcall).2.nonneg
    omega
  · intro hgood d lb' server' httpReq' hcall
    obtain ⟨-, -, hdone, -, rfl, -, -, -⟩ := cReadConnectionData_dispatch hcall
    simp only [hcontent, hparse] at hdone ⊢
    rw [lt_sizeTOfInt_addInt_iff hsize hcl hcr (by omega) hblock] at hdone
    refine ⟨trivial, ?_⟩
    rw [hraw]
    exact selfConsistent_frameBytes (by omega) (by omega) (by omega) (by omega)

/-- The parser on requests that begin with the header block `hdr`, whose first value lies at
`value`. -/
def fixedHeaderParser (hdr : List UInt8) (value : Nat) (bytes : List UInt8) : ParseResult :=
  if hdr.isPrefixOf bytes then ⟨hdr.length, some value⟩ else ⟨-2, none⟩

/-- A header block with the given first value. -/
def postHeader (contentLength : List Char) : List UInt8 :=
  ascii (['P', 'O', 'S', 'T', ' ', '/', ' ', 'H', 'T', 'T', 'P', '/', '1', '.', '1', '\r', '\n',
    'C', 'o', 'n', 't', 'e', 'n', 't', '-', 'L', 'e', 'n', 'g', 't', 'h', ':', ' '] ++
    contentLength ++ ['\r', '\n', '\r', '\n'])

/-- The agent when it meets such header blocks only. -/
def postEnvironment (contentLength : List Char) : Environment where
  phrParseRequest := fixedHeaderParser (postHeader contentLength) 33
  limits := ⟨fun _ => 0, fun _ => 0⟩

lemma postEnvironment_append (contentLength : List Char) (x : List UInt8) :
    (postEnvironment contentLength).phrParseRequest (postHeader contentLength ++ x) =
      ⟨(postHeader contentLength).length, some ((33 : Nat) : Int)⟩ :=
  if_pos ( List.isPrefixOf_iff_prefix.mpr (List.prefix_append _ _))

def freshRequest : HttpReq :=
  initHttpReq (2 * defaultPackageSize) (fun _ => 0) (fun _ => 0) 0 0

lemma parsedRequest_post (contentLength : List Char) (body : List UInt8) :
    parsedRequest (postEnvironment contentLength)
        (freshRequest.store (postHeader contentLength ++ body))
        (postHeader contentLength ++ body).length =
      ({ freshRequest with
          rawArray := freshRequest.rawArray.write 0 (postHeader contentLength ++ body)
          rawArraySize := (postHeader contentLength ++ body).length
          requestLength := (postHeader contentLength).length }, some ((33 : Nat) : Int)) := by
  have hfresh : HeaderPhase freshRequest [] := headerPhase_init _ _ _ _
  rw [parsedRequest_store _ _ hfresh, List.nil_append, postEnvironment_append]
  simp only [Int.natCast_nonneg, if_true]
  rw [freshRequest, initHttpReq, zero_add]
  rfl

theorem dispatch_selfConsistent_three :
    ∃ d lb' server' httpReq',
      cReadConnectionData (postEnvironment ['3']) (initLoadBalancer 3)
        (initTcpServer 0 (fun _ _ => 0)) 1 (freshRequest.store (postHeader ['3'] ++ [97, 61, 98]))
        41 0 0 = some (.dispatch d lb' server' httpReq') ∧
      d.reqId = 0 ∧ SelfConsistent d 3 [97, 61, 98] := by
  have hparse := parsedRequest_post ['3'] [97, 61, 98]
  generalize hparsed : ({ freshRequest with
    rawArray := freshRequest.rawArray.write 0 (postHeader ['3'] ++ [97, 61, 98])
    rawArraySize := (postHeader ['3'] ++ [97, 61, 98]).length
    requestLength := (postHeader ['3']).length } : HttpReq) = parsed at hparse
  have hc : headerContentLength parsed (some ((33 : Nat) : Int)) 0 = 3 := by
    obtain ⟨y, hy⟩ := headerContentLength_of_value parsed (x := [97, 61, 98]) 0
      (by rw [← hparsed]; exact Mem.read_write_self _ _ _ _ rfl)
      (by rw [← hparsed]; decide) (show 33 ≤ _ by decide)
    rw [hy]
    exact atoi_digits [51] (by decide) (by decide) (by decide) (by decide)
  have h := (dispatch_selfConsistent_iff (postEnvironment ['3']) (initLoadBalancer 3)
    (initTcpServer 0 (fun _ _ => 0)) 1 _ parsed _ 41 0 0 (by decide) hparse
    (by rw [← hparsed]; decide) (by rw [← hparsed]; decide) (by rw [← hparsed]; decide)
    (by decide) (by decide) (by decide)).mpr (.inl (by rw [hc]; decide))
  rw [hc] at h
  have hbody : parsed.rawArray.read parsed.requestLength
      (parsed.rawArraySize - parsed.requestLength.toNat) = [97, 61, 98] := by
    rw [← hparsed]
    decide
  rw [hbody] at h
  obtain ⟨lb', server', httpReq', hcall⟩ :=
    cReadConnectionData_returns (by decide) hparse (by rw [← hparsed]; decide)
      (show (initTcpServer 0 (fun _ _ => 0)).reqId + eventLoopNum < 2 ^ 63 by decide)
      (by rw [hc, ← hparsed]; decide)
  exact ⟨_, lb', server', httpReq', hcall, h _ lb' server' httpReq' hcall⟩

/-- `Content-Length: -5` sends a length of -5, three of the eight id bytes, and no body. -/
theorem dispatch_negative :
    ∃ d lb' server' httpReq',
      cReadConnectionData (postEnvironment ['-', '5']) (initLoadBalancer 3)
        (initTcpServer 0 (fun _ _ => 0)) 1 (freshRequest.store (postHeader ['-', '5'])) 39 0 0 =
          some (.dispatch d lb' server' httpReq') ∧
      d.contentLength = -5 ∧ d.bytes = [255, 255, 255, 251, 0, 0, 0] ∧
      ¬ SelfConsistent d d.contentLength [] := by
  have hparse := parsedRequest_post ['-', '5'] []
  rw [List.append_nil] at hparse
  generalize hparsed : ({ freshRequest with
    rawArray := freshRequest.rawArray.write 0 (postHeader ['-', '5'])
    rawArraySize := (postHeader ['-', '5']).length
    requestLength := (postHeader ['-', '5']).length } : HttpReq) = parsed at hparse
  have hc : headerContentLength parsed (some ((33 : Nat) : Int)) 0 = -5 := by
    obtain ⟨y, hy⟩ := headerContentLength_of_value parsed 0
      (show parsed.rawArray.read 0 parsed.rawArraySize = postHeader ['-', '5'] ++ [] by
        rw [← hparsed, List.append_nil]; exact Mem.read_write_self _ _ _ _ rfl)
      (by rw [← hparsed]; decide) (show 33 ≤ _ by decide)
    rw [hy]
    exact atoi_minus_digits [53] (by decide) (by decide) (by decide)
  obtain ⟨lb', server', httpReq', hcall⟩ :=
    cReadConnectionData_returns (by decide) hparse
      (by rw [← hparsed]; decide)
      (show (initTcpServer 0 (fun _ _ => 0)).reqId + eventLoopNum < 2 ^ 63 by decide)
      (by rw [hc, ← hparsed]; decide)
  refine ⟨_, lb', server', httpReq', hcall, hc, ?_, ?_⟩
  · rw [hc, ← hparsed]
    decide
  · intro h
    have hnonneg := h.nonneg
    simp only [hc] at hnonneg
    exact absurd hnonneg (by decide)

/-- A read of a client: the chunk, and what the callback finds when it is called. -/
structure ClientCall where
  chunk : List UInt8
  lb : LoadBalancer
  server : TcpServer
  stale : Int
  now : Int

/-- libuv stores the chunk in the offered buffer and calls `c_read_connection_data`. -/
def clientCall (env : Environment) (me : Nat) (httpReq : HttpReq) (call : ClientCall) :
    Option ClientRead :=
  cReadConnectionData env call.lb call.server me (httpReq.store call.chunk) call.chunk.length
    call.stale call.now

/-- What each of the reads dispatches. -/
def clientCalls (env : Environment) (me : Nat) :
    HttpReq → List ClientCall → Option (List (Option Dispatch))
  | _, [] => some []
  | httpReq, call :: calls =>
    match clientCall env me httpReq call with
    | some (.wait httpReq') => (clientCalls env me httpReq' calls).map (none :: ·)
    | some (.dispatch d _ _ httpReq') => (clientCalls env me httpReq' calls).map (some d :: ·)
    | some .close => none
    | none => none

def delivered (calls : List ClientCall) : List UInt8 := (calls.map ClientCall.chunk).flatten

/-- The last read dispatches the one frame, from values of this request only. -/
def DispatchedAtEnd (n : Nat) (body : List UInt8) (outcomes : List (Option Dispatch)) : Prop :=
  ∃ quiet d, outcomes = quiet ++ [some d] ∧ (∀ o ∈ quiet, o = none) ∧ d.unset = false ∧
    d.contentLength = (n : Int) ∧ d.bytes = intToFourChar n ++ longTo8bytes d.reqId ++ body

/-- A header block that the parser accepts and whose first value is the decimal number
`n`. -/
structure AcceptsHeader (env : Environment) (hdr : List UInt8) (n : Nat) : Prop where
  length : 12 ≤ hdr.length
  incomplete : ∀ p x, p ++ x = hdr → x ≠ [] → (env.phrParseRequest p).ret = -2
  complete : ∃ (v : Nat) (digits : List UInt8) (c : UInt8) (rest : List UInt8),
    (∀ x, env.phrParseRequest (hdr ++ x) = ⟨hdr.length, some (v : Int)⟩) ∧ v ≤ hdr.length ∧
    hdr.drop v = digits ++ c :: rest ∧ digits ≠ [] ∧ (∀ b ∈ digits, 48 ≤ b ∧ b ≤ 57) ∧
    digitsValue digits 0 = n ∧ ¬ (48 ≤ c ∧ c ≤ 57)

section

variable {env : Environment} {me : Nat} {httpReq : HttpReq} {hdr body p : List UInt8} {n : Nat}
  {call : ClientCall} {calls : List ClientCall}

variable (me) in
lemma clientCall_header (haccept : AcceptsHeader env hdr n) (hphase : HeaderPhase httpReq p)
    {x : List UInt8} (hne : call.chunk ≠ []) (hpart : p ++ call.chunk ++ x = hdr) (hx : x ≠ []) :
    ∃ httpReq', clientCall env me httpReq call = some (.wait httpReq') ∧
      HeaderPhase httpReq' (p ++ call.chunk) := by
  have hpos : 0 < call.chunk.length := List.length_pos_iff.mpr hne
  have hret := haccept.incomplete _ _ hpart hx
  have hparsed := parsedRequest_store env call.chunk hphase
  simp only [hret] at hparsed
  refine ⟨(parsedRequest env (httpReq.store call.chunk) call.chunk.length).1, ?_, ?_⟩
  · rw [clientCall]
    exact cReadConnectionData_header (by omega) (by rw [hparsed]; exact Int.negSucc_lt_zero 1)
  · rw [hparsed]
    exact ⟨Int.negSucc_lt_zero 1, hphase.max, by simp only [read_store, hphase.content]⟩

variable (call) in
lemma parsedRequest_complete (haccept : AcceptsHeader env hdr n) (hphase : HeaderPhase httpReq p)
    {x : List UInt8} (hwhole : p ++ call.chunk = hdr ++ x) (hn : n < 2 ^ 31)
    (hfit : hdr.length + x.length ≤ 2 * defaultPackageSize) :
    ∃ parsed value,
      parsedRequest env (httpReq.store call.chunk) call.chunk.length = (parsed, some value) ∧
      headerContentLength parsed (some value) call.stale = n ∧
      parsed.requestLength = hdr.length ∧ parsed.rawArraySize = hdr.length + x.length ∧
      (httpReq.store call.chunk).rawArray.read 0 (hdr.length + x.length) = hdr ++ x := by
  obtain ⟨v, digits, c, rest, hret, hv, hdrop, hdne, hdigits, hvalue, hc⟩ := haccept.complete
  have hparsed := parsedRequest_store env call.chunk hphase
  rw [hwhole, hret x] at hparsed
  simp only [Int.natCast_nonneg, if_true] at hparsed
  have hcontent : (httpReq.rawArray.write httpReq.rawArraySize call.chunk).read 0
      (httpReq.rawArraySize + call.chunk.length) = hdr ++ x := by
    rw [read_store, hphase.content, hwhole]
  have hsize := Mem.length_of_read_append hcontent
  have hmax := hphase.max
  refine ⟨_, _, hparsed, ?_, rfl, hsize, hsize ▸ hcontent⟩
  obtain ⟨y, hy⟩ := headerContentLength_of_value ({ httpReq with
    rawArray := httpReq.rawArray.write httpReq.rawArraySize call.chunk
    rawArraySize := httpReq.rawArraySize + call.chunk.length
    requestLength := hdr.length } : HttpReq) call.stale hcontent (by simp only; omega) hv
  rw [hy, hdrop, List.append_assoc, List.cons_append, atoi_digits _ hdne hdigits hc (by omega),
    hvalue]

variable (me call) in
lemma clientCall_complete (haccept : AcceptsHeader env hdr n) (hphase : HeaderPhase httpReq p)
    {x : List UInt8} (hne : call.chunk ≠ []) (hwhole : p ++ call.chunk = hdr ++ x)
    (hx : x.length ≤ n) (hfit : hdr.length + n ≤ 2 * defaultPackageSize)
    (hid : call.server.reqId + eventLoopNum < 2 ^ 63) :
    (x.length < n → ∃ httpReq', clientCall env me httpReq call = some (.wait httpReq') ∧
      0 ≤ httpReq'.requestLength) ∧
    (x.length = n → ∃ d lb' server' httpReq',
      clientCall env me httpReq call = some (.dispatch d lb' server' httpReq') ∧
      d.unset = false ∧ d.contentLength = n ∧
      d.bytes = intToFourChar n ++ longTo8bytes d.reqId ++ x) := by
  have hcap : defaultPackageSize = 4096 := rfl
  have hpos : 0 < call.chunk.length := List.length_pos_iff.mpr hne
  have hlong := haccept.length
  obtain ⟨parsed, v, hparsed, hlength, hrequest, hbuffered, hcontent⟩ :=
    parsedRequest_complete call haccept hphase hwhole (by omega) (by omega)
  have htest := lt_sizeTOfInt_addInt_iff (n := parsed.rawArraySize) (c := n)
    (h := parsed.requestLength) (by omega) (by omega) (by omega) (by omega) (by omega)
  constructor
  · intro hshort
    refine ⟨{ parsed with contentLength := n }, ?_, by simp only; omega⟩
    rw [clientCall, cReadConnectionData_parsed _ _ _ _ _ (by omega)
      (by rw [hparsed, hrequest]; simp)]
    simp only [callContentLength, hparsed, hlength]
    rw [if_pos (htest.mpr (by omega))]
  · intro hfull
    obtain ⟨lb', server', httpReq', hcall⟩ :=
      cReadConnectionData_returns (by omega) hparsed (by omega) hid (by rw [hlength, htest]; omega)
    refine ⟨_, lb', server', httpReq', hcall, rfl, hlength, ?_⟩
    rw [hlength, hrequest, frameBytes_of_nonneg _ _ _ (by omega) (by omega), Int.toNat_natCast]
    have hbody := Mem.read_rest hcontent
    rw [zero_add, hfull] at hbody
    rw [hbody]

lemma clientCall_remembered {r : ClientRead} (hne : call.chunk ≠ [])
    (hlen : 0 ≤ httpReq.requestLength) (h : clientCall env me httpReq call = some r) :
    (∃ httpReq', r = .wait httpReq' ∧ 0 ≤ httpReq'.requestLength) ∨
    ∃ d lb' server' httpReq', r = .dispatch d lb' server' httpReq' ∧ d.unset = true := by
  have hpos : 0 < call.chunk.length := List.length_pos_iff.mpr hne
  have hlocal := parsedRequest_remembered env call.chunk hlen
  rw [clientCall, cReadConnectionData_parsed _ _ _ _ _ (by omega) (by rw [hlocal]; exact hlen)] at h
  split at h
  · simp only [Option.some.injEq] at h
    refine .inl ⟨_, h.symm, ?_⟩
    rw [hlocal]
    exact hlen
  · obtain ⟨-, -, httpReq', hr, -⟩ := dispatchRequest_cases h
    refine .inr ⟨_, _, _, httpReq', hr, ?_⟩
    rw [hlocal]
    rfl

lemma unset_of_clientCalls {quiet rest : List (Option Dispatch)} {d : Dispatch}
    (hne : ∀ call ∈ calls, call.chunk ≠ []) (hlen : 0 ≤ httpReq.requestLength)
    (h : clientCalls env me httpReq calls = some (quiet ++ some d :: rest))
    (hquiet : ∀ o ∈ quiet, o = none) : d.unset = true := by
  induction calls generalizing httpReq quiet with
  | nil => simp [clientCalls] at h
  | cons call calls ih =>
    rw [clientCalls] at h
    cases hread : clientCall env me httpReq call with
    | none => simp [hread] at h
    | some r =>
      rcases clientCall_remembered (hne call (by simp)) hlen hread with
        ⟨httpReq', rfl, hlen'⟩ | ⟨d', lb', server', httpReq', rfl, hunset⟩
      · simp only [hread, Option.map_eq_some_iff] at h
        obtain ⟨outcomes, hcalls, hout⟩ := h
        cases quiet with
        | nil => simp at hout
        | cons o quiet =>
          rw [(List.cons.inj hout).2] at hcalls
          exact ih (fun call' hc => hne call' (List.mem_cons_of_mem _ hc)) hlen' hcalls
            (fun o' ho => hquiet o' (List.mem_cons_of_mem _ ho))
      · simp only [hread, Option.map_eq_some_iff] at h
        obtain ⟨outcomes, -, hout⟩ := h
        cases quiet with
        | nil =>
          have hd : d' = d := by simpa using (List.cons.inj hout).1
          exact hd ▸ hunset
        | cons o quiet =>
          exact absurd ((List.cons.inj hout).1.trans (hquiet o (by simp))) (by simp)

lemma dispatchedAtEnd_none_cons {outcomes : List (Option Dispatch)} :
    DispatchedAtEnd n body (none :: outcomes) ↔ DispatchedAtEnd n body outcomes := by
  constructor
  · rintro ⟨quiet, d, hout, hquiet, hd⟩
    cases quiet with
    | nil => simp at hout
    | cons o quiet =>
      exact ⟨quiet, d, (List.cons.inj hout).2,
        fun o' ho => hquiet o' (List.mem_cons_of_mem _ ho), hd⟩
  · rintro ⟨quiet, d, rfl, hquiet, hd⟩
    refine ⟨none :: quiet, d, rfl, ?_, hd⟩
    intro o ho
    rcases List.mem_cons.mp ho with rfl | ho
    · rfl
    · exact hquiet o ho

lemma delivered_cons (call : ClientCall) (calls : List ClientCall) :
    delivered (call :: calls) = call.chunk ++ delivered calls := by
  simp [delivered]

lemma clientCalls_complete_iff (haccept : AcceptsHeader env hdr n)
    (hfit : hdr.length + n ≤ 2 * defaultPackageSize) (hbody : body.length = n)
    (hphase : HeaderPhase httpReq p) (hne : ∀ call' ∈ call :: calls, call'.chunk ≠ [])
    (hid : call.server.reqId + eventLoopNum < 2 ^ 63)
    (hstream : p ++ delivered (call :: calls) = hdr ++ body)
    (hhead : hdr.length ≤ p.length + call.chunk.length) :
    (∃ outcomes, clientCalls env me httpReq (call :: calls) = some outcomes ∧
      DispatchedAtEnd n body outcomes) ↔ calls = [] := by
  rw [delivered_cons, ← List.append_assoc] at hstream
  obtain ⟨x, hx⟩ : hdr <+: p ++ call.chunk :=
    List.prefix_of_prefix_length_le (List.prefix_append _ body)
      (hstream ▸ List.prefix_append _ _) (by rw [List.length_append]; exact hhead)
  have hrest : x ++ delivered calls = body := by
    rw [← hx, List.append_assoc] at hstream
    exact List.append_cancel_left hstream
  have hlen := congrArg List.length hrest
  rw [List.length_append, hbody] at hlen
  obtain ⟨hwaits, hdispatches⟩ := clientCall_complete me _ haccept hphase
    (hne call (by simp)) hx.symm (by omega) hfit hid
  constructor
  · rintro ⟨outcomes, hcalls, hd⟩
    by_contra hmore
    obtain ⟨call', calls', rfl⟩ := List.exists_cons_of_ne_nil hmore
    have hpos : 0 < call'.chunk.length := List.length_pos_iff.mpr (hne call' (by simp))
    rw [delivered_cons, List.length_append] at hlen
    obtain ⟨httpReq', hwait, hremember⟩ := hwaits (by omega)
    rw [clientCalls, hwait] at hcalls
    simp only [Option.map_eq_some_iff] at hcalls
    obtain ⟨outcomes', hcalls', rfl⟩ := hcalls
    obtain ⟨quiet, d, rfl, hquiet, hset, -⟩ := dispatchedAtEnd_none_cons.mp hd
    have hunset := unset_of_clientCalls (fun c hc => hne c (List.mem_cons_of_mem _ hc))
      hremember hcalls' hquiet
    rw [hset] at hunset
    exact absurd hunset (by decide)
  · rintro rfl
    have hxbody : x = body := by simpa [delivered] using hrest
    obtain ⟨d, lb', server', httpReq', hdone, hset, hlength, hbytes⟩ :=
      hdispatches (by rw [hxbody, hbody])
    refine ⟨[some d], ?_, [], d, rfl, by simp, hset, hlength, by rw [hbytes, hxbody]⟩
    simp only [clientCalls, hdone, Option.map_some]

variable (me) in
/-- A run of reads from a state that has not seen the header block. The header phase goes on
as long as the reads stay inside the header block. -/
lemma clientCalls_dispatchedAtEnd_iff (haccept : AcceptsHeader env hdr n)
    (hfit : hdr.length + n ≤ 2 * defaultPackageSize) (hbody : body.length = n)
    (hphase : HeaderPhase httpReq p) (hshort : p.length < hdr.length)
    (hne : ∀ call ∈ calls, call.chunk ≠ [])
    (hid : ∀ call ∈ calls, call.server.reqId + eventLoopNum < 2 ^ 63)
    (hstream : p ++ delivered calls = hdr ++ body) :
    (∃ outcomes, clientCalls env me httpReq calls = some outcomes ∧
      DispatchedAtEnd n body outcomes) ↔
    p.length + (delivered calls.dropLast).length < hdr.length := by
  induction calls generalizing httpReq p with
  | nil =>
    have hlen := congrArg List.length hstream
    simp only [delivered, List.map_nil, List.flatten_nil, List.append_nil,
      List.length_append] at hlen
    omega
  | cons call calls ih =>
    by_cases hhead : p.length + call.chunk.length < hdr.length
    · -- the read stays inside the header block
      rw [delivered_cons, ← List.append_assoc] at hstream
      obtain ⟨x, hx⟩ : p ++ call.chunk <+: hdr :=
        List.prefix_of_prefix_length_le (hstream ▸ List.prefix_append _ _) (List.prefix_append _ _)
          (by rw [List.length_append]; omega)
      have hxne : x ≠ [] := by
        rintro rfl
        rw [List.append_nil] at hx
        rw [← List.length_append, hx] at hhead
        omega
      have hmore : calls ≠ [] := by
        rintro rfl
        have hlen := congrArg List.length hstream
        simp only [delivered, List.map_nil, List.flatten_nil, List.append_nil,
          List.length_append] at hlen
        omega
      obtain ⟨httpReq', hwait, hphase'⟩ :=
        clientCall_header me haccept hphase (hne call (by simp)) hx hxne
      have hrec := ih hphase' (by rw [List.length_append]; omega)
        (fun c hc => hne c (List.mem_cons_of_mem _ hc))
        (fun c hc => hid c (List.mem_cons_of_mem _ hc)) hstream
      rw [List.dropLast_cons_of_ne_nil hmore, delivered_cons, List.length_append,
        ← Nat.add_assoc, ← List.length_append, ← hrec]
      simp only [clientCalls, hwait, Option.map_eq_some_iff]
      constructor
      · rintro ⟨_, ⟨outcomes, hcalls, rfl⟩, hd⟩
        exact ⟨outcomes, hcalls, dispatchedAtEnd_none_cons.mp hd⟩
      · rintro ⟨outcomes, hcalls, hd⟩
        exact ⟨_, ⟨outcomes, hcalls, rfl⟩, dispatchedAtEnd_none_cons.mpr hd⟩
    · -- the read completes the header block
      rw [clientCalls_complete_iff haccept hfit hbody hphase hne (hid call (by simp)) hstream
        (by omega)]
      constructor
      · rintro rfl
        simpa [delivered] using hshort
      · intro hlt
        by_contra hmore
        rw [List.dropLast_cons_of_ne_nil hmore, delivered_cons, List.length_append] at hlt
        omega

end

/-- A request on a fresh connection becomes one right frame at its last byte, under exactly
those cuttings in which the read that completes the header block brings the whole body. -/
theorem dispatchedAtEnd_iff (env : Environment) (me : Nat) (raw response : Mem UInt8)
    (contentLength tsReqBeg : Int) (hdr body : List UInt8) (calls : List ClientCall)
    (haccept : AcceptsHeader env hdr body.length)
    (hfit : hdr.length + body.length ≤ 2 * defaultPackageSize)
    (hne : ∀ call ∈ calls, call.chunk ≠ [])
    (hid : ∀ call ∈ calls, call.server.reqId + eventLoopNum < 2 ^ 63)
    (hstream : delivered calls = hdr ++ body) :
    (∃ outcomes, clientCalls env me
        (initHttpReq (2 * defaultPackageSize) raw response contentLength tsReqBeg) calls =
          some outcomes ∧ DispatchedAtEnd body.length body outcomes) ↔
      (delivered calls.dropLast).length < hdr.length := by
  have hlong := haccept.length
  have h := clientCalls_dispatchedAtEnd_iff me haccept hfit rfl
    (headerPhase_init raw response contentLength tsReqBeg) (by rw [List.length_nil]; omega) hne hid
    hstream
  rw [h, List.length_nil, Nat.zero_add]

lemma acceptsHeader_post (contentLength : List Char) (hne : contentLength ≠ [])
    (hdigits : IsDigits (ascii contentLength)) :
    AcceptsHeader (postEnvironment contentLength) (postHeader contentLength)
      (digitsValue (ascii contentLength) 0) := by
  have hsplit : (postHeader contentLength).drop 33 = ascii contentLength ++ 13 :: [10, 13, 10] := by
    simp [postHeader, ascii]
  have hlong : (postHeader contentLength).length = 33 + (contentLength.length + 4) := by
    simp [postHeader, ascii]
    omega
  refine ⟨by omega, ?_, 33, ascii contentLength, 13, [10, 13, 10],
    postEnvironment_append contentLength, by omega, hsplit, by simpa [ascii] using hne,
    hdigits, rfl,
    by decide⟩
  intro p x hpart hx
  have hpos : 0 < x.length := List.length_pos_iff.mpr hx
  have hlen := congrArg List.length hpart
  rw [List.length_append] at hlen
  have hnot : ¬ (postHeader contentLength).isPrefixOf p = true := by
    intro hpre
    have := ( List.isPrefixOf_iff_prefix.mp hpre).length_le
    omega
  exact congrArg ParseResult.ret (if_neg hnot)

def firstCall (chunk : List UInt8) : ClientCall where
  chunk := chunk
  lb := initLoadBalancer 3
  server := initTcpServer 0 (fun _ _ => 0)
  stale := 0
  now := 0

theorem dispatchedAtEnd_split_header :
    ∃ outcomes, clientCalls (postEnvironment ['3']) 1
        (initHttpReq (2 * defaultPackageSize) (fun _ => 0) (fun _ => 0) 0 0)
        [firstCall ((postHeader ['3']).take 20),
          firstCall ((postHeader ['3']).drop 20 ++ [97, 61, 98])] = some outcomes ∧
      DispatchedAtEnd 3 [97, 61, 98] outcomes :=
  (dispatchedAtEnd_iff (postEnvironment ['3']) 1 (fun _ => 0) (fun _ => 0) 0 0 (postHeader ['3'])
    [97, 61, 98] _ (acceptsHeader_post ['3'] (by decide) (by decide)) (by decide) (by decide)
    (by decide) (by decide)).mpr (by decide)

/-- The header block in one read and the body in the next: the length is read through the
header array that only the first call has filled. -/
theorem dispatchedAtEnd_body_apart :
    ¬ ∃ outcomes, clientCalls (postEnvironment ['3']) 1
        (initHttpReq (2 * defaultPackageSize) (fun _ => 0) (fun _ => 0) 0 0)
        [firstCall (postHeader ['3']), firstCall [97, 61, 98]] = some outcomes ∧
      DispatchedAtEnd 3 [97, 61, 98] outcomes := by
  intro hd
  have haccept := acceptsHeader_post ['3'] (by decide) (by decide)
  have hstream : [] ++ delivered [firstCall (postHeader ['3']), firstCall [97, 61, 98]] =
    postHeader ['3'] ++ [97, 61, 98] := by decide
  have h := clientCalls_dispatchedAtEnd_iff 1 haccept (by decide) rfl
    (headerPhase_init (fun _ => 0) (fun _ => 0) 0 0) (by decide) (by decide) (by decide) hstream
  exact absurd (h.mp hd) (by decide)

end MeshAgent.Proofs

import MeshAgent.Foundations.Runs
import MeshAgent.Proofs.RequestDispatch

/-!
# What a dispatch leaves of the next request

A read may bring the end of a request together with the beginning of the next. The dispatch
empties the buffer whatever lies behind the body.
-/

namespace MeshAgent.Proofs
open MeshAgent.Foundations MeshAgent.Model

/-- A read after which the callback waits for more. -/
def WaitStep (env : Environment) (me : Nat) (httpReq : HttpReq) (call : ClientCall)
    (httpReq' : HttpReq) : Prop :=
  call.chunk ≠ [] ∧ clientCall env me httpReq call = some (.wait httpReq')

/-- A record that has buffered `p`. The header block, of length `h`, has been parsed as soon
as it was complete. -/
structure Buffered (h : Nat) (httpReq : HttpReq) (p : List UInt8) : Prop where
  max : httpReq.rawArrayMaxSize = 2 * defaultPackageSize
  content : httpReq.rawArray.read 0 httpReq.rawArraySize = p
  unparsed : p.length < h → httpReq.requestLength < 0
  parsed : h ≤ p.length → httpReq.requestLength = h

/-- The read dispatches a request and leaves `extra`, and nothing else, in the buffer. -/
def KeepsRemainder (result : Option ClientRead) (extra : List UInt8) : Prop :=
  ∃ d lb server httpReq, result = some (.dispatch d lb server httpReq) ∧
    httpReq.rawArraySize = extra.length ∧ httpReq.rawArray.read 0 extra.length = extra

section

variable {env : Environment} {me : Nat} {httpReq httpReq' : HttpReq} {hdr body extra p : List UInt8}
  {n : Nat} {call : ClientCall} {calls : List ClientCall}

lemma Buffered.headerPhase (h : Buffered hdr.length httpReq p) (hp : p.length < hdr.length) :
    HeaderPhase httpReq p :=
  ⟨h.unparsed hp, h.max, h.content⟩

lemma parser_ret (haccept : AcceptsHeader env hdr n) {rest : List UInt8} (h : p <+: hdr ++ rest) :
    (p.length < hdr.length → (env.phrParseRequest p).ret = -2) ∧
      (hdr.length ≤ p.length → (env.phrParseRequest p).ret = hdr.length) := by
  constructor
  · intro hshort
    obtain ⟨x, hx⟩ := List.prefix_of_prefix_length_le h (List.prefix_append hdr rest)
      (Nat.le_of_lt hshort)
    apply haccept.incomplete p x hx
    rintro rfl
    rw [List.append_nil] at hx
    rw [hx] at hshort
    exact Nat.lt_irrefl _ hshort
  · intro hlong
    obtain ⟨x, rfl⟩ := List.prefix_of_prefix_length_le (List.prefix_append hdr rest) h hlong
    obtain ⟨v, -, -, -, hret, -⟩ := haccept.complete
    rw [hret]

lemma requestLength_parsedRequest (haccept : AcceptsHeader env hdr n)
    (h : Buffered hdr.length httpReq p) {rest : List UInt8}
    (hstream : p ++ call.chunk <+: hdr ++ rest) :
    ((p ++ call.chunk).length < hdr.length →
        (parsedRequest env (httpReq.store call.chunk) call.chunk.length).1.requestLength < 0) ∧
      (hdr.length ≤ (p ++ call.chunk).length →
        (parsedRequest env (httpReq.store call.chunk) call.chunk.length).1.requestLength =
          hdr.length) := by
  obtain ⟨hshort, hlong⟩ := parser_ret haccept hstream
  by_cases hp : p.length < hdr.length
  · rw [parsedRequest_store env call.chunk (h.headerPhase hp)]
    simp only
    refine ⟨fun hless => ?_, hlong⟩
    rw [hshort hless]
    exact Int.negSucc_lt_zero 1
  · have hremembered := h.parsed (by omega)
    rw [List.length_append]
    refine ⟨fun hless => by omega, fun _ => ?_⟩
    rw [parsedRequest_remembered env call.chunk (by omega)]
    exact hremembered

lemma buffered_step (haccept : AcceptsHeader env hdr n) (h : Buffered hdr.length httpReq p)
    {rest : List UInt8} (hstream : p ++ call.chunk <+: hdr ++ rest)
    (hstep : WaitStep env me httpReq call httpReq') :
    Buffered hdr.length httpReq' (p ++ call.chunk) := by
  have hpos : 0 < call.chunk.length := List.length_pos_iff.mpr hstep.1
  obtain ⟨hraw, -, hsize, hmax, hlength⟩ := cReadConnectionData_wait (by omega) hstep.2
  obtain ⟨hshort, hlong⟩ := requestLength_parsedRequest haccept h hstream
  refine ⟨hmax.trans h.max, ?_, ?_, ?_⟩
  · rw [hraw, hsize, Int.toNat_natCast, HttpReq.store]
    simp only
    rw [read_store, h.content]
  · intro hless
    rw [hlength]
    exact hshort hless
  · intro hmore
    rw [hlength]
    exact hlong hmore

lemma delivered_snoc (calls : List ClientCall) (call : ClientCall) :
    delivered (calls ++ [call]) = delivered calls ++ call.chunk := by
  simp [delivered]

lemma buffered_run (haccept : AcceptsHeader env hdr n) (hphase : HeaderPhase httpReq [])
    {rest : List UInt8} (hrun : Run (WaitStep env me) httpReq calls httpReq')
    (hstream : delivered calls <+: hdr ++ rest) :
    Buffered hdr.length httpReq' (delivered calls) := by
  have hlong := haccept.length
  induction hrun with
  | nil =>
    refine ⟨hphase.max, hphase.content, fun _ => hphase.unparsed, ?_⟩
    simp only [delivered, List.map_nil, List.flatten_nil, List.length_nil]
    omega
  | snoc _ hlast ih =>
    rw [delivered_snoc] at hstream ⊢
    have hbefore := ih ((List.prefix_append _ _).trans hstream)
    exact buffered_step haccept hbefore hstream hlast

lemma KeepsRemainder.eq_nil (h : KeepsRemainder (clientCall env me httpReq call) extra) :
    extra = [] := by
  obtain ⟨d, lb, server, httpReq', hcall, hkept, -⟩ := h
  obtain ⟨-, -, -, -, -, -, -, hempty⟩ := cReadConnectionData_dispatch hcall
  rw [hempty.rawArraySize] at hkept
  exact List.length_eq_zero_iff.mp hkept.symm

/-- The call uses the length in the header block if the read completes it, and otherwise the
unset local. -/
lemma callContentLength_eq (haccept : AcceptsHeader env hdr n)
    (h : Buffered hdr.length httpReq p) {x : List UInt8} (hwhole : p ++ call.chunk = hdr ++ x)
    (hn : n < 2 ^ 31) (hfit : hdr.length + x.length ≤ 2 * defaultPackageSize) :
    ∃ parsed value, parsedRequest env (httpReq.store call.chunk) call.chunk.length =
        (parsed, value) ∧
      parsed.requestLength = hdr.length ∧ parsed.rawArraySize = hdr.length + x.length ∧
      headerContentLength parsed value call.stale =
        if p.length < hdr.length then (n : Int) else call.stale := by
  by_cases hp : p.length < hdr.length
  · obtain ⟨parsed, value, hparsed, hlength, hrequest, hsize, -⟩ :=
      parsedRequest_complete call haccept (h.headerPhase hp) hwhole hn hfit
    refine ⟨parsed, _, hparsed, hrequest, hsize, ?_⟩
    rw [hlength, if_pos hp]
  · have hremembered := h.parsed (by omega)
    have hbuffered := congrArg List.length h.content
    have hlen := congrArg List.length hwhole
    rw [Mem.length_read] at hbuffered
    rw [List.length_append, List.length_append] at hlen
    refine ⟨_, _, parsedRequest_remembered env call.chunk (by omega), hremembered,
      by simp only; omega, ?_⟩
    rw [if_neg hp, headerContentLength]

lemma keepsRemainder_buffered_iff (haccept : AcceptsHeader env hdr body.length)
    (h : Buffered hdr.length httpReq p) (hne : call.chunk ≠ [])
    (hwhole : p ++ call.chunk = hdr ++ (body ++ extra))
    (hfit : hdr.length + (body ++ extra).length ≤ 2 * defaultPackageSize)
    (hid : call.server.reqId + eventLoopNum < 2 ^ 63)
    (hstale : -2 ^ 31 ≤ call.stale) (hstale' : call.stale < 2 ^ 31) :
    KeepsRemainder (clientCall env me httpReq call) extra ↔
      extra = [] ∧ (p.length < hdr.length ∨
        (0 ≤ call.stale + hdr.length ∧ call.stale ≤ body.length)) := by
  have hcap : defaultPackageSize = 4096 := rfl
  have hpos : 0 < call.chunk.length := List.length_pos_iff.mpr hne
  have hlong := haccept.length
  have hlen : (body ++ extra).length = body.length + extra.length := List.length_append
  obtain ⟨parsed, value, hparsed, hrequest, hsize, hlength⟩ :=
    callContentLength_eq haccept h hwhole (by omega) hfit
  set c := headerContentLength parsed value call.stale with hc
  have hcl : -2 ^ 31 ≤ c ∧ c < 2 ^ 31 := by
    rw [hlength]
    split <;> omega
  have htest := lt_sizeTOfInt_addInt_iff (n := parsed.rawArraySize) (c := c)
    (h := parsed.requestLength) (by omega) hcl.1 hcl.2 (by omega) (by omega)
  constructor
  · intro hkeeps
    obtain rfl := hkeeps.eq_nil
    obtain ⟨d, lb, server, httpReq', hcall, -⟩ := hkeeps
    obtain ⟨-, -, hdone, -⟩ := cReadConnectionData_dispatch hcall
    rw [callContentLength, hparsed] at hdone
    simp only at hdone
    rw [← hc, htest] at hdone
    rw [List.length_nil] at hlen
    refine ⟨rfl, ?_⟩
    by_cases hp : p.length < hdr.length
    · exact Or.inl hp
    · rw [if_neg hp] at hlength
      right
      omega
  · rintro ⟨rfl, hgood⟩
    have hdone : ¬ parsed.rawArraySize < sizeTOfInt (addInt c parsed.requestLength) := by
      rw [htest, hlength]
      rw [List.length_nil] at hlen
      split <;> omega
    obtain ⟨lb, server, httpReq', hcall⟩ :=
      cReadConnectionData_returns (by omega) hparsed (by omega) hid (hc ▸ hdone)
    obtain ⟨-, -, -, -, -, -, -, hempty⟩ := cReadConnectionData_dispatch hcall
    exact ⟨_, lb, server, httpReq', hcall, hempty.rawArraySize, rfl⟩

end

/-- On a connection that is fresh or has just dispatched: whatever reads have waited before,
the read that completes a request, with `extra` behind it, keeps `extra` only if it is empty;
and the request must not fall to the unset local. -/
theorem keepsRemainder_iff (env : Environment) (me : Nat) (httpReq httpReq' : HttpReq)
    (hdr body extra : List UInt8) (earlier : List ClientCall) (call : ClientCall)
    (haccept : AcceptsHeader env hdr body.length) (hphase : HeaderPhase httpReq [])
    (hearlier : Run (WaitStep env me) httpReq earlier httpReq') (hne : call.chunk ≠ [])
    (hstream : delivered (earlier ++ [call]) = hdr ++ body ++ extra)
    (hfit : (hdr ++ body ++ extra).length ≤ 2 * defaultPackageSize)
    (hid : call.server.reqId + eventLoopNum < 2 ^ 63)
    (hstale : -2 ^ 31 ≤ call.stale) (hstale' : call.stale < 2 ^ 31) :
    KeepsRemainder (clientCall env me httpReq' call) extra ↔
      extra = [] ∧ ((delivered earlier).length < hdr.length ∨
        (0 ≤ call.stale + hdr.length ∧ call.stale ≤ body.length)) := by
  rw [delivered_snoc, List.append_assoc] at hstream
  rw [List.append_assoc, List.length_append] at hfit
  have hbuffered := buffered_run haccept hphase hearlier (hstream ▸ List.prefix_append _ _)
  exact keepsRemainder_buffered_iff haccept hbuffered hne hstream hfit hid hstale hstale'

/-- The header block in two reads, the second with the body and nothing behind it. -/
theorem keepsRemainder_split_header :
    ∃ httpReq', clientCall (postEnvironment ['3']) 1 freshRequest
        (firstCall ((postHeader ['3']).take 20)) = some (.wait httpReq') ∧
      KeepsRemainder (clientCall (postEnvironment ['3']) 1 httpReq'
        (firstCall ((postHeader ['3']).drop 20 ++ [97, 61, 98]))) [] := by
  have haccept := acceptsHeader_post ['3'] (by decide) (by decide)
  have hphase : HeaderPhase freshRequest [] := headerPhase_init _ _ _ _
  have hpart : [] ++ (firstCall ((postHeader ['3']).take 20)).chunk ++ (postHeader ['3']).drop 20 =
    postHeader ['3'] := by decide
  obtain ⟨httpReq', hwait, -⟩ :=
    clientCall_header 1 haccept hphase (by decide) hpart (by decide)
  have hrun : Run (WaitStep (postEnvironment ['3']) 1) freshRequest
      [firstCall ((postHeader ['3']).take 20)] httpReq' := Run.single ⟨by decide, hwait⟩
  exact ⟨httpReq', hwait, (keepsRemainder_iff _ 1 _ _ (postHeader ['3']) [97, 61, 98] [] _ _ haccept
    hphase hrun (by decide) (by decide) (by decide) (by decide) (by decide) (by decide)).mpr
    ⟨rfl, by decide⟩⟩

/-- One read with a request and the first bytes of the next. -/
theorem next_request_lost :
    ¬ ∀ (env : Environment) (httpReq : HttpReq) (hdr body extra : List UInt8) (call : ClientCall),
      AcceptsHeader env hdr body.length → HeaderPhase httpReq [] →
      call.chunk = hdr ++ body ++ extra →
      (hdr ++ body ++ extra).length ≤ 2 * defaultPackageSize →
      call.server.reqId + eventLoopNum < 2 ^ 63 →
      KeepsRemainder (clientCall env 1 httpReq call) extra := by
  intro h
  have hkeeps := h (postEnvironment ['3']) freshRequest (postHeader ['3']) [97, 61, 98]
    (ascii ['P', 'O', 'S', 'T']) (firstCall (postHeader ['3'] ++ [97, 61, 98] ++
      ascii ['P', 'O', 'S', 'T'])) (acceptsHeader_post ['3'] (by decide) (by decide))
    (headerPhase_init _ _ _ _) rfl (by decide) (by decide)
  exact absurd hkeeps.eq_nil (by decide)

end MeshAgent.Proofs

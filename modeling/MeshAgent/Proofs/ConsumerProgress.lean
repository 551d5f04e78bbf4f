import MeshAgent.Proofs.IdTable
import MeshAgent.Proofs.RequestDispatch
import MeshAgent.Proofs.StreamFrames

/-!
# What an idle loop does with a whole request and with a whole reply

A request that arrives in one read is dispatched, and the record is ready for the next. An
answer that arrives in one read is handled, and the buffer is empty again.
-/

namespace MeshAgent.Proofs
open MeshAgent.Foundations MeshAgent.Model

lemma headerPhase_of_emptied {httpReq httpReq' : HttpReq} (h : Emptied httpReq httpReq')
    (hmax : httpReq.rawArrayMaxSize = 2 * defaultPackageSize) : HeaderPhase httpReq' [] where
  unparsed := by
    rw [h.requestLength]
    exact Int.negSucc_lt_zero 0
  max := h.rawArrayMaxSize.trans hmax
  content := by
    rw [h.rawArraySize]
    rfl

/-- A whole request of an active client is dispatched. -/
theorem clientRead_dispatches {env : Environment} {hdr : List UInt8} (body : List UInt8)
    (haccept : AcceptsHeader env hdr body.length)
    (hfit : hdr.length + body.length ≤ 2 * defaultPackageSize) {shared : Shared} {loop : WorkLoop}
    {client : Nat} {httpReq : HttpReq} (record : loop.evLoop.reqs client = some httpReq)
    (idle : loop.reading = none) (active : loop.closing client = false)
    (hphase : HeaderPhase httpReq []) (hid : loop.evLoop.server.reqId + eventLoopNum < 2 ^ 63)
    (stale now : Int) :
    ∃ httpReq', HeaderPhase httpReq' [] ∧
      loop.clientRead env shared client (hdr ++ body) stale now =
        some ({ shared with lb := shared.lb.addRemain (shared.lb.selectIndex env.limits) 1 },
          dispatchedLoop loop client (shared.lb.selectIndex env.limits) httpReq') := by
  have hlong := haccept.length
  have hne : hdr ++ body ≠ [] := by
    rw [← List.length_pos_iff, List.length_append]
    omega
  have hempty : httpReq.rawArraySize = 0 := by
    simpa using congrArg List.length hphase.content
  obtain ⟨d, lb', server', httpReq', hcall, -⟩ :=
    (clientCall_complete client ⟨hdr ++ body, shared.lb, loop.evLoop.server, stale, now⟩ haccept
      hphase (x := body) hne rfl (Nat.le_refl _) hfit hid).2 rfl
  rw [clientCall] at hcall
  obtain ⟨-, -, -, -, hd, rfl, rfl, hemptied⟩ := cReadConnectionData_dispatch hcall
  refine ⟨httpReq', headerPhase_of_emptied hemptied hphase.max, ?_⟩
  rw [WorkLoop.clientRead, record]
  simp only
  have hguard : ¬ (loop.reading ≠ none ∨ loop.closing client = true ∨ hdr ++ body = [] ∨
      allocBuffer httpReq < (hdr ++ body).length) := by
    rw [allocBuffer, hempty, hphase.max, List.length_append]
    simp only [idle, active, hne]
    simp only [ne_eq, not_true_eq_false, Bool.false_eq_true, false_or, not_lt]
    omega
  rw [if_neg hguard]
  simp only at hcall
  simp only [hcall, hd]
  rfl

lemma answer_arrives (env : Environment) (startTime : Int)
    (cond : Shared → WorkLoop → Event → Prop) (reqId : Nat) (payload : List UInt8)
    {s : Shared × WorkLoop} {which : Nat} (idle : s.2.reading = none)
    (established : (s.2.streams which).connection = .established)
    (hpending : reqId ∈ (s.2.streams which).pending)
    (hinbound : (s.2.streams which).inbound = [])
    (hempty : (s.2.evLoop.server.endpointServers which).sizeOfRawArray = 0)
    (hmax : (s.2.evLoop.server.endpointServers which).rawArrayMaxLength = defaultResponseSize)
    (hfits : 12 + payload.length ≤ defaultResponseSize)
    (hanswer : cond s.1 s.2 (.answer which reqId payload))
    (hread : ∀ loop, cond s.1 loop (.replyRead which (replyFrame reqId payload))) :
    Run (LoopStepIf env startTime cond) s
      [.answer which reqId payload, .replyRead which (replyFrame reqId payload)]
      (s.1, { s.2.setStream which ⟨.established, (s.2.streams which).pending.erase reqId,
          (s.2.streams which).inTransit ++ [reqId], []⟩ with
        evLoop := s.2.evLoop.setEndpoint which
          (receivedServer (s.2.evLoop.server.endpointServers which) (replyFrame reqId payload))
        reading := some which }) := by
  have hlen : (replyFrame reqId payload).length = 12 + payload.length := by
    simp only [replyFrame, List.length_append, length_intToFourChar, length_longTo8bytes]
  have hne : replyFrame reqId payload ≠ [] := by
    rw [← List.length_pos_iff]
    omega
  refine .snoc (t := (s.1, s.2.setStream which ⟨.established,
    (s.2.streams which).pending.erase reqId, (s.2.streams which).inTransit ++ [reqId],
    replyFrame reqId payload⟩)) (.single ⟨?_, hanswer⟩) ⟨?_, hread _⟩
  · rw [WorkLoop.step, WorkLoop.replyRead]
    simp only [WorkLoop.setStream, Function.update_self, idle, hne, List.prefix_rfl, ne_eq,
      not_true_eq_false, false_or, or_false, allocBufferToAgent, hempty, hmax, hlen]
    rw [if_neg (by omega), ← hlen]
    simp only [Function.update_idem, List.drop_length, receivedServer, hempty]
  · rw [WorkLoop.step, WorkLoop.answer]
    simp only [established, hpending, hinbound, not_true_eq_false, ne_eq, false_or,
      List.nil_append]
    rw [if_neg (by omega)]

/-- What the handling of a whole answer leaves of a loop. -/
structure Answered (which reqId : Nat) (s s' : Shared × WorkLoop) : Prop where
  numOfEnds : s'.1.lb.numOfEnds = s.1.lb.numOfEnds
  idle : s'.2.reading = none
  closing : s'.2.closing = s.2.closing
  owner : s'.2.owner = s.2.owner
  streams : s'.2.streams = Function.update s.2.streams which
    ⟨.established, (s.2.streams which).pending.erase reqId, (s.2.streams which).inTransit, []⟩
  counter : s'.2.evLoop.server.reqId = s.2.evLoop.server.reqId
  empty : (s'.2.evLoop.server.endpointServers which).sizeOfRawArray = 0
  max : (s'.2.evLoop.server.endpointServers which).rawArrayMaxLength = defaultResponseSize
  reqs : ∀ client httpReq, s.2.evLoop.reqs client = some httpReq →
    ∃ response, s'.2.evLoop.reqs client = some { httpReq with responsePackage := response }
  noDangling : NoDangling s'.2.evLoop

lemma buffered_receivedServer {server : EndpointServer} (hempty : server.sizeOfRawArray = 0)
    (chunk : List UInt8) : buffered (receivedServer server chunk) = chunk := by
  simp only [buffered, receivedServer, EndpointServer.store, hempty, Nat.zero_add, Nat.cast_zero]
  exact Mem.read_write_self _ _ _ _ rfl

lemma replyPass_emit (env : Environment) (startTime : Int) {shared : Shared} (loop : WorkLoop)
    {which : Nat} {now : Int} {reply : Reply} {next : ReplyLoop}
    (hreading : loop.reading = some which)
    (hpass : loop.nextPass shared which now = .emit reply (some next)) :
    loop.step env startTime shared (.replyPass now) =
      some ({ shared with lb := next.lb },
        { loop.setStream which { loop.streams which with
            inTransit := (loop.streams which).inTransit.tail } with
          evLoop := next.evLoop }) := by
  rw [WorkLoop.step, WorkLoop.replyPass, hreading]
  simp only [hpass]

lemma replyPass_ret (env : Environment) (startTime : Int) (shared : Shared) (loop : WorkLoop)
    (which : Nat) (now : Int) (hreading : loop.reading = some which)
    (hempty : (loop.evLoop.server.endpointServers which).sizeOfRawArray = 0) :
    loop.step env startTime shared (.replyPass now) =
      some (shared, { loop with reading := none }) := by
  have hret : loop.nextPass shared which now = .ret := by
    rw [WorkLoop.nextPass, cReadFromProvideAgentsPass]
    simp only [hempty]
    rfl
  rw [WorkLoop.step, WorkLoop.replyPass, hreading]
  simp only [hret]

lemma reqs_handleReply {lb lb' : LoadBalancer} {evLoop evLoop' : EventLoop} {which : Nat}
    {reqId lengthBody now : Int} {payload : List UInt8}
    (h : handleReply lb evLoop which reqId lengthBody now payload = some (lb', evLoop'))
    {client : Nat} {httpReq : HttpReq} (hreq : evLoop.reqs client = some httpReq) :
    ∃ response, evLoop'.reqs client = some { httpReq with responsePackage := response } := by
  rcases handleReply_cases h with ⟨-, -, rfl⟩ | ⟨owner, httpConn, -, hconn, -, rfl⟩
  · exact ⟨httpReq.responsePackage, hreq⟩
  · by_cases hc : client = owner
    · subst hc
      have hsame : httpConn = httpReq := Option.some.inj (hconn.symm.trans hreq)
      subst hsame
      exact ⟨_, Function.update_self ..⟩
    · exact ⟨httpReq.responsePackage, by simp only [Function.update_of_ne hc, hreq]⟩

/-- An answer that arrives in one read at an idle loop without dangling slots is handled. -/
theorem answer_handled (env : Environment) (startTime : Int)
    (cond : Shared → WorkLoop → Event → Prop) (reqId : Nat) (payload : List UInt8)
    {s : Shared × WorkLoop} {which : Nat} (idle : s.2.reading = none)
    (established : (s.2.streams which).connection = .established)
    (hpending : reqId ∈ (s.2.streams which).pending) (hsmall : reqId < 2 ^ 63)
    (htransit : (s.2.streams which).inTransit = []) (hinbound : (s.2.streams which).inbound = [])
    (hempty : (s.2.evLoop.server.endpointServers which).sizeOfRawArray = 0)
    (hmax : (s.2.evLoop.server.endpointServers which).rawArrayMaxLength = defaultResponseSize)
    (hfits : 12 + payload.length ≤ defaultResponseSize) (hlive : NoDangling s.2.evLoop) (now : Int)
    (hanswer : cond s.1 s.2 (.answer which reqId payload))
    (hread : ∀ loop, cond s.1 loop (.replyRead which (replyFrame reqId payload)))
    (hpass : ∀ shared loop, cond shared loop (.replyPass now)) :
    ∃ s', Run (LoopStepIf env startTime cond) s
        ([.answer which reqId payload, .replyRead which (replyFrame reqId payload)] ++
          [.replyPass now] ++ [.replyPass now]) s' ∧
      Answered which reqId s s' := by
  have hcap : defaultResponseSize = 4096 := rfl
  have harrives := answer_arrives env startTime cond reqId payload idle established hpending
    hinbound hempty hmax hfits hanswer hread
  obtain ⟨⟨hframe, hshort, hnonneg⟩, hid⟩ := carriesReply_replyFrame reqId payload hsmall hfits
  generalize hserver : receivedServer (s.2.evLoop.server.endpointServers which)
    (replyFrame reqId payload) = server at harrives
  have hcontent : buffered server = replyFrame reqId payload ++ [] := by
    rw [← hserver, buffered_receivedServer hempty, List.append_nil]
  have hsize : server.sizeOfRawArray = (replyFrame reqId payload).length := by
    rw [← List.append_nil (replyFrame reqId payload), ← hcontent, buffered, Mem.length_read]
  have hge := hframe.le_length
  have hfound := bufferedFrame_of_frame hframe (by decide) (by omega) hcontent
  obtain ⟨hheader, hpayload⟩ := read_header_payload hframe hcontent
  obtain ⟨hrest, -⟩ := takeOff_frame (by omega) hcontent
  have hreqId := bytes8ToLong_frame hge hcontent
  rw [hid] at hreqId
  obtain ⟨⟨lb, evLoop⟩, hreply⟩ := handleReply_returns
    ((noDangling_setEndpoint hlive which server).liveSlot (by omega))
    (show (0 : Int) ≤ reqId by omega)
    (show 0 ≤ ((replyFrame reqId payload).length : Int) - (12 : Nat) by omega)
    (show ((replyFrame reqId payload).length : Int) - (12 : Nat) ≤ defaultPackageSize by
      have : defaultPackageSize = 4096 := rfl
      omega)
  have hpass₁ := cReadFromProvideAgentsPass_frame
    (s := ⟨s.1.lb, s.2.evLoop.setEndpoint which server, fun _ => now⟩)
    (endpointServers_setEndpoint _ _ _) hfound hreqId hheader hpayload hreply
  have hserver' := server_handleReply hreply
  have hstep₁ := replyPass_emit env startTime
    { s.2.setStream which ⟨.established, (s.2.streams which).pending.erase reqId,
        (s.2.streams which).inTransit ++ [reqId], []⟩ with
      evLoop := s.2.evLoop.setEndpoint which server
      reading := some which } rfl hpass₁
  have hstep₂ := fun (shared : Shared) (loop : WorkLoop) =>
    replyPass_ret env startTime shared loop which now
  refine ⟨_, .snoc (.snoc harrives ⟨hstep₁, hpass _ _⟩) ⟨hstep₂ _ _ rfl ?_, hpass _ _⟩, ?_⟩
  · simp only [endpointServers_setEndpoint, hrest, List.length_nil]
  · refine ⟨numOfEnds_handleReply hreply, rfl, rfl, rfl, ?_, ?_, ?_, ?_,
      fun client httpReq hreq => reqs_handleReply hreply hreq, ?_⟩
    · simp only [WorkLoop.setStream, Function.update_self, Function.update_idem, htransit,
        List.nil_append, List.tail_cons]
    · simp only [EventLoop.setEndpoint, hserver']
    · simp only [endpointServers_setEndpoint, hrest, List.length_nil]
    · simp only [endpointServers_setEndpoint, ← hserver, receivedServer, EndpointServer.store, hmax]
    · exact noDangling_setEndpoint (noDangling_handleReply hreply hlive) _ _

/-- A loop of an agent with one endpoint, which it has still to reach. -/
def freshLoop : Shared × WorkLoop :=
  (⟨initLoadBalancer 1, 0⟩, startWorkEventLoop 0 (fun _ _ => 0))

/-- A loop that has reached its endpoint, with two clients that have sent nothing. -/
structure Served (s : Shared × WorkLoop) : Prop where
  numOfEnds : s.1.lb.numOfEnds = 1
  remain : ∀ which, s.1.lb.remain which = 0
  idle : s.2.reading = none
  active : ∀ client, s.2.closing client = false
  counter : s.2.evLoop.server.reqId = 0
  owner : ∀ reqId, s.2.owner reqId = none
  first : s.2.evLoop.reqs 0 = some freshRequest
  second : s.2.evLoop.reqs 1 = some freshRequest
  stream : s.2.streams 0 = ⟨.established, [], [], []⟩
  others : ∀ which, which ≠ 0 → s.2.streams which = ⟨.connecting, [], [], []⟩
  empty : (s.2.evLoop.server.endpointServers 0).sizeOfRawArray = 0
  max : (s.2.evLoop.server.endpointServers 0).rawArrayMaxLength = defaultResponseSize
  slots : ∀ slot, s.2.evLoop.server.httpReqDict slot = none

lemma freshLoop_served (env : Environment) (cond : Shared → WorkLoop → Event → Prop)
    (hconnected : ∀ shared loop, cond shared loop (.connected 0))
    (haccept : ∀ shared loop, cond shared loop (.accept (fun _ => 0) (fun _ => 0) 0 0 0)) :
    ∃ s, Run (LoopStepIf env 0 cond) freshLoop
        [.connected 0, .accept (fun _ => 0) (fun _ => 0) 0 0 0,
          .accept (fun _ => 0) (fun _ => 0) 0 0 0] s ∧ Served s := by
  let s := (freshLoop.2.step env 0 freshLoop.1 (.connected 0)).getD freshLoop
  let t := (s.2.step env 0 s.1 (.accept (fun _ => 0) (fun _ => 0) 0 0 0)).getD s
  let u := (t.2.step env 0 t.1 (.accept (fun _ => 0) (fun _ => 0) 0 0 0)).getD t
  refine ⟨u, .snoc (t := t) (.snoc (t := s) (.single ⟨rfl, hconnected _ _⟩)
    ⟨rfl, haccept _ _⟩) ⟨rfl, haccept _ _⟩, ?_⟩
  refine ⟨rfl, fun _ => rfl, rfl, fun _ => rfl, rfl, fun _ => rfl, rfl, rfl, rfl, ?_, rfl, rfl,
    fun _ => rfl⟩
  intro which hwhich
  exact Function.update_of_ne hwhich _ _

end MeshAgent.Proofs

import MeshAgent.Proofs.RecordLifetime

/-!
# Which client gets a reply

A reply is written to the client in the slot of its id. That is the client that the id was
used for until 4096 further requests have been dispatched.
-/

namespace MeshAgent.Proofs
open MeshAgent.Foundations MeshAgent.Model

/-- A client has at most one request outstanding, and every forwarded request is answered. -/
def OneOutstanding (env : Environment) (shared : Shared) (loop : WorkLoop) : Event → Prop
  | .clientRead client chunk stale now => Dispatching env shared loop client chunk stale now →
      ∀ which, ∀ reqId ∈ unanswered (loop.streams which), loop.owner reqId ≠ some client
  | .providerEnd which => unanswered (loop.streams which) = []
  | _ => True

/-- The request of an unanswered id is the last one of its client. -/
def OwnersLast (loop : WorkLoop) : Prop :=
  ∀ which, ∀ reqId ∈ unanswered (loop.streams which), ∃ client,
    loop.owner reqId = some client ∧ ∀ reqId', reqId < reqId' → loop.owner reqId' ≠ some client

section

variable {env : Environment} {startTime : Int} {shared shared' : Shared} {tid : Nat}
  {loop loop' : WorkLoop} {e : Event}

/-- A client sends a request only after the answer to its last one. -/
def AwaitsAnswer (env : Environment) (shared : Shared) (loop : WorkLoop) (e : Event) : Prop :=
  ∀ client chunk stale now, e = .clientRead client chunk stale now →
    Dispatching env shared loop client chunk stale now →
    ∀ which, ∀ reqId ∈ unanswered (loop.streams which), loop.owner reqId ≠ some client

lemma OneOutstanding.awaitsAnswer (h : OneOutstanding env shared loop e) :
    AwaitsAnswer env shared loop e := by
  rintro client chunk stale now rfl hread
  exact h hread

lemma OneOutstanding.endsAnswered (h : OneOutstanding env shared loop e) : EndsAnswered loop e := by
  cases e with
  | providerEnd which => exact h
  | _ => trivial

lemma unanswered_update {streams : Nat → ProviderStream} {which which' : Nat}
    {stream : ProviderStream} {reqId : Nat}
    (hid : reqId ∈ unanswered (Function.update streams which stream which'))
    (hold : reqId ∈ unanswered stream → reqId ∈ unanswered (streams which)) :
    reqId ∈ unanswered (streams which') := by
  by_cases hw : which' = which
  · subst hw
    rw [Function.update_self] at hid
    exact hold hid
  · rwa [Function.update_of_ne hw] at hid

lemma unanswered_makeConnectionToAgent {server : EndpointServer} {stream : ProviderStream}
    {reqId : Nat} (h : reqId ∈ unanswered (makeConnectionToAgent server stream)) :
    reqId ∈ unanswered stream := by
  rw [makeConnectionToAgent] at h
  split at h
  · simp [unanswered] at h
  · exact h

lemma unanswered_step (h : LoopStep env startTime shared loop e shared' loop') {which reqId : Nat}
    (hid : reqId ∈ unanswered (loop'.streams which)) :
    reqId ∈ unanswered (loop.streams which) ∨ reqId = loop.evLoop.server.reqId ∧
      loop'.evLoop.server.reqId ≠ loop.evLoop.server.reqId := by
  cases h with
  | dispatch =>
    by_cases hnew : reqId = loop.evLoop.server.reqId
    · refine .inr ⟨hnew, ?_⟩
      simp only [dispatchedLoop, dispatchedServer, eventLoopNum]
      omega
    · refine .inl (unanswered_update hid ?_)
      rw [ProviderStream.write]
      split
      · exact id
      · intro hmem
        simp only [unanswered, List.mem_append, List.mem_singleton] at hmem ⊢
        rcases hmem with (hp | hq) | ht
        · exact .inl hp
        · exact absurd hq hnew
        · exact .inr ht
  | answer _ pending =>
    refine .inl (unanswered_update hid ?_)
    intro hmem
    simp only [unanswered, List.mem_append, List.mem_singleton] at hmem ⊢
    rcases hmem with hp | ht | rfl
    · exact .inl (List.mem_of_mem_erase hp)
    · exact .inr ht
    · exact .inl pending
  | replyRead => exact .inl (unanswered_update hid fun hmem => hmem)
  | handled =>
    refine .inl (unanswered_update hid ?_)
    intro hmem
    rcases List.mem_append.mp hmem with hp | ht
    · exact List.mem_append_left _ hp
    · exact List.mem_append_right _ (List.mem_of_mem_tail ht)
  | providerEnd => exact .inl (unanswered_update hid fun hmem => by simp [unanswered] at hmem)
  | reconnect => exact .inl (unanswered_update hid unanswered_makeConnectionToAgent)
  | connectFailed => exact .inl (unanswered_update hid unanswered_makeConnectionToAgent)
  | connected => exact .inl (unanswered_update hid fun hmem => hmem)
  | admitted => exact .inl hid
  | refuse => exact .inl hid
  | wait => exact .inl hid
  | clientEnd => exact .inl hid
  | closed => exact .inl hid
  | returned => exact .inl hid

lemma ownersLast_step (htable : IdTable tid loop) (h : OwnersLast loop)
    (hcond : AwaitsAnswer env shared loop e)
    (hstep : LoopStep env startTime shared loop e shared' loop') : OwnersLast loop' := by
  intro which reqId hmem
  have hold := unanswered_step hstep hmem
  rcases table_unchanged hstep with
    ⟨hid, -, howner⟩ | ⟨client, chunk, stale, now, httpReq, rfl, -, hread, rfl⟩
  · rw [howner]
    rcases hold with hold | ⟨-, hchanged⟩
    · exact h which reqId hold
    · exact absurd hid hchanged
  · simp only [dispatchedLoop]
    rcases hold with hold | ⟨rfl, -⟩
    · obtain ⟨owner, howner, hlast⟩ := h which reqId hold
      have hlt := (htable.lt_reqId howner).1
      refine ⟨owner, by rw [Function.update_of_ne (by omega), howner], ?_⟩
      intro reqId' hlater
      by_cases hnew : reqId' = loop.evLoop.server.reqId
      · -- the client that dispatches has nothing unanswered
        have hother := hcond _ _ _ _ rfl hread which reqId hold
        rw [hnew, Function.update_self]
        rw [howner] at hother
        exact fun heq => hother heq.symm
      · rw [Function.update_of_ne hnew]
        exact hlast reqId' hlater
    · refine ⟨client, Function.update_self .., ?_⟩
      intro reqId' hlater
      rw [Function.update_of_ne (by omega)]
      intro howner
      have := (htable.lt_reqId howner).1
      omega

/-- A handled reply carries an unanswered id, and reaches the client of that id exactly until
4096 further ids have been used. -/
lemma reply_client_iff (htable : IdTable tid loop) (hframes : CarriesFrames loop)
    (hlast : OwnersLast loop) {which : Nat} {now : Int} {reply : Reply} {next : Option ReplyLoop}
    (hpass : loop.nextPass shared which now = .emit reply next) :
    ∃ (reqId client : Nat), reply.reqId = (reqId : Int) ∧
      reqId ∈ unanswered (loop.streams which) ∧ loop.owner reqId = some client ∧
      (reply.client = some client ↔ loop.evLoop.server.reqId ≤ reqId + hashSlotNum) := by
  obtain ⟨⟨lengthBody, lastLength, hfound, -, -⟩, hid, hclient⟩ := emit_cases hpass
  obtain ⟨reqId, rest, htransit, hbytes, -⟩ := (hframes which).handled hfound
  have hreqId : reply.reqId = (reqId : Int) := hid.trans hbytes
  have hmem : reqId ∈ unanswered (loop.streams which) := by
    rw [unanswered, htransit]
    simp
  obtain ⟨client, howner, hlater⟩ := hlast which reqId hmem
  refine ⟨reqId, client, hreqId, hmem, howner, ?_⟩
  rw [hclient, hreqId, replyClient_of_nonneg _ (by omega), Int.toNat_natCast]
  exact htable.slot_eq_iff howner hlater

end

lemma run_routing {env : Environment} {n : Nat} {startTime : Int} {raw : Nat → Nat → Mem UInt8}
    {es : List (Nat × Event)} {w : World}
    (h : Run (StepIf env (OneOutstanding env)) (consumer n startTime raw) es w) :
    ∀ tid, tid < eventLoopNum →
      IdTable tid (w.loops tid) ∧ CarriesFrames (w.loops tid) ∧ OwnersLast (w.loops tid) :=
  run_loops_invariant
    (I := fun tid loop => IdTable tid loop ∧ CarriesFrames loop ∧ OwnersLast loop)
    (fun _ _ _ _ _ _ _ _ hinv hcond hstep =>
      ⟨idTable_step hstep hinv.1,
        carriesFrames_step hinv.2.1 (hcond.endsAnswered.endsEmpty hinv.2.1 _) hstep,
        ownersLast_step hinv.1 hinv.2.2 hcond.awaitsAnswer hstep⟩)
    (fun tid htid => ⟨idTable_start htid _, carriesFrames_start tid _,
      fun which reqId hmem => absurd hmem (by simp [startWorkEventLoop, unanswered])⟩) h

/-- Client 0 waits for the answer to id 0, and `k` requests of client 1 have been answered
since. -/
structure Overtaken (k : Nat) (s : Shared × WorkLoop) : Prop where
  numOfEnds : s.1.lb.numOfEnds = 1
  idle : s.2.reading = none
  active : ∀ client, s.2.closing client = false
  counter : s.2.evLoop.server.reqId = 2 * (k + 1)
  first : s.2.owner 0 = some 0
  record : ∃ httpReq, s.2.evLoop.reqs 1 = some httpReq ∧ HeaderPhase httpReq []
  stream : s.2.streams 0 = ⟨.established, [0], [], []⟩
  others : ∀ which, which ≠ 0 → unanswered (s.2.streams which) = []
  empty : (s.2.evLoop.server.endpointServers 0).sizeOfRawArray = 0
  max : (s.2.evLoop.server.endpointServers 0).rawArrayMaxLength = defaultResponseSize
  noDangling : NoDangling s.2.evLoop

lemma selectIndex_one (t : LimitTables) {lb : LoadBalancer} (h : lb.numOfEnds = 1) :
    lb.selectIndex t = 0 := by
  rw [LoadBalancer.selectIndex, h]
  rfl

section

variable {env : Environment} {hdr body : List UInt8}

lemma overtaken_succ (haccept : AcceptsHeader env hdr body.length)
    (hfit : hdr.length + body.length ≤ 2 * defaultPackageSize) {k : Nat} (hk : k < 4096)
    {s : Shared × WorkLoop} (h : Overtaken k s) :
    ∃ es s', Run (LoopStepIf env 0 (OneOutstanding env)) s es s' ∧ Overtaken (k + 1) s' := by
  have htwo : eventLoopNum = 2 := rfl
  obtain ⟨httpReq, hrecord, hphase⟩ := h.record
  have hcounter := h.counter
  obtain ⟨httpReq', hphase', hread⟩ := clientRead_dispatches body haccept hfit hrecord
    h.idle (h.active 1) hphase (by omega) 0 0
  have hselect := selectIndex_one env.limits h.numOfEnds
  rw [hselect] at hread
  have hdispatch : Run (LoopStepIf env 0 (OneOutstanding env)) s [.clientRead 1 (hdr ++ body) 0 0]
      ({ s.1 with lb := s.1.lb.addRemain 0 1 }, dispatchedLoop s.2 1 0 httpReq') := by
    refine .single ⟨hread, ?_⟩
    intro _ which reqId hmem
    by_cases hwhich : which = 0
    · subst hwhich
      rw [h.stream] at hmem
      simp only [unanswered, List.append_nil, List.mem_singleton] at hmem
      rw [hmem, h.first]
      decide
    · rw [h.others which hwhich] at hmem
      exact absurd hmem (by simp)
  have hstream : (dispatchedLoop s.2 1 0 httpReq').streams 0 =
      ⟨.established, [0, s.2.evLoop.server.reqId], [], []⟩ := by
    simp [dispatchedLoop, h.stream, ProviderStream.write]
  obtain ⟨s', hanswer, hdone⟩ := answer_handled env 0
    (OneOutstanding env) s.2.evLoop.server.reqId []
    (s := ({ s.1 with lb := s.1.lb.addRemain 0 1 }, dispatchedLoop s.2 1 0 httpReq'))
    h.idle (by rw [hstream]) (by rw [hstream]; simp) (by omega) (by rw [hstream]) (by rw [hstream])
    h.empty h.max (by decide) (noDangling_dispatched h.noDangling) 0 trivial (fun _ => trivial)
    (fun _ _ => trivial)
  refine ⟨_, s', hdispatch.append hanswer, hdone.numOfEnds.trans h.numOfEnds, hdone.idle, ?_, ?_,
    ?_, ?_, ?_, ?_, hdone.empty, hdone.max, hdone.noDangling⟩
  · intro client
    rw [hdone.closing]
    exact h.active client
  · rw [hdone.counter]
    simp only [dispatchedLoop, dispatchedServer, htwo, hcounter]
    omega
  · rw [hdone.owner]
    simp only [dispatchedLoop]
    rw [Function.update_of_ne (by omega), h.first]
  · obtain ⟨response, hreq⟩ := hdone.reqs 1 httpReq' (by simp [dispatchedLoop])
    exact ⟨_, hreq, hphase'.unparsed, hphase'.max, hphase'.content⟩
  · rw [hdone.streams, Function.update_self, hstream]
    have hzero : (0 == s.2.evLoop.server.reqId) = false := by
      rw [beq_eq_false_iff_ne]
      omega
    simp [hzero]
  · intro which hwhich
    rw [hdone.streams, Function.update_of_ne hwhich]
    simp only [dispatchedLoop]
    rw [Function.update_of_ne hwhich]
    exact h.others which hwhich

variable (body) in
lemma overtaken_add (haccept : AcceptsHeader env hdr body.length)
    (hfit : hdr.length + body.length ≤ 2 * defaultPackageSize) {k : Nat} (hk : k ≤ 4096)
    {s : Shared × WorkLoop} (h : Overtaken 0 s) :
    ∃ es s', Run (LoopStepIf env 0 (OneOutstanding env)) s es s' ∧ Overtaken k s' := by
  induction k with
  | zero => exact ⟨[], s, .nil s, h⟩
  | succ k ih =>
    obtain ⟨es, t, hrun, ht⟩ := ih (by omega)
    obtain ⟨es', s', hround, hs'⟩ := overtaken_succ haccept hfit (by omega) ht
    exact ⟨es ++ es', s', hrun.append hround, hs'⟩

variable (body) in
lemma served_first (cond : Shared → WorkLoop → Event → Prop)
    (haccept : AcceptsHeader env hdr body.length)
    (hfit : hdr.length + body.length ≤ 2 * defaultPackageSize) {s : Shared × WorkLoop}
    (h : Served s) (hcond : cond s.1 s.2 (.clientRead 0 (hdr ++ body) 0 0)) :
    ∃ s', Run (LoopStepIf env 0 cond) s [.clientRead 0 (hdr ++ body) 0 0] s' ∧ Overtaken 0 s' ∧
      s'.1.lb = s.1.lb.addRemain 0 1 := by
  obtain ⟨httpReq, -, hread⟩ := clientRead_dispatches body haccept hfit h.first
    h.idle (h.active 0) (headerPhase_init _ _ _ _) (by rw [h.counter]; decide) 0 0
  rw [selectIndex_one env.limits h.numOfEnds] at hread
  have hdispatch : Run (LoopStepIf env 0 cond) s [.clientRead 0 (hdr ++ body) 0 0]
      ({ s.1 with lb := s.1.lb.addRemain 0 1 }, dispatchedLoop s.2 0 0 httpReq) :=
    .single ⟨hread, hcond⟩
  refine ⟨_, hdispatch, ⟨h.numOfEnds, h.idle, h.active, ?_, ?_, ?_, ?_, ?_, h.empty, h.max,
    noDangling_dispatched ?_⟩, rfl⟩
  · simp only [dispatchedLoop, dispatchedServer, h.counter]
    rfl
  · simp only [dispatchedLoop, h.counter, Function.update_self]
  · exact ⟨freshRequest, by simp [dispatchedLoop, h.second], headerPhase_init _ _ _ _⟩
  · simp [dispatchedLoop, h.stream, h.counter, ProviderStream.write]
  · intro which hwhich
    simp only [dispatchedLoop, Function.update_of_ne hwhich, h.others which hwhich]
    rfl
  · intro slot client _ hslot
    exact absurd hslot (by rw [h.slots]; simp)

lemma Served.oneOutstanding {s : Shared × WorkLoop} (h : Served s) (client : Nat)
    (chunk : List UInt8) (stale now : Int) :
    OneOutstanding env s.1 s.2 (.clientRead client chunk stale now) := by
  intro _ which reqId _
  rw [h.owner]
  simp

lemma exists_emit {which : Nat} {s : ReplyLoop} {lengthBody lastLength : Int}
    (hfound : bufferedFrame 12 0 (s.evLoop.server.endpointServers which).rawArray
      (s.evLoop.server.endpointServers which).sizeOfRawArray = some (lengthBody, lastLength)) :
    ∃ reply next, cReadFromProvideAgentsPass which s = .emit reply next := by
  rw [cReadFromProvideAgentsPass]
  simp only [hfound]
  split
  · exact ⟨_, _, rfl⟩
  · exact ⟨_, _, rfl⟩

lemma overtaken_arrives {k : Nat} {s : Shared × WorkLoop} (h : Overtaken k s) :
    ∃ es s' reply next, Run (LoopStepIf env 0 (OneOutstanding env)) s es s' ∧
      s'.2.nextPass s'.1 0 0 = .emit reply next ∧ unanswered (s'.2.streams 0) = [0] ∧
      s'.2.owner 0 = some 0 ∧ s'.2.evLoop.server.reqId = 2 * (k + 1) := by
  have harrives := answer_arrives env 0 (OneOutstanding env) 0 [] h.idle (by rw [h.stream])
    (by rw [h.stream]; simp) (by rw [h.stream]) h.empty h.max (by decide) trivial
    (fun _ => trivial)
  obtain ⟨⟨hframe, -⟩, -⟩ := carriesReply_replyFrame 0 [] (by decide) (by decide)
  have hcontent := buffered_receivedServer h.empty (replyFrame 0 [])
  rw [← List.append_nil (replyFrame 0 []), buffered, List.append_nil] at hcontent
  have hfound := bufferedFrame_of_frame hframe (by decide)
    (by simp only [receivedServer, h.empty]; decide)
    (hcontent.trans (List.append_nil _).symm)
  obtain ⟨reply, next, hpass⟩ := exists_emit (s := ⟨s.1.lb, s.2.evLoop.setEndpoint 0
    (receivedServer (s.2.evLoop.server.endpointServers 0) (replyFrame 0 [])), fun _ => 0⟩)
    (by rw [endpointServers_setEndpoint]; exact hfound)
  refine ⟨_, _, reply, next, harrives, hpass, ?_, h.first, h.counter⟩
  simp [WorkLoop.setStream, unanswered, h.stream]

end

/-- In every run with at most one request outstanding for each client, every reply that is
handled carries an id of a request, and it is written to the client of that request exactly
if fewer than 4096 requests have been dispatched after it. -/
theorem replies_routed_iff (env : Environment) (n : Nat) (startTime : Int)
    (raw : Nat → Nat → Mem UInt8) (es : List (Nat × Event)) (w : World)
    (h : Run (StepIf env (OneOutstanding env)) (consumer n startTime raw) es w) (tid : Nat)
    (htid : tid < eventLoopNum) (which : Nat) (now : Int) (reply : Reply)
    (next : Option ReplyLoop)
    (hpass : (w.loops tid).nextPass w.shared which now = .emit reply next) :
    ∃ (reqId client : Nat), reply.reqId = (reqId : Int) ∧
      (w.loops tid).owner reqId = some client ∧
      (reply.client = some client ↔
        (w.loops tid).evLoop.server.reqId ≤ reqId + hashSlotNum) := by
  obtain ⟨htable, hframes, hlast⟩ := run_routing h tid htid
  obtain ⟨reqId, client, hid, -, howner, hiff⟩ := reply_client_iff htable hframes hlast hpass
  exact ⟨reqId, client, hid, howner, hiff⟩

/-- The first reply reaches the client that waits for it. -/
theorem replies_routed_first :
    ∃ es w reply next, Run (StepIf (postEnvironment ['3']) (OneOutstanding (postEnvironment ['3'])))
        (consumer 1 0 (fun _ _ _ => 0)) es w ∧
      (w.loops 0).nextPass w.shared 0 0 = .emit reply next ∧
      ∃ (reqId client : Nat), reply.reqId = (reqId : Int) ∧
        (w.loops 0).owner reqId = some client ∧ reply.client = some client := by
  have haccept := acceptsHeader_post ['3'] (by decide) (by decide)
  obtain ⟨s, hstart, hserved⟩ := freshLoop_served _ (OneOutstanding (postEnvironment ['3']))
    (fun _ _ => trivial) (fun _ _ => trivial)
  obtain ⟨s₀, hfirst, h₀, -⟩ := served_first [97, 61, 98] _ haccept (by decide) hserved
    (hserved.oneOutstanding 0 _ 0 0)
  obtain ⟨es₁, s₁, reply, next, hlast, hpass, -, -, hcounter⟩ := overtaken_arrives h₀
  have hrun := run_of_loop_run (w := consumer 1 0 (fun _ _ _ => 0)) (by decide)
    ((hstart.append hfirst).append hlast)
  obtain ⟨reqId, client, hid, howner, hiff⟩ :=
    replies_routed_iff (postEnvironment ['3']) 1 0 (fun _ _ _ => 0) _ _ hrun 0 (by decide) 0 0
      reply next (by simp only [Function.update_self]; exact hpass)
  refine ⟨_, _, reply, next, hrun, ?_, reqId, client, hid, howner, hiff.mpr ?_⟩
  · simp only [Function.update_self]
    exact hpass
  · simp only [Function.update_self, hcounter, hashSlotNum]
    omega

/-- With 4096 requests between a request and its answer, the answer goes elsewhere. -/
theorem reply_misrouted :
    ∃ es w reply next, Run (StepIf (postEnvironment ['3']) (OneOutstanding (postEnvironment ['3'])))
        (consumer 1 0 (fun _ _ _ => 0)) es w ∧
      (w.loops 0).nextPass w.shared 0 0 = .emit reply next ∧ reply.reqId = 0 ∧
      (w.loops 0).owner 0 = some 0 ∧ reply.client ≠ some 0 := by
  have haccept := acceptsHeader_post ['3'] (by decide) (by decide)
  obtain ⟨s, hstart, hserved⟩ := freshLoop_served _ (OneOutstanding (postEnvironment ['3']))
    (fun _ _ => trivial) (fun _ _ => trivial)
  obtain ⟨s₀, hfirst, h₀, -⟩ := served_first [97, 61, 98] _ haccept (by decide) hserved
    (hserved.oneOutstanding 0 _ 0 0)
  obtain ⟨es₁, s₁, hrounds, h₁⟩ := overtaken_add [97, 61, 98] haccept (by decide) (k := 4096)
    (Nat.le_refl _) h₀
  obtain ⟨es₂, s₂, reply, next, hlast, hpass, hpending, howner, hcounter⟩ := overtaken_arrives h₁
  have hrun := run_of_loop_run (w := consumer 1 0 (fun _ _ _ => 0)) (by decide)
    (((hstart.append hfirst).append hrounds).append hlast)
  obtain ⟨htable, hframes, hlasts⟩ := run_routing hrun 0 (by decide)
  simp only [Function.update_self] at htable hframes hlasts
  obtain ⟨reqId, client, hid, hmem, howner', hiff⟩ := reply_client_iff htable hframes hlasts hpass
  rw [hpending, List.mem_singleton] at hmem
  subst hmem
  rw [howner, Option.some.injEq] at howner'
  subst howner'
  refine ⟨_, _, reply, next, hrun, ?_, hid, ?_, ?_⟩
  · simp only [Function.update_self]
    exact hpass
  · simp only [Function.update_self]
    exact howner
  · rw [ne_eq, hiff, hcounter]
    decide

end MeshAgent.Proofs

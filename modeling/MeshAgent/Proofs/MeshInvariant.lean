import MeshAgent.Proofs.MeshSteps

/-!
# What holds in the mesh whose writes are copied

Every unanswered id of a loop is at one place of its connection, with the bytes that belong to
it, and what a client has got are results of its own requests.
-/

namespace MeshAgent.Proofs
open MeshAgent.Foundations MeshAgent.Model

/-- The ids of the packages that Dubbo has answered. -/
def executedIds (o : Outside) : List Nat := o.executed.map fun e => carriedId e.1

/-- The response that an id gets: the result of Dubbo for what has been received. -/
def ServedWith (env : Environment) (o : Outside) (response : List UInt8) (id : Nat) : Prop :=
  ∃ fs result, AnsweredBy env o id fs result ∧ response = httpResponse result

/-- A request that makes `c_read_connection_data` dispatch is a form, and its header block is
complete with the chunk that completes the form. -/
def SendsForms (env : Environment) (shared : Shared) (loop : WorkLoop) : Event → Prop
  | .clientRead client chunk stale now => Dispatching env shared loop client chunk stale now →
      ∃ httpReq hdr fs, loop.evLoop.reqs client = some httpReq ∧ httpReq.requestLength < 0 ∧
        receivedBytes loop (.clientRead client chunk stale now) = hdr ++ formBody fs ∧
        AcceptsHeader env hdr (formBody fs).length ∧ FormRequest fs
  | _ => True

/-- The requests of a connection are at places where their bytes are, and Dubbo has not
answered those that are on the way to it. -/
structure EndpointHolds (env : Environment) (o : Outside) (server : EndpointServer)
    (stream : ProviderStream) (link : Link) : Prop where
  places : ∃ p, LinkHolds env o link p ∧ stream.pending.Perm p.all ∧
    ∀ id ∈ p.toAnswer, id ∉ executedIds o
  relayed : link.relay ≠ none → stream.connection = .established
  replies : CarriesItems replyCode (IsReply env o)
    (buffered server ++ stream.inbound) stream.inTransit

/-- What a client has got are the results of some of its requests, in the order in which it has
asked; if it waits, it waits for the last one. -/
structure ClientHolds (env : Environment) (loop : WorkLoop) (o : Outside) (client : Nat) :
    Prop where
  sorted : (o.asked client).Pairwise (· < ·)
  own : ∀ id ∈ o.asked client, loop.owner id = some client
  served : ∃ served, served.Sublist (o.asked client) ∧
    List.Forall₂ (ServedWith env o) (o.got client) served ∧
    ∀ which, ∀ id ∈ unanswered (loop.streams which), loop.owner id = some client →
      ∃ before, o.asked client = before ++ [id] ∧ served.Sublist before

/-- Dubbo has answered packages of requests that were asked, and none of them twice. -/
structure DubboHolds (env : Environment) (o : Outside) : Prop where
  once : (executedIds o).Nodup
  asked : ∀ e ∈ o.executed, ∃ client, ∃ id ∈ o.asked client, ∃ fs, Asks env o id fs ∧
    e.1 = dubboPackage fs id

structure MeshHolds (env : Environment) (tid : Nat) (m : MeshLoop) : Prop where
  loop : LoopHolds tid m.loop
  sized : RecordsSized m.loop
  endpoints : ∀ which, EndpointHolds env m.outside (m.loop.evLoop.server.endpointServers which)
    (m.loop.streams which) (m.outside.links which)
  clients : ∀ client, ClientHolds env m.loop m.outside client
  dubbo : DubboHolds env m.outside

lemma meshHolds_start (env : Environment) {tid : Nat} (htid : tid < eventLoopNum)
    (raw : Nat → Mem UInt8) : MeshHolds env tid ⟨startWorkEventLoop tid raw, startOutside⟩ where
  loop := loopHolds_start htid raw
  sized := by
    intro client httpReq h
    exact absurd h (by simp [startWorkEventLoop])
  endpoints := fun which =>
    ⟨⟨.none, linkHolds_empty, .refl _, by simp [Places.none, Places.toAnswer]⟩,
      fun hrelay => absurd rfl hrelay, .nil⟩
  clients := fun client =>
    ⟨.nil, by simp [startOutside], [], .slnil, .nil,
      fun which id hid => absurd hid (by simp [startWorkEventLoop, unanswered])⟩
  dubbo := ⟨List.nodup_nil, by simp [startOutside]⟩

section

variable {env : Environment} {startTime : Int} {shared shared' : Shared} {tid : Nat}
  {loop loop' : WorkLoop} {o o' : Outside} {e : Event} {which client : Nat} {link : Link}

lemma keeps_refl (o : Outside) (id : Nat) : Keeps o o id := ⟨rfl, fun _ h => h⟩

lemma unanswered_of_sameContent (hsame : SameContent loop loop' which) :
    unanswered (loop'.streams which) = unanswered (loop.streams which) := by
  rw [unanswered, unanswered, hsame.pending, hsame.inTransit]

lemma EndpointHolds.keep
    (h : EndpointHolds env o (loop.evLoop.server.endpointServers which) (loop.streams which) link)
    (hsame : SameContent loop loop' which)
    (hkeep : ∀ id ∈ unanswered (loop.streams which), Keeps o o' id)
    (hfresh : ∀ id ∈ (loop.streams which).pending, id ∉ executedIds o → id ∉ executedIds o') :
    EndpointHolds env o' (loop'.evLoop.server.endpointServers which)
      (loop'.streams which) link where
  places := by
    obtain ⟨p, hlink, hperm, hnot⟩ := h.places
    have hpending : ∀ id ∈ p.all, id ∈ (loop.streams which).pending :=
      fun id hid => hperm.mem_iff.mpr hid
    refine ⟨p, hlink.keep fun id hid => hkeep id (List.mem_append_left _ (hpending id hid)),
      hsame.pending ▸ hperm, ?_⟩
    intro id hid
    exact hfresh id (hpending id (List.mem_append_left _ hid)) (hnot id hid)
  relayed := fun hrelay => hsame.established (h.relayed hrelay)
  replies := by
    rw [hsame.bytes, hsame.inTransit]
    exact h.replies.imp fun f id hid hf => hf.keep (hkeep id (List.mem_append_right _ hid))

lemma ServedWith.keep {response : List UInt8} {id : Nat} (h : ServedWith env o response id)
    (hkeep : Keeps o o' id) : ServedWith env o' response id := by
  obtain ⟨fs, result, hanswered, hresponse⟩ := h
  exact ⟨fs, result, hanswered.keep hkeep, hresponse⟩

lemma servedWith_keep {got : List (List UInt8)} {served : List Nat}
    (h : List.Forall₂ (ServedWith env o) got served) (hkeep : ∀ id ∈ served, Keeps o o' id) :
    List.Forall₂ (ServedWith env o') got served := by
  induction h with
  | nil => exact .nil
  | cons hfirst _ ih =>
    exact .cons (hfirst.keep (hkeep _ (by simp)))
      (ih fun id hid => hkeep id (List.mem_cons_of_mem _ hid))

lemma ClientHolds.keep (h : ClientHolds env loop o client) (hlast : OwnersLast loop)
    (hasked : o'.asked client = o.asked client) (hgot : o'.got client = o.got client)
    (howner : ∀ id client, loop.owner id = some client → loop'.owner id = some client)
    (hsub : ∀ which, ∀ id ∈ unanswered (loop'.streams which), id ∈ unanswered (loop.streams which))
    (hkeep : ∀ id ∈ o.asked client, Keeps o o' id) : ClientHolds env loop' o' client where
  sorted := hasked ▸ h.sorted
  own := by
    rw [hasked]
    exact fun id hid => howner id client (h.own id hid)
  served := by
    obtain ⟨served, hserved, hgotServed, hwaits⟩ := h.served
    rw [hasked, hgot]
    refine ⟨served, hserved, servedWith_keep hgotServed fun id hid => hkeep id (hserved.subset hid),
      ?_⟩
    intro which id hid hid'
    obtain ⟨client', howns, -⟩ := hlast which id (hsub which id hid)
    have hsame : client' = client := by
      rw [howner id client' howns, Option.some.injEq] at hid'
      exact hid'
    exact hwaits which id (hsub which id hid) (hsame ▸ howns)

lemma DubboHolds.keep (h : DubboHolds env o) (hexecuted : o'.executed = o.executed)
    (hasked : ∀ client, ∀ id ∈ o.asked client, id ∈ o'.asked client)
    (hkeep : ∀ client, ∀ id ∈ o.asked client, Keeps o o' id) : DubboHolds env o' where
  once := by
    rw [executedIds, hexecuted]
    exact h.once
  asked := by
    rw [hexecuted]
    intro e he
    obtain ⟨client, id, hid, fs, hasks, hpackage⟩ := h.asked e he
    exact ⟨client, id, hasked client id hid, fs, hasks.keep (hkeep client id hid), hpackage⟩

lemma owner_step (htable : IdTable tid loop)
    (hstep : LoopStep env startTime shared loop e shared' loop') {id client : Nat}
    (howner : loop.owner id = some client) : loop'.owner id = some client := by
  rcases table_unchanged hstep with ⟨-, -, hsame⟩ | ⟨_, _, _, _, _, -, -, -, rfl⟩
  · rw [hsame, howner]
  · have hless := (htable.lt_reqId howner).1
    simp only [dispatchedLoop]
    rw [Function.update_of_ne (by omega), howner]

/-- The frame that is written for a form carries its body under the next id. -/
lemma isRequestFrame_dispatch {chunk : List UInt8} {stale now : Int}
    {httpReq httpReq' : HttpReq} {d : Dispatch} {hdr : List UInt8} {fs : List FormField}
    (hread : DispatchCall env shared loop client chunk stale now httpReq d httpReq')
    (hsized : httpReq.rawArrayMaxSize = 2 * defaultPackageSize)
    (hparsed : httpReq.requestLength < 0)
    (hreceived : httpReq.rawArray.read 0 httpReq.rawArraySize ++ chunk = hdr ++ formBody fs)
    (haccept : AcceptsHeader env hdr (formBody fs).length) (hform : FormRequest fs) :
    d.reqId = loop.evLoop.server.reqId ∧ d.reqId < 2 ^ 63 ∧
      IsRequestFrame d.reqId (formBody fs) d.bytes := by
  obtain ⟨lb, server, hcall⟩ := hread.call
  obtain ⟨-, -, -, hid, hd, -, -, -⟩ := cReadConnectionData_dispatch hcall
  have hreqId : d.reqId = loop.evLoop.server.reqId := by rw [hd]
  have hphase : HeaderPhase httpReq (httpReq.rawArray.read 0 httpReq.rawArraySize) :=
    ⟨hparsed, hsized, rfl⟩
  have hfits := hread.fits
  have hlength := congrArg List.length hreceived
  rw [allocBuffer, hsized] at hfits
  simp only [List.length_append, Mem.length_read] at hlength
  have hsome := List.length_pos_iff.mpr hread.nonempty
  obtain ⟨d', lb', server', httpReq'', hcall', -, -, hbytes⟩ :=
    (clientCall_complete client ⟨chunk, shared.lb, loop.evLoop.server, stale, now⟩ haccept hphase
      hread.nonempty hreceived (Nat.le_refl _) (by omega) hid).2 rfl
  rw [clientCall, hcall, Option.some.injEq, ClientRead.dispatch.injEq] at hcall'
  rw [← hcall'.1, List.append_assoc] at hbytes
  have hsmall := hform.length_le
  refine ⟨hreqId, by omega, ?_⟩
  rw [hbytes]
  refine ⟨lengthPrefixed_frame (length_longTo8bytes _) rfl (by omega),
    frameId_frame _ _ (by omega) (by omega), ?_⟩
  rw [← List.append_assoc, List.drop_left']
  rw [List.length_append, length_intToFourChar, length_longTo8bytes]

lemma perm_write {pending : List Nat} {p : Places} (h : pending.Perm p.all) (id : Nat) :
    (pending ++ [id]).Perm { p with up := p.up ++ [id] : Places }.all := by
  rw [List.perm_iff_count]
  intro a
  have hcount := h.count_eq a
  simp only [Places.all, Places.toAnswer, List.count_append] at hcount ⊢
  omega

section

variable {d : Dispatch} {httpReq' : HttpReq} {received : List UInt8} {offset : Int}

/-- A client has asked, and nobody has got or executed anything. -/
structure HasAsked (o o' : Outside) (received : List UInt8) (client id : Nat) : Prop where
  request : o'.request = Function.update o.request id received
  asked : o'.asked = Function.update o.asked client (o.asked client ++ [id])
  got : o'.got = o.got
  executed : o'.executed = o.executed

lemma hasAsked_ask (o : Outside) (received : List UInt8) (client id : Nat) :
    HasAsked o (o.ask received client id) received client id := ⟨rfl, rfl, rfl, rfl⟩

lemma hasAsked_copyWrite (o : Outside) (received : List UInt8) (client endpoint id : Nat)
    (offset : Int) (bytes : List UInt8) :
    HasAsked o ((o.ask received client id).copyWrite
      ⟨client, .rawArray endpoint id offset, bytes, [], .queued⟩) received client id :=
  ⟨rfl, rfl, rfl, rfl⟩

lemma HasAsked.keeps {id id' : Nat} (h : HasAsked o o' received client id) (hid : id' ≠ id) :
    Keeps o o' id' where
  request := by rw [h.request, Function.update_of_ne hid]
  executed := by
    rw [h.executed]
    exact fun _ h => h

lemma links_copyWrite (o : Outside) (received : List UInt8) (client endpoint id : Nat)
    (offset : Int) (bytes : List UInt8) :
    ((o.ask received client id).copyWrite
      ⟨client, .rawArray endpoint id offset, bytes, [], .queued⟩).links =
        Function.update o.links endpoint
          { o.links endpoint with requests := (o.links endpoint).requests ++ bytes } := rfl

lemma endpointHolds_forwarded {m : MeshLoop} {fs : List FormField}
    (h : MeshHolds env tid m) (hid : d.reqId = m.loop.evLoop.server.reqId)
    (haccepted : (m.loop.streams d.endpoint).connection ≠ .closing)
    (hasked : HasAsked m.outside o' received client d.reqId)
    (hlinks : o'.links = Function.update m.outside.links d.endpoint
      { m.outside.links d.endpoint with
        requests := (m.outside.links d.endpoint).requests ++ d.bytes })
    (hasks : Asks env o' d.reqId fs) (hframe : IsRequestFrame d.reqId (formBody fs) d.bytes)
    (hnew : d.reqId ∉ executedIds m.outside) (which : Nat) :
    let loop' := dispatchedLoop m.loop client d.endpoint httpReq'
    EndpointHolds env o' (loop'.evLoop.server.endpointServers which) (loop'.streams which)
      (o'.links which) := by
  intro loop'
  have hkeep : ∀ k, ∀ id ∈ unanswered (m.loop.streams k), Keeps m.outside o' id := by
    intro k id hmem
    have hless := h.loop.lt_reqId hmem
    exact hasked.keeps (by omega)
  have hfreshSame : executedIds o' = executedIds m.outside := by
    rw [executedIds, hasked.executed, executedIds]
  by_cases hwhich : which = d.endpoint
  · subst hwhich
    obtain ⟨p, hlink, hperm, hfresh⟩ := (h.endpoints d.endpoint).places
    have hstream : loop'.streams d.endpoint = { m.loop.streams d.endpoint with
        pending := (m.loop.streams d.endpoint).pending ++ [d.reqId] } := by
      change Function.update m.loop.streams d.endpoint _ d.endpoint = _
      rw [Function.update_self, ProviderStream.write, if_neg haccepted, hid]
    have hkept : ∀ id ∈ p.all, Keeps m.outside o' id := fun id hmem =>
      hkeep d.endpoint id (List.mem_append_left _ (hperm.mem_iff.mpr hmem))
    rw [hstream, hlinks, Function.update_self]
    refine ⟨⟨_, (hlink.keep hkept).write hasks hframe, perm_write hperm _, ?_⟩,
      (h.endpoints d.endpoint).relayed, ?_⟩
    · intro id hmem
      rw [hfreshSame]
      simp only [Places.toAnswer, List.mem_append, List.mem_singleton] at hmem
      rcases hmem with (hold | rfl) | hold
      · exact hfresh id (by simp [Places.toAnswer, hold])
      · exact hnew
      · exact hfresh id (by simp only [Places.toAnswer, List.mem_append]; exact .inr hold)
    · exact (h.endpoints d.endpoint).replies.imp fun f id hmem hf =>
        hf.keep (hkeep d.endpoint id (List.mem_append_right _ hmem))
  · rw [hlinks, Function.update_of_ne hwhich]
    refine (h.endpoints which).keep ⟨?_, ?_, ?_, ?_⟩ (hkeep which) fun _ _ hnot => hfreshSame ▸ hnot
    all_goals simp only [loop', dispatchedLoop, dispatchedServer, Function.update_of_ne hwhich,
      imp_self]

lemma clientHolds_asked {m : MeshLoop} {endpoint id₀ : Nat} (h : MeshHolds env tid m)
    (hid : id₀ = m.loop.evLoop.server.reqId)
    (hwaits : ∀ which, ∀ id ∈ unanswered (m.loop.streams which), m.loop.owner id ≠ some client)
    (hasks : HasAsked m.outside o' received client id₀) (client' : Nat) :
    ClientHolds env (dispatchedLoop m.loop client endpoint httpReq') o' client' := by
  have hclient := h.clients client'
  have hless : ∀ id ∈ m.outside.asked client', id < id₀ := by
    intro id hmem
    rw [hid]
    exact (h.loop.table.lt_reqId (hclient.own id hmem)).1
  obtain ⟨served, hserved, hgot, hlast⟩ := hclient.served
  have hgot' : List.Forall₂ (ServedWith env o') (o'.got client') served := by
    rw [hasks.got]
    exact servedWith_keep hgot fun id hmem =>
      hasks.keeps (Nat.ne_of_lt (hless id (hserved.subset hmem)))
  have howner : ∀ id, id ≠ id₀ →
      (dispatchedLoop m.loop client endpoint httpReq').owner id = m.loop.owner id := by
    intro id hne
    exact Function.update_of_ne (hid ▸ hne) _ _
  have hnew : (dispatchedLoop m.loop client endpoint httpReq').owner id₀ = some client := by
    rw [hid]
    exact Function.update_self ..
  by_cases hsame : client' = client
  · subst hsame
    have hasked : o'.asked client' = m.outside.asked client' ++ [id₀] := by
      rw [hasks.asked, Function.update_self]
    refine ⟨?_, ?_, served, ?_, hgot', ?_⟩
    · rw [hasked, List.pairwise_append]
      refine ⟨hclient.sorted, List.pairwise_singleton _ _, ?_⟩
      intro id hmem id' hmem'
      rw [List.mem_singleton.mp hmem']
      exact hless id hmem
    · rw [hasked]
      intro id hmem
      rcases List.mem_append.mp hmem with hold | hnewId
      · rw [howner id (Nat.ne_of_lt (hless id hold)), hclient.own id hold]
      · rw [List.mem_singleton.mp hnewId, hnew]
    · rw [hasked]
      exact hserved.trans (List.sublist_append_left _ _)
    · intro which id hmem howns
      rw [hasked]
      rcases List.mem_cons.mp ((unanswered_dispatched which).1.subset hmem) with rfl | hold
      · exact ⟨m.outside.asked client', by rw [hid], hserved⟩
      · have hlt := h.loop.lt_reqId hold
        rw [howner id (by omega)] at howns
        exact absurd howns (hwaits which id hold)
  · have hasked : o'.asked client' = m.outside.asked client' := by
      rw [hasks.asked, Function.update_of_ne hsame]
    refine ⟨hasked ▸ hclient.sorted, ?_, served, hasked ▸ hserved, hgot', ?_⟩
    · rw [hasked]
      intro id hmem
      rw [howner id (Nat.ne_of_lt (hless id hmem)), hclient.own id hmem]
    · intro which id hmem howns
      rw [hasked]
      rcases List.mem_cons.mp ((unanswered_dispatched which).1.subset hmem) with rfl | hold
      · rw [← hid, hnew, Option.some.injEq] at howns
        exact absurd howns.symm hsame
      · have hlt := h.loop.lt_reqId hold
        rw [howner id (by omega)] at howns
        exact hlast which id hold howns

lemma dubboHolds_asked {m : MeshLoop} {id₀ : Nat} (h : MeshHolds env tid m)
    (hid : id₀ = m.loop.evLoop.server.reqId)
    (hasks : HasAsked m.outside o' received client id₀) : DubboHolds env o' := by
  refine h.dubbo.keep hasks.executed ?_ ?_
  · intro client' id hmem
    rw [hasks.asked]
    by_cases hsame : client' = client
    · subst hsame
      rw [Function.update_self]
      exact List.mem_append_left _ hmem
    · rwa [Function.update_of_ne hsame]
  · intro client' id hmem
    have hless := (h.loop.table.lt_reqId ((h.clients client').own id hmem)).1
    exact hasks.keeps (by omega)

end

lemma mem_executedIds {m : MeshLoop} (h : MeshHolds env tid m) {id : Nat}
    (hid : id ∈ executedIds m.outside) :
    ∃ client, id ∈ m.outside.asked client ∧ id < m.loop.evLoop.server.reqId := by
  obtain ⟨e, he, rfl⟩ := List.mem_map.mp hid
  obtain ⟨client, id, hmem, fs, hasks, hpackage⟩ := h.dubbo.asked e he
  rw [hpackage, carriedId_dubboPackage fs hasks.small]
  exact ⟨client, hmem, (h.loop.table.lt_reqId ((h.clients client).own id hmem)).1⟩

lemma DispatchCall.dispatching {chunk : List UInt8} {stale now : Int} {httpReq httpReq' : HttpReq}
    {d : Dispatch} (h : DispatchCall env shared loop client chunk stale now httpReq d httpReq') :
    Dispatching env shared loop client chunk stale now := by
  obtain ⟨lb, server, hcall⟩ := h.call
  exact ⟨httpReq, d, lb, server, httpReq', h.record, hcall⟩

lemma DispatchCall.dispatched_eq {chunk : List UInt8} {stale now : Int}
    {httpReq httpReq' : HttpReq} {d : Dispatch}
    (h : DispatchCall env shared loop client chunk stale now httpReq d httpReq') :
    dispatched env shared loop (.clientRead client chunk stale now) = some (client, d) := by
  obtain ⟨lb, server, hcall⟩ := h.call
  simp only [dispatched, h.record, hcall]

lemma DispatchCall.reqId_eq {chunk : List UInt8} {stale now : Int} {httpReq httpReq' : HttpReq}
    {d : Dispatch} (h : DispatchCall env shared loop client chunk stale now httpReq d httpReq') :
    d.reqId = loop.evLoop.server.reqId := by
  obtain ⟨lb, server, hcall⟩ := h.call
  obtain ⟨-, -, -, -, hd, -⟩ := cReadConnectionData_dispatch hcall
  rw [hd]

theorem meshHolds_forwarded {m : MeshLoop} {chunk : List UInt8} {stale now : Int}
    {httpReq httpReq' : HttpReq} {d : Dispatch} {offset : Int} (h : MeshHolds env tid m)
    (hread : DispatchCall env shared m.loop client chunk stale now httpReq d httpReq')
    (haccepted : (m.loop.streams d.endpoint).connection ≠ .closing)
    (hturns : TakesTurns env shared m.loop (.clientRead client chunk stale now))
    (hforms : SendsForms env shared m.loop (.clientRead client chunk stale now))
    (hloop : LoopHolds tid (dispatchedLoop m.loop client d.endpoint httpReq'))
    (hsized : RecordsSized (dispatchedLoop m.loop client d.endpoint httpReq')) :
    MeshHolds env tid ⟨dispatchedLoop m.loop client d.endpoint httpReq',
      (m.outside.ask (receivedBytes m.loop (.clientRead client chunk stale now)) client
        d.reqId).copyWrite
          ⟨client, .rawArray d.endpoint d.reqId offset, d.bytes, [], .queued⟩⟩ := by
  obtain ⟨httpReq₁, hdr, fs, hrecord, hparsed, hreceived, haccept, hform⟩ :=
    hforms hread.dispatching
  rw [hread.record, Option.some.injEq] at hrecord
  subst hrecord
  have hbytes := hreceived
  rw [receivedBytes, hread.record] at hbytes
  obtain ⟨hid, hsmall, hframe⟩ := isRequestFrame_dispatch hread (h.sized _ _ hread.record) hparsed
    hbytes haccept hform
  have hasked := hasAsked_copyWrite m.outside
    (receivedBytes m.loop (.clientRead client chunk stale now)) client d.endpoint d.reqId offset
    d.bytes
  have hasks : Asks env ((m.outside.ask (receivedBytes m.loop (.clientRead client chunk stale now))
      client d.reqId).copyWrite ⟨client, .rawArray d.endpoint d.reqId offset, d.bytes, [], .queued⟩)
      d.reqId fs :=
    ⟨hsmall, hform, hdr, haccept, by
      rw [hasked.request, ← hreceived]
      exact Function.update_self ..⟩
  have hnew : d.reqId ∉ executedIds m.outside := by
    intro hmem
    obtain ⟨-, -, hless⟩ := mem_executedIds h hmem
    omega
  exact ⟨hloop, hsized, endpointHolds_forwarded h hid haccepted hasked
    (links_copyWrite _ _ _ _ _ _ _) hasks hframe hnew,
    clientHolds_asked h hid (fun which id hmem => (hturns hread.dispatching which id hmem).1)
      hasked,
    dubboHolds_asked h hid hasked⟩

/-- A refused request has got an id, and is on its way nowhere. -/
theorem meshHolds_refused {m : MeshLoop} {chunk : List UInt8} {stale now : Int}
    {httpReq httpReq' : HttpReq} {d : Dispatch} (h : MeshHolds env tid m)
    (hread : DispatchCall env shared m.loop client chunk stale now httpReq d httpReq')
    (hclosing : (m.loop.streams d.endpoint).connection = .closing)
    (hturns : TakesTurns env shared m.loop (.clientRead client chunk stale now))
    (hloop : LoopHolds tid (dispatchedLoop m.loop client d.endpoint httpReq'))
    (hsized : RecordsSized (dispatchedLoop m.loop client d.endpoint httpReq')) :
    MeshHolds env tid ⟨dispatchedLoop m.loop client d.endpoint httpReq',
      m.outside.ask (receivedBytes m.loop
      (.clientRead client chunk stale now)) client d.reqId⟩ := by
  have hasked := hasAsked_ask m.outside
    (receivedBytes m.loop (.clientRead client chunk stale now)) client d.reqId
  refine ⟨hloop, hsized, ?_, clientHolds_asked h hread.reqId_eq
    (fun which id hmem => (hturns hread.dispatching which id hmem).1) hasked,
    dubboHolds_asked h hread.reqId_eq hasked⟩
  intro which
  refine (h.endpoints which).keep (sameContent_refused hclosing which) ?_ fun _ _ hnot => hnot
  intro id hmem
  have hless := h.loop.lt_reqId hmem
  have hid := hread.reqId_eq
  exact hasked.keeps (by omega)

/-- A pass that handles a reply finds the first one in transit, and writes its payload to the
client that waits for it. -/
lemma replyCall_found {now : Int} {reply : Reply} (h : LoopHolds tid loop)
    (hreplies : CarriesItems replyCode (IsReply env o)
      (buffered (loop.evLoop.server.endpointServers which) ++ (loop.streams which).inbound)
      (loop.streams which).inTransit)
    (hpass : ReplyCall shared loop which now reply loop') :
    ∃ id rest, (loop.streams which).inTransit = id :: rest ∧
      ServedWith env o reply.payload id ∧ reply.client = loop.owner id ∧
      CarriesItems replyCode (IsReply env o)
        (buffered (loop'.evLoop.server.endpointServers which) ++ (loop'.streams which).inbound)
        rest := by
  have hcap : defaultResponseSize = 4096 := rfl
  have hsize := (h.frames which).size
  obtain ⟨-, next, hpass, rfl⟩ := hpass
  obtain ⟨⟨lengthBody, lastLength, hfound, -, hpayload⟩, hreqId, hclient⟩ := emit_cases hpass
  obtain ⟨lengthBody', lastLength', lb, evLoop, hfound', hreply, rfl⟩ :=
    cReadFromProvideAgentsPass_emit hpass
  simp only at hfound hfound' hpayload hreqId
  rw [hfound, Option.some.injEq, Prod.mk.injEq] at hfound'
  obtain ⟨rfl, rfl⟩ := hfound'
  obtain ⟨f, rest, id, left, htransit, hbuffered, hframe, hfor, hleft⟩ := hreplies.first (by
    intro hnone
    rw [bufferedFrame_of_next_eq_none (by decide) (by omega) hnone] at hfound
    exact absurd hfound (by simp))
  obtain ⟨fs, result, hanswered, rfl⟩ := hfor
  have hsmall := hanswered.asks.small
  obtain ⟨hpre, hshort, -⟩ := hframe
  rw [bufferedFrame_of_frame hpre (by decide) (by omega) hbuffered, Option.some.injEq,
    Prod.mk.injEq] at hfound
  obtain ⟨rfl, rfl⟩ := hfound
  have hbody := (read_header_payload hpre hbuffered).2
  obtain ⟨hrestSize, hrest⟩ := takeOff_frame (by omega) hbuffered
  have hmem : id ∈ unanswered (loop.streams which) := by
    rw [unanswered, htransit]
    simp
  obtain ⟨client, howner, hlast⟩ := h.last which id hmem
  refine ⟨id, left, htransit, ⟨fs, result, hanswered, ?_⟩, ?_, ?_⟩
  · refine hpayload.trans (hbody.trans ?_)
    rw [replyFrame, List.drop_left']
    rw [List.length_append, length_intToFourChar, length_longTo8bytes]
  · have hidEq : reply.reqId = (id : Int) := by
      rw [hreqId, bytes8ToLong_frame hpre.le_length hbuffered, replyFrame, List.append_assoc,
        frameId_frame _ _ (by omega) (by omega)]
    rw [hclient, hidEq, replyClient_of_nonneg _ (by omega), Int.toNat_natCast, howner]
    exact (h.table.slot_eq_iff howner hlast).mpr (h.recent which id hmem)
  · simp only [endpointServers_setEndpoint, buffered, handledServer, hrestSize, hrest,
      WorkLoop.setStream, Function.update_self]
    exact hleft

lemma replyCall_rest {now : Int} {reply : Reply}
    (hpass : ReplyCall shared loop which now reply loop') :
    loop'.owner = loop.owner ∧
    loop'.streams which = { loop.streams which with
      inTransit := (loop.streams which).inTransit.tail } ∧
    ∀ k, k ≠ which → SameContent loop loop' k := by
  obtain ⟨-, next, hpass, rfl⟩ := hpass
  obtain ⟨_, lastLength, lb, evLoop, -, hreply, rfl⟩ := cReadFromProvideAgentsPass_emit hpass
  have hservers := congrArg (fun server : TcpServer => Function.update server.endpointServers which
    (handledServer (loop.evLoop.server.endpointServers which) lastLength))
    (server_handleReply hreply)
  exact ⟨rfl, Function.update_self .., sameContent_other rfl hservers⟩

lemma notMem_of_handled {now : Int} {reply : Reply} {id : Nat} {rest : List Nat}
    (h : DistinctIds loop) (htransit : (loop.streams which).inTransit = id :: rest)
    (hpass : ReplyCall shared loop which now reply loop') (k : Nat) :
    id ∉ unanswered (loop'.streams k) ∧
      ∀ id' ∈ unanswered (loop'.streams k), id' ∈ unanswered (loop.streams k) := by
  obtain ⟨-, hstream, hothers⟩ := replyCall_rest hpass
  by_cases hk : k = which
  · subst hk
    have hnodup := h.nodup k
    rw [hstream, unanswered, unanswered, htransit, List.tail_cons]
    rw [unanswered, htransit] at hnodup
    refine ⟨(List.nodup_cons.mp (List.perm_middle.nodup_iff.mp hnodup)).1, ?_⟩
    intro id' hmem
    exact List.perm_middle.mem_iff.mpr (List.mem_cons_of_mem _ hmem)
  · rw [unanswered_of_sameContent (hothers k hk)]
    refine ⟨fun hmem => h.disjoint k which hk hmem ?_, fun _ hmem => hmem⟩
    rw [unanswered, htransit]
    simp

lemma copyWrite_replies {writes : List UvWrite} {reply : Reply}
    (hwritten : WritesReply loop reply writes) :
    ∃ got, writes.foldl Outside.copyWrite o = { o with got := got } ∧
      ∀ client, (got client = o.got client ∧
          (reply.client = some client → loop.closing client = true)) ∨
        reply.client = some client ∧ got client = o.got client ++ [reply.payload] := by
  rcases hwritten with ⟨rfl, hclosing⟩ | ⟨client, hclient, rfl⟩
  · exact ⟨o.got, rfl, fun client => .inl ⟨rfl, hclosing client⟩⟩
  · refine ⟨_, rfl, ?_⟩
    intro client'
    by_cases hsame : client' = client
    · subst hsame
      exact .inr ⟨hclient, Function.update_self ..⟩
    · refine .inl ⟨Function.update_of_ne hsame _ _, ?_⟩
      rw [hclient, Option.some.injEq]
      exact fun h => absurd h.symm hsame

theorem meshHolds_handled {m : MeshLoop} {now : Int} {reply : Reply} {writes : List UvWrite}
    (h : MeshHolds env tid m) (hpass : ReplyCall shared m.loop which now reply loop')
    (hwritten : WritesReply m.loop reply writes) (hloop : LoopHolds tid loop')
    (hsized : RecordsSized loop') :
    MeshHolds env tid ⟨loop', writes.foldl Outside.copyWrite m.outside⟩ := by
  obtain ⟨id, rest, htransit, hserved, hclient, hrest⟩ :=
    replyCall_found h.loop (h.endpoints which).replies hpass
  obtain ⟨howner, hstream, hothers⟩ := replyCall_rest hpass
  have hgone := notMem_of_handled h.loop.distinct htransit hpass
  obtain ⟨got, ho, hgot⟩ := copyWrite_replies (o := m.outside) hwritten
  rw [ho]
  have hkeep : ∀ id, Keeps m.outside { m.outside with got := got } id := fun _ =>
    ⟨rfl, fun _ h => h⟩
  refine ⟨hloop, hsized, ?_, ?_, h.dubbo.keep rfl (fun _ _ hid => hid) fun _ _ _ => hkeep _⟩
  · intro k
    by_cases hk : k = which
    · subst hk
      obtain ⟨p, hlink, hperm, hfresh⟩ := (h.endpoints k).places
      rw [hstream]
      refine ⟨⟨p, hlink.keep fun _ _ => hkeep _, hperm, hfresh⟩, (h.endpoints k).relayed, ?_⟩
      rw [hstream] at hrest
      simp only [htransit, List.tail_cons]
      exact hrest.imp fun f id _ hf => hf.keep (hkeep id)
    · exact (h.endpoints k).keep (hothers k hk) (fun _ _ => hkeep _) fun _ _ hnot => hnot
  · intro client
    have hholds := h.clients client
    rcases hgot client with ⟨hsame, -⟩ | ⟨hwaits, hnew⟩
    · exact hholds.keep h.loop.last rfl hsame (fun _ _ hid => by rw [howner, hid])
        (fun k => (hgone k).2) fun _ _ => hkeep _
    · obtain ⟨served, hsub, hforall, hlast⟩ := hholds.served
      rw [hclient] at hwaits
      obtain ⟨before, hasked, hbefore⟩ := hlast which id (by rw [unanswered, htransit]; simp) hwaits
      refine ⟨hholds.sorted, by rw [howner]; exact hholds.own, served ++ [id], ?_, ?_, ?_⟩
      · rw [hasked]
        exact hbefore.append (List.Sublist.refl _)
      · simp only [hnew]
        exact List.rel_append (servedWith_keep hforall fun _ _ => hkeep _)
          (.cons (hserved.keep (hkeep id)) .nil)
      · intro k id' hmem howns
        -- the only id that the client has waited for is the one that is handled
        rw [howner] at howns
        obtain ⟨before', hasked', -⟩ := hlast k id' ((hgone k).2 id' hmem) howns
        rw [hasked] at hasked'
        have hid := (List.append_inj' hasked' rfl).2
        rw [List.cons.injEq] at hid
        exact absurd (hid.1 ▸ hmem) (hgone k).1

/-! ### A connection is given up, or nothing happens to what is on its way -/

theorem meshHolds_quiet {m : MeshLoop} (h : MeshHolds env tid m)
    (hsame : ∀ which, SameContent m.loop loop' which)
    (howner : ∀ id client, m.loop.owner id = some client → loop'.owner id = some client)
    (hloop : LoopHolds tid loop') (hsized : RecordsSized loop') :
    MeshHolds env tid ⟨loop', m.outside⟩ := by
  refine ⟨hloop, hsized, ?_, ?_, h.dubbo⟩
  · intro which
    exact (h.endpoints which).keep (hsame which) (fun _ _ => keeps_refl _ _) fun _ _ hnot => hnot
  · intro client
    refine (h.clients client).keep h.loop.last rfl rfl howner ?_ fun _ _ => keeps_refl _ _
    intro which id hmem
    rwa [unanswered_of_sameContent (hsame which)] at hmem

theorem meshHolds_dropped {m : MeshLoop} (h : MeshHolds env tid m)
    (hlost : (loop'.streams which).pending = [] ∧ (loop'.streams which).inTransit = [])
    (hsame : ∀ k, k ≠ which → SameContent m.loop loop' k)
    (howner : ∀ id client, m.loop.owner id = some client → loop'.owner id = some client)
    (hloop : LoopHolds tid loop') (hsized : RecordsSized loop') :
    MeshHolds env tid ⟨loop', m.outside.setLink which .empty⟩ := by
  have hkeep : ∀ id, Keeps m.outside (m.outside.setLink which .empty) id := fun _ =>
    ⟨rfl, fun _ h => h⟩
  refine ⟨hloop, hsized, ?_, ?_, h.dubbo.keep rfl (fun _ _ hid => hid) fun _ _ _ => hkeep _⟩
  · intro k
    by_cases hk : k = which
    · subst hk
      have hlink : (m.outside.setLink k .empty).links k = .empty := Function.update_self ..
      obtain ⟨hbuffered, hinbound⟩ := (hloop.frames k).eq_nil hlost.2
      rw [hlink]
      refine ⟨⟨.none, linkHolds_empty, by rw [hlost.1]; exact .refl _, ?_⟩,
        fun hrelay => absurd rfl hrelay, ?_⟩
      · simp [Places.none, Places.toAnswer]
      · rw [hbuffered, hinbound, hlost.2]
        exact .nil
    · have hlink : (m.outside.setLink which .empty).links k = m.outside.links k :=
        Function.update_of_ne hk _ _
      rw [hlink]
      exact (h.endpoints k).keep (hsame k hk) (fun _ _ => hkeep _) fun _ _ hnot => hnot
  · intro client
    refine (h.clients client).keep h.loop.last rfl rfl howner ?_ fun _ _ => hkeep _
    intro k id hmem
    by_cases hk : k = which
    · rw [hk, unanswered, hlost.1, hlost.2] at hmem
      exact absurd hmem (by simp)
    · rwa [unanswered_of_sameContent (hsame k hk)] at hmem

theorem meshHolds_agent {m m' : MeshLoop} (h : MeshHolds env tid m)
    (hturns : TakesTurns env shared m.loop e) (hforms : SendsForms env shared m.loop e)
    (hstep : m.copiedAgent env startTime shared e = some (shared', m')) : MeshHolds env tid m' := by
  obtain ⟨-, loop', hcall, hm⟩ := agent_eq hstep
  have hloop := loopHolds_step h.loop hturns (loopStep_of_step hcall)
  have hsized := recordsSized_step h.sized hcall
  have howner : ∀ id client, m.loop.owner id = some client → loop'.owner id = some client :=
    fun _ _ => owner_step h.loop.table (loopStep_of_step hcall)
  cases agentStep_of_agent h.loop hstep with
  | quiet _ same =>
    obtain rfl : _ = loop' := congrArg MeshLoop.loop hm
    exact meshHolds_quiet h same howner hloop hsized
  | forwarded read accepted =>
    obtain rfl : _ = loop' := congrArg MeshLoop.loop hm
    exact meshHolds_forwarded h read accepted hturns hforms hloop hsized
  | refused read closing =>
    obtain rfl : _ = loop' := congrArg MeshLoop.loop hm
    exact meshHolds_refused h read closing hturns hloop hsized
  | handled pass written =>
    obtain rfl : _ = loop' := congrArg MeshLoop.loop hm
    exact meshHolds_handled h pass written hloop hsized
  | dropped _ lost same =>
    obtain rfl : _ = loop' := congrArg MeshLoop.loop hm
    exact meshHolds_dropped h lost same howner hloop hsized

end

end MeshAgent.Proofs

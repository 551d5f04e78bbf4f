import MeshAgent.Proofs.MeshRuns

/-!
# What a client that stays has got

As long as connections end only when nothing is on its way, a client that stays has got the
results of all its requests, except for the one that is still unanswered.
-/

namespace MeshAgent.Proofs
open MeshAgent.Foundations MeshAgent.Model

/-- The names of clients that are in use have been given out. -/
structure NamesHold (loop : WorkLoop) : Prop where
  record : ∀ client, (loop.evLoop.reqs client).isSome = true → client < loop.accepted
  owner : ∀ id client, loop.owner id = some client → client < loop.accepted

/-- The record that the answer of an unanswered id needs has not been freed. -/
def RecordsLive (loop : WorkLoop) : Prop :=
  ∀ id, Waiting loop id → ∀ client, loop.owner id = some client →
    (loop.evLoop.reqs client).isSome = true

/-- No reply is left in a buffer whose loop is not running. -/
def Drained (loop : WorkLoop) : Prop :=
  ∀ which, loop.reading ≠ some which →
    replyCode.next (buffered (loop.evLoop.server.endpointServers which)) = none

/-- The first requests of a client have been answered, and the rest are unanswered. -/
def ClientServed (env : Environment) (m : MeshLoop) (client : Nat) : Prop :=
  ∃ served waiting, m.outside.asked client = served ++ waiting ∧
    List.Forall₂ (ServedWith env m.outside) (m.outside.got client) served ∧
    (∀ id ∈ served, ¬ Waiting m.loop id) ∧ ∀ id ∈ waiting, Waiting m.loop id

structure MeshServes (env : Environment) (tid : Nat) (m : MeshLoop) : Prop where
  holds : MeshHolds env tid m
  names : NamesHold m.loop
  live : RecordsLive m.loop
  drained : Drained m.loop
  served : ∀ client, Active m.loop client → ClientServed env m client

section

variable {env : Environment} {startTime : Int} {shared shared' : Shared} {tid : Nat}
  {loop loop' : WorkLoop} {e : Event} {which client id : Nat}

/-- Which records a step leaves: at most one client is new. -/
lemma record_step (h : LoopStep env startTime shared loop e shared' loop') (client : Nat) :
    loop.accepted ≤ loop'.accepted ∧
    ((loop'.evLoop.reqs client).isSome = true → (loop.evLoop.reqs client).isSome = true ∨
      client = loop.accepted ∧ loop'.accepted = loop.accepted + 1) ∧
    ((loop.evLoop.reqs client).isSome = true → (loop'.evLoop.reqs client).isSome = true ∨
      e = .closed client) := by
  have hset : ∀ k, (loop.evLoop.reqs k).isSome = true → ∀ httpReq : HttpReq,
      ((Function.update loop.evLoop.reqs k (some httpReq) client).isSome = true ↔
        (loop.evLoop.reqs client).isSome = true) := by
    intro k hk httpReq
    by_cases hc : client = k
    · subst hc
      simp [hk]
    · rw [Function.update_of_ne hc]
  cases h with
  | admitted =>
    refine ⟨Nat.le_succ _, ?_, fun hold => .inl (isSome_update _ hold)⟩
    intro hnew
    by_cases hc : client = loop.accepted
    · exact .inr ⟨hc, rfl⟩
    · simp only [WorkLoop.setReq, Function.update_of_ne hc] at hnew
      exact .inl hnew
  | wait record =>
    exact ⟨le_refl _, fun h => .inl ((hset _ (by simp [record]) _).mp h),
      fun h => .inl ((hset _ (by simp [record]) _).mpr h)⟩
  | dispatch record =>
    exact ⟨le_refl _, fun h => .inl ((hset _ (by simp [record]) _).mp h),
      fun h => .inl ((hset _ (by simp [record]) _).mpr h)⟩
  | @closed closed _ =>
    by_cases hc : client = closed
    · subst hc
      exact ⟨le_refl _, fun h => by simp [closeCb] at h, fun _ => .inr rfl⟩
    · simp only [closeCb, Function.update_of_ne hc]
      exact ⟨le_refl _, .inl, .inl⟩
  | handled _ _ reply =>
    simp only [EventLoop.setEndpoint, isSome_reqs_handleReply reply]
    exact ⟨le_refl _, .inl, .inl⟩
  | _ => exact ⟨le_refl _, .inl, .inl⟩

lemma active_step (h : LoopStep env startTime shared loop e shared' loop')
    (hactive : Active loop' client) :
    Active loop client ∨ client = loop.accepted ∧ loop'.accepted = loop.accepted + 1 := by
  obtain ⟨-, hrecord, -⟩ := record_step h client
  rcases hrecord hactive.record with hold | hnew
  · refine .inl ⟨hold, ?_⟩
    have hstays := hactive.staying
    cases h with
    | @clientEnd k =>
      by_cases hc : client = k
      · subst hc
        simp at hstays
      · simpa only [Function.update_of_ne hc] using hstays
    | @closed k =>
      by_cases hc : client = k
      · subst hc
        exact absurd hactive.record (by simp [closeCb])
      · simpa only [Function.update_of_ne hc] using hstays
    | _ => exact hstays
  · exact .inr hnew

lemma namesHold_start (tid : Nat) (raw : Nat → Mem UInt8) :
    NamesHold (startWorkEventLoop tid raw) where
  record := fun client h => absurd h (by simp [startWorkEventLoop])
  owner := fun id client h => absurd h (by simp [startWorkEventLoop])

lemma namesHold_step (hnames : NamesHold loop)
    (h : LoopStep env startTime shared loop e shared' loop') : NamesHold loop' where
  record := by
    intro client hclient
    obtain ⟨hle, hrecord, -⟩ := record_step h client
    rcases hrecord hclient with hold | ⟨rfl, hnew⟩
    · exact Nat.lt_of_lt_of_le (hnames.record client hold) hle
    · omega
  owner := by
    intro id client howner
    have hle := (record_step h client).1
    rcases table_unchanged h with ⟨-, -, hsame⟩ | ⟨k, _, _, _, _, -, hrecord, -, rfl⟩
    · rw [hsame] at howner
      exact Nat.lt_of_lt_of_le (hnames.owner id client howner) hle
    · simp only [dispatchedLoop] at howner ⊢
      by_cases hid : id = loop.evLoop.server.reqId
      · rw [hid, Function.update_self, Option.some.injEq] at howner
        subst howner
        exact hnames.record _ hrecord
      · rw [Function.update_of_ne hid] at howner
        exact hnames.owner id client howner

lemma recordsLive_step (h : LoopHolds tid loop) (hlive : RecordsLive loop)
    (hcond : ∀ client, e = .closed client → ∀ id, Waiting loop id → loop.owner id ≠ some client)
    (hstep : LoopStep env startTime shared loop e shared' loop') : RecordsLive loop' := by
  rintro id ⟨which, hid⟩ client howner
  rcases unanswered_step hstep hid with hold | ⟨rfl, hchanged⟩
  · obtain ⟨client₀, howner₀, -⟩ := h.last which id hold
    rw [owner_step h.table hstep howner₀, Option.some.injEq] at howner
    subst howner
    rcases (record_step hstep client₀).2.2
      (hlive id ⟨which, hold⟩ client₀ howner₀) with hnew | hclosed
    · exact hnew
    · exact absurd howner₀ (hcond client₀ hclosed id ⟨which, hold⟩)
  · rcases table_unchanged hstep with ⟨hsame, -, -⟩ | ⟨k, _, _, _, _, -, -, -, rfl⟩
    · exact absurd hsame hchanged
    · simp only [dispatchedLoop, Function.update_self, Option.some.injEq] at howner ⊢
      rw [howner, Function.update_self]
      rfl

lemma buffered_cases {server : EndpointServer} {stream : ProviderStream}
    (h : StreamFrames server stream) :
    replyCode.next (buffered server) = none ∨
      ∃ f rest, replyCode.IsFrame f ∧ buffered server = f ++ rest := by
  obtain ⟨fs, hfs, hbytes⟩ := h.frames
  have hframes := ((List.forall₂_and_left _ _).mp hfs).1
  obtain ⟨done, rest, q, rfl, hcontent, -, hq⟩ :=
    replyCode.exists_split fs hframes (buffered server) stream.inbound hbytes
  cases done with
  | nil =>
    rw [hcontent]
    exact .inl hq
  | cons f done =>
    rw [List.flatten_cons, List.append_assoc] at hcontent
    exact .inr ⟨f, _, hframes f (by simp), hcontent⟩

lemma next_of_incomplete {server : EndpointServer} {stream : ProviderStream}
    (h : StreamFrames server stream)
    (hnone : bufferedFrame 12 0 server.rawArray server.sizeOfRawArray = none) :
    replyCode.next (buffered server) = none := by
  have hcap : defaultResponseSize = 4096 := rfl
  have hsize := h.size
  apply (buffered_cases h).resolve_right
  rintro ⟨f, rest, hframe, hcontent⟩
  rw [bufferedFrame_of_frame hframe.1 (by decide) (by omega) hcontent] at hnone
  exact absurd hnone (by simp)

lemma drained_start (tid : Nat) (raw : Nat → Mem UInt8) : Drained (startWorkEventLoop tid raw) :=
  fun _ _ => replyCode.next_nil

lemma idle_of_replyRead {chunk : List UInt8}
    (h : loop.replyRead shared which chunk = some (shared', loop')) : loop.reading = none := by
  rw [WorkLoop.replyRead] at h
  simp only [Option.ite_none_left_eq_some, not_or, not_not] at h
  exact h.1.1

lemma Drained.keep (h : Drained loop) (hreading : loop'.reading = loop.reading)
    (hsame : ∀ k, loop.reading ≠ some k →
      buffered (loop'.evLoop.server.endpointServers k) =
        buffered (loop.evLoop.server.endpointServers k)) : Drained loop' := by
  intro k hk
  rw [hreading] at hk
  rw [hsame k hk]
  exact h k hk

lemma Drained.keep_update (h : Drained loop) (hreading : loop'.reading = loop.reading)
    {server : EndpointServer}
    (hservers : loop'.evLoop.server.endpointServers =
      Function.update loop.evLoop.server.endpointServers which server)
    (hserver : buffered server = buffered (loop.evLoop.server.endpointServers which)) :
    Drained loop' :=
  h.keep hreading fun k _ => by rw [hservers, apply_update_of_eq buffered _ hserver]

lemma drained_step (h : LoopHolds tid loop) (hdrained : Drained loop)
    (hstep : loop.step env startTime shared e = some (shared', loop')) : Drained loop' := by
  cases loopStep_of_step hstep with
  | @replyRead k chunk =>
    have hidle := idle_of_replyRead hstep
    intro k' hk
    have hne : k' ≠ k := fun heq => hk (by rw [heq])
    simp only [EventLoop.setEndpoint, Function.update_of_ne hne]
    exact hdrained k' (by rw [hidle]; simp)
  | @returned k _ reading incomplete =>
    intro k' _
    by_cases hk : k' = k
    · subst hk
      exact next_of_incomplete (h.frames k') incomplete
    · exact hdrained k' (by rw [reading, ne_eq, Option.some.injEq]; exact fun heq => hk heq.symm)
  | @handled k _ _ _ _ _ reading _ reply =>
    refine hdrained.keep rfl ?_
    intro k' hk
    have hne : k' ≠ k := fun heq => hk (by rw [reading, heq])
    simp only [EventLoop.setEndpoint, server_handleReply reply, Function.update_of_ne hne]
  | providerEnd => exact hdrained.keep_update rfl rfl rfl
  | connected => exact hdrained.keep_update rfl rfl rfl
  | _ => exact hdrained.keep rfl fun _ _ => rfl

lemma waiting_of_perm
    (hperm : ∀ which, (unanswered (loop'.streams which)).Perm (unanswered (loop.streams which)))
    (id : Nat) : Waiting loop' id ↔ Waiting loop id :=
  exists_congr fun which => (hperm which).mem_iff

lemma waiting_of_sameContent (hsame : ∀ which, SameContent loop loop' which) (id : Nat) :
    Waiting loop' id ↔ Waiting loop id :=
  waiting_of_perm (fun which => by rw [unanswered_of_sameContent (hsame which)]) id

lemma waiting_dispatched {endpoint : Nat} {httpReq : HttpReq}
    (haccepted : (loop.streams endpoint).connection ≠ .closing) (id : Nat) :
    Waiting (dispatchedLoop loop client endpoint httpReq) id ↔
      Waiting loop id ∨ id = loop.evLoop.server.reqId := by
  have hstream : ∀ which, id ∈ unanswered
      ((dispatchedLoop loop client endpoint httpReq).streams which) ↔
        id ∈ unanswered (loop.streams which) ∨ which = endpoint ∧
        id = loop.evLoop.server.reqId := by
    intro which
    simp only [dispatchedLoop]
    by_cases hwhich : which = endpoint
    · subst hwhich
      rw [Function.update_self, ProviderStream.write, if_neg haccepted]
      simp only [unanswered, List.mem_append, List.mem_singleton, true_and]
      tauto
    · simp [hwhich]
  simp only [Waiting, hstream]
  constructor
  · rintro ⟨which, hold | ⟨-, hnew⟩⟩
    · exact .inl ⟨which, hold⟩
    · exact .inr hnew
  · rintro (⟨which, hold⟩ | hnew)
    · exact ⟨which, .inl hold⟩
    · exact ⟨endpoint, .inr ⟨rfl, hnew⟩⟩

lemma waiting_handled {now : Int} {reply : Reply} {rest : List Nat} (h : DistinctIds loop)
    (htransit : (loop.streams which).inTransit = id :: rest)
    (hpass : ReplyCall shared loop which now reply loop') (id' : Nat) :
    Waiting loop' id' ↔ Waiting loop id' ∧ id' ≠ id := by
  obtain ⟨-, hstream, hothers⟩ := replyCall_rest hpass
  constructor
  · rintro ⟨k, hk⟩
    refine ⟨⟨k, (notMem_of_handled h htransit hpass k).2 id' hk⟩, ?_⟩
    rintro rfl
    exact (notMem_of_handled h htransit hpass k).1 hk
  · rintro ⟨⟨k, hk⟩, hne⟩
    refine ⟨k, ?_⟩
    by_cases hkw : k = which
    · subst hkw
      rw [unanswered, htransit] at hk
      rw [hstream, unanswered, htransit, List.tail_cons]
      rcases List.mem_cons.mp (List.perm_middle.mem_iff.mp hk) with heq | hrest
      · exact absurd heq hne
      · exact hrest
    · rwa [unanswered_of_sameContent (hothers k hkw)]

section

variable {m m' : MeshLoop}

lemma waiting_length_le (h : MeshHolds env tid m) {served waiting : List Nat}
    (hasked : m.outside.asked client = served ++ waiting)
    (hwaiting : ∀ id ∈ waiting, Waiting m.loop id) : waiting.length ≤ 1 := by
  obtain ⟨_, -, -, hlast⟩ := (h.clients client).served
  rcases waiting with _ | ⟨first, _ | ⟨second, rest⟩⟩
  · simp
  · simp
  · -- the first one would be the last id of the client, and so would come after itself
    exfalso
    obtain ⟨which, hmem⟩ := hwaiting first (by simp)
    obtain ⟨before, hbefore, -⟩ := hlast which first hmem
      ((h.clients client).own first (by rw [hasked]; simp))
    have hend : (served ++ first :: second :: rest).getLast? = some first := by
      rw [← hasked, hbefore, List.getLast?_concat]
    rw [List.getLast?_append, List.getLast?_cons_cons, List.getLast?_eq_some_getLast
      (List.cons_ne_nil _ _), Option.some_or, Option.some.injEq] at hend
    have hsorted := (h.clients client).sorted
    rw [hasked, List.pairwise_append] at hsorted
    have hless := (List.pairwise_cons.mp hsorted.2.1).1 first
      (hend ▸ List.getLast_mem (List.cons_ne_nil second rest))
    exact Nat.lt_irrefl _ hless

lemma clientServed_new (h : MeshHolds env tid m) (hnames : NamesHold m.loop)
    (hnew : m.loop.accepted ≤ client) : ClientServed env m client := by
  have hasked : m.outside.asked client = [] := by
    rw [List.eq_nil_iff_forall_not_mem]
    intro id hid
    have := hnames.owner id client ((h.clients client).own id hid)
    omega
  obtain ⟨served, hsub, hgot, -⟩ := (h.clients client).served
  rw [hasked, List.sublist_nil] at hsub
  subst hsub
  exact ⟨[], [], hasked, hgot, by simp, by simp⟩

lemma ClientServed.keep (h : ClientServed env m client)
    (hasked : m'.outside.asked client = m.outside.asked client)
    (hgot : m'.outside.got client = m.outside.got client)
    (hkeep : ∀ id ∈ m.outside.asked client, Keeps m.outside m'.outside id)
    (hwaiting : ∀ id ∈ m.outside.asked client, (Waiting m'.loop id ↔ Waiting m.loop id)) :
    ClientServed env m' client := by
  obtain ⟨served, waiting, hsplit, hserved, hdone, hwaits⟩ := h
  have hmem : ∀ id, id ∈ served ∨ id ∈ waiting → id ∈ m.outside.asked client := by
    intro id hid
    rw [hsplit]
    exact List.mem_append.mpr hid
  refine ⟨served, waiting, hasked.trans hsplit, ?_, ?_, ?_⟩
  · rw [hgot]
    exact servedWith_keep hserved fun id hid => hkeep id (hmem id (.inl hid))
  · exact fun id hid hwait => hdone id hid ((hwaiting id (hmem id (.inl hid))).mp hwait)
  · exact fun id hid => (hwaiting id (hmem id (.inr hid))).mpr (hwaits id hid)

/-- The client that asks has no other request unanswered. -/
lemma clientServed_asks {loop' : WorkLoop} {o' : Outside}
    (hclient : ClientHolds env m.loop m.outside client)
    (h : ClientServed env m client)
    (hturn : ∀ id, Waiting m.loop id → m.loop.owner id ≠ some client) (hid : Waiting loop' id)
    (hnew : ∀ id' ∈ m.outside.asked client, id' ≠ id)
    (hwaiting : ∀ id', Waiting loop' id' → Waiting m.loop id' ∨ id' = id)
    (hasked : o'.asked client = m.outside.asked client ++ [id])
    (hgot : o'.got client = m.outside.got client)
    (hkeep : ∀ id' ∈ m.outside.asked client, Keeps m.outside o' id') :
    ClientServed env ⟨loop', o'⟩ client := by
  obtain ⟨served, waiting, hsplit, hserved, hdone, hwaits⟩ := h
  have hnone : waiting = [] := by
    rw [List.eq_nil_iff_forall_not_mem]
    intro id' hmem
    exact hturn id' (hwaits id' hmem) (hclient.own id' (by rw [hsplit]; simp [hmem]))
  subst hnone
  rw [List.append_nil] at hsplit
  refine ⟨served, [id], by rw [← hsplit]; exact hasked, ?_, ?_, ?_⟩
  · simp only [hgot]
    exact servedWith_keep hserved fun id' hmem => hkeep id' (hsplit ▸ hmem)
  · intro id' hmem hwait
    rcases hwaiting id' hwait with hold | rfl
    · exact hdone id' hmem hold
    · exact hnew id' (hsplit ▸ hmem) rfl
  · intro id' hmem
    rw [List.mem_singleton.mp hmem]
    exact hid

lemma clientServed_gets {loop' : WorkLoop} {o' : Outside} {response : List UInt8}
    (hholds : MeshHolds env tid m) (h : ClientServed env m client)
    (howner : m.loop.owner id = some client) (hid : Waiting m.loop id)
    (hresponse : ServedWith env m.outside response id)
    (hwaiting : ∀ id', Waiting loop' id' ↔ Waiting m.loop id' ∧ id' ≠ id)
    (hasked : o'.asked client = m.outside.asked client)
    (hgot : o'.got client = m.outside.got client ++ [response])
    (hkeep : ∀ id', Keeps m.outside o' id') : ClientServed env ⟨loop', o'⟩ client := by
  obtain ⟨served, waiting, hsplit, hserved, hdone, hwaits⟩ := h
  obtain ⟨_, -, -, hlast⟩ := (hholds.clients client).served
  obtain ⟨which, hmem⟩ := hid
  obtain ⟨before, hbefore, -⟩ := hlast which id hmem howner
  have hwaitingMem : id ∈ waiting := by
    have hmemAsked : id ∈ served ++ waiting := by rw [← hsplit, hbefore]; simp
    exact (List.mem_append.mp hmemAsked).resolve_left fun hmem' => hdone id hmem' ⟨which, hmem⟩
  have hone : waiting = [id] := by
    have hlen := waiting_length_le hholds hsplit hwaits
    obtain ⟨id', rfl⟩ := List.length_eq_one_iff.mp
      (Nat.le_antisymm hlen (List.length_pos_of_mem hwaitingMem))
    rw [List.mem_singleton.mp hwaitingMem]
  subst hone
  refine ⟨served ++ [id], [], ?_, ?_, ?_, by simp⟩
  · rw [List.append_nil, ← hsplit]
    exact hasked
  · simp only [hgot]
    exact List.rel_append (servedWith_keep hserved fun id' _ => hkeep id')
      (.cons (hresponse.keep (hkeep id)) .nil)
  · intro id' hmem' hwait
    obtain ⟨hold, hne⟩ := (hwaiting id').mp hwait
    rcases List.mem_append.mp hmem' with hs | hs
    · exact hdone id' hs hold
    · exact hne (List.mem_singleton.mp hs)

end

/-! ### Steps of the mesh -/

section

variable {m m' : MeshLoop}

lemma meshServes_start (env : Environment) (htid : tid < eventLoopNum) (raw : Nat → Mem UInt8) :
    MeshServes env tid ⟨startWorkEventLoop tid raw, startOutside⟩ where
  holds := meshHolds_start env htid raw
  names := namesHold_start tid raw
  live := fun id hid => by
    obtain ⟨which, hmem⟩ := hid
    exact absurd hmem (by simp [startWorkEventLoop, unanswered])
  drained := drained_start tid raw
  served := fun client hactive => absurd hactive.record (by simp [startWorkEventLoop])

theorem meshServes_agent (h : MeshServes env tid m)
    (hcond : MeshServiceCond env shared m (.agent e))
    (hstep : m.copiedAgent env startTime shared e = some (shared', m')) :
    MeshServes env tid m' := by
  obtain ⟨⟨hturns, hforms⟩, hlose⟩ := hcond
  obtain ⟨-, loop', hcall, hm⟩ := agent_eq hstep
  have hloopStep := loopStep_of_step hcall
  have hholds := meshHolds_agent h.holds hturns hforms hstep
  have hloop : m'.loop = loop' := by rw [hm]
  have hlive : RecordsLive loop' := by
    refine recordsLive_step h.holds.loop h.live ?_ hloopStep
    rintro client rfl id ⟨which, hid⟩
    exact hlose which id hid
  have hprevious : ∀ client, Active loop' client → ClientServed env m client := by
    intro client hactive
    rcases active_step hloopStep hactive with hold | ⟨rfl, -⟩
    · exact h.served client hold
    · exact clientServed_new h.holds h.names (Nat.le_refl _)
  refine ⟨hholds, hloop ▸ namesHold_step h.names hloopStep, hloop ▸ hlive,
    hloop ▸ drained_step h.holds.loop h.drained hcall, ?_⟩
  intro client hactive
  have hclient := hprevious client (hloop ▸ hactive)
  cases agentStep_of_agent h.holds.loop hstep with
  | quiet _ same =>
    exact hclient.keep rfl rfl (fun _ _ => keeps_refl _ _)
      fun id _ => waiting_of_sameContent same id
  | @forwarded k chunk stale now _ httpReq' d _ offset read accepted =>
    have hid := read.reqId_eq
    have hasked := hasAsked_copyWrite m.outside
      (receivedBytes m.loop (.clientRead k chunk stale now)) k d.endpoint d.reqId offset d.bytes
    have hold : ∀ id ∈ m.outside.asked client, id ≠ d.reqId := by
      intro id hmem
      have := (h.holds.loop.table.lt_reqId ((h.holds.clients client).own id hmem)).1
      omega
    have hwaiting : ∀ id, Waiting (dispatchedLoop m.loop k d.endpoint httpReq') id ↔
        Waiting m.loop id ∨ id = d.reqId := by
      rw [hid]
      exact waiting_dispatched accepted
    by_cases hk : client = k
    · subst hk
      exact clientServed_asks (h.holds.clients client) hclient
        (fun id ⟨which, hmem⟩ => (hturns read.dispatching which id hmem).1)
        ((hwaiting _).mpr (.inr rfl)) hold (fun id => (hwaiting id).mp)
        (Function.update_self ..) rfl fun id hmem => hasked.keeps (hold id hmem)
    · refine hclient.keep (Function.update_of_ne hk _ _) rfl
        (fun id hmem => hasked.keeps (hold id hmem)) ?_
      intro id hmem
      rw [hwaiting id, or_iff_left (hold id hmem)]
  | refused read closing => exact absurd closing (hlose _ read.dispatched_eq)
  | @handled which now reply _ _ writes pass written =>
    obtain ⟨id, rest, htransit, hserved, hreply, -⟩ :=
      replyCall_found h.holds.loop (h.holds.endpoints which).replies pass
    have hwaiting := waiting_handled h.holds.loop.distinct htransit pass
    have hid : Waiting m.loop id := ⟨which, by rw [unanswered, htransit]; simp⟩
    obtain ⟨got, ho, hgot⟩ := copyWrite_replies (o := m.outside) written
    have hkeep : ∀ id, Keeps m.outside { m.outside with got := got } id := fun _ =>
      ⟨rfl, fun _ h => h⟩
    simp only [ho]
    rcases hgot client with ⟨hsame, hgone⟩ | ⟨hwaits, hnew⟩
    · refine hclient.keep rfl hsame (fun id _ => hkeep id) ?_
      intro id' hmem
      rw [hwaiting id', and_iff_left]
      rintro rfl
      -- a client that stays is not the one whose connection is closing
      have howner := (h.holds.clients client).own id' hmem
      have hclosing := hgone (hreply.trans howner)
      have hstays : m.loop.closing client = false := by
        rcases active_step hloopStep (hloop ▸ hactive) with hold | ⟨rfl, -⟩
        · exact hold.staying
        · have := h.names.owner _ _ howner
          omega
      rw [hclosing] at hstays
      exact absurd hstays (by simp)
    · exact clientServed_gets h.holds hclient (hreply.symm.trans hwaits) hid hserved hwaiting rfl
        hnew hkeep
  | @dropped _ which _ loop₁ ended lost same =>
    have hnone : unanswered (m.loop.streams which) = [] := by
      rcases ended with rfl | rfl <;> exact hlose
    refine hclient.keep rfl rfl (fun _ _ => ⟨rfl, fun _ h => h⟩) ?_
    intro id _
    refine waiting_of_perm (fun k => ?_) id
    by_cases hk : k = which
    · rw [hk, hnone, unanswered, lost.1, lost.2]
      exact .refl _
    · rw [unanswered_of_sameContent (same k hk)]

lemma meshServes_outside {o' : Outside} (h : MeshServes env tid m)
    (hholds : MeshHolds env tid ⟨m.loop, o'⟩) (hasked : o'.asked = m.outside.asked)
    (hgot : o'.got = m.outside.got) (hkeep : ∀ id, Keeps m.outside o' id) :
    MeshServes env tid ⟨m.loop, o'⟩ :=
  ⟨hholds, h.names, h.live, h.drained, fun client hactive => (h.served client hactive).keep
    (congrFun hasked client) (congrFun hgot client) (fun id _ => hkeep id) fun _ _ => .rfl⟩

lemma unanswered_delivered {replies : List (List UInt8)} {done : List Nat} {o : Outside}
    (hreplies : List.Forall₂ (IsReply env o) replies done) (stream : ProviderStream)
    (hpending : ∀ id, done.count id ≤ stream.pending.count id) :
    (unanswered (replies.foldl ProviderStream.deliver stream)).Perm (unanswered stream) := by
  rw [foldl_deliver hreplies, List.perm_iff_count]
  intro id
  have hle := hpending id
  simp only [unanswered, List.count_append, List.count_diff]
  omega

lemma unanswered_relayReads2 (h : MeshHolds env tid m) {link : Link} {chunk : List UInt8}
    {fresh : Mem UInt8} {replies : List (List UInt8)}
    (hstep : (m.outside.links which).relayReads2 chunk fresh = some (link, replies)) (k : Nat) :
    (unanswered ((m.loop.setStream which
      (replies.foldl ProviderStream.deliver (m.loop.streams which))).streams k)).Perm
        (unanswered (m.loop.streams k)) := by
  obtain ⟨p, hlink, hperm, -⟩ := (h.endpoints which).places
  obtain ⟨done, left, hdown, hreplies, -⟩ := hlink.relayReads2 hstep
  by_cases hk : k = which
  · subst hk
    simp only [WorkLoop.setStream, Function.update_self]
    apply unanswered_delivered hreplies _
    intro id
    rw [hperm.count_eq, Places.all, hdown, List.count_append, List.count_append]
    omega
  · simp only [WorkLoop.setStream, Function.update_of_ne hk]
    exact .refl _

lemma meshServes_relayReads2 (h : MeshServes env tid m) {link : Link} {chunk : List UInt8}
    {fresh : Mem UInt8} {replies : List (List UInt8)}
    (hstep : (m.outside.links which).relayReads2 chunk fresh = some (link, replies))
    (hholds : MeshHolds env tid
      { loop := m.loop.setStream which
          (replies.foldl ProviderStream.deliver (m.loop.streams which))
        outside := m.outside.setLink which link }) :
    MeshServes env tid
      { loop := m.loop.setStream which
          (replies.foldl ProviderStream.deliver (m.loop.streams which))
        outside := m.outside.setLink which link } := by
  have hsame := unanswered_relayReads2 h.holds hstep
  refine ⟨hholds, ⟨h.names.record, h.names.owner⟩, ?_, h.drained.keep rfl fun _ _ => rfl, ?_⟩
  · intro id hid client howner
    exact h.live id ((waiting_of_perm hsame id).mp hid) client howner
  · intro client hactive
    exact (h.served client ⟨hactive.record, hactive.staying⟩).keep rfl rfl
      (fun _ _ => ⟨rfl, fun _ h => h⟩) fun id _ => waiting_of_perm hsame id

theorem meshServes_step {b : Build} (hb : b ≠ .bmi) {event : MeshEvent} (h : MeshServes env tid m)
    (hcond : MeshServiceCond env shared m event)
    (hstep : m.copiedStep b env startTime shared event = some (shared', m')) :
    MeshServes env tid m' := by
  have hholds := (meshHolds_step hb h.holds hcond.1 hstep).1
  cases event with
  | agent e => exact meshServes_agent h hcond hstep
  | relayStarts which raw1 raw2 =>
    simp only [MeshLoop.copiedStep, MeshLoop.beyond, Option.ite_none_left_eq_some] at hstep
    obtain ⟨link, -, hm⟩ := Option.map_eq_some_iff.mp hstep.2
    cases hm
    exact meshServes_outside h hholds rfl rfl fun _ => ⟨rfl, fun _ h => h⟩
  | relayReads1 which chunk fresh =>
    obtain ⟨link, -, hm⟩ := Option.map_eq_some_iff.mp hstep
    cases hm
    exact meshServes_outside h hholds rfl rfl fun _ => ⟨rfl, fun _ h => h⟩
  | dubboReads which =>
    obtain ⟨link, -, hm⟩ := Option.map_eq_some_iff.mp hstep
    cases hm
    exact meshServes_outside h hholds rfl rfl fun _ => ⟨rfl, fun _ h => h⟩
  | dubboAnswers which i result =>
    obtain ⟨⟨link, package⟩, -, hm⟩ := Option.map_eq_some_iff.mp hstep
    cases hm
    exact meshServes_outside h hholds rfl rfl fun _ => ⟨rfl, List.subset_append_left _ _⟩
  | relayReads2 which chunk fresh =>
    obtain ⟨⟨link, replies⟩, hlink, hm⟩ := Option.map_eq_some_iff.mp hstep
    cases hm
    exact meshServes_relayReads2 h hlink hholds

end

end

end MeshAgent.Proofs

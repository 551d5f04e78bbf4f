import MeshAgent.Foundations.Eventually
import MeshAgent.Proofs.DeliveryRank

/-!
# What is on its way can be moved on

As long as the connections stay open, some delivery is possible until nothing is left that is
unanswered, and each delivery lowers what is on its way in the mesh whose writes are copied.
-/

namespace MeshAgent.Proofs
open MeshAgent.Foundations MeshAgent.Model

section

variable {env : Environment} {startTime : Int} {shared shared' : Shared} {tid n which : Nat}
  {loop loop' : WorkLoop} {m m' : MeshLoop} {e : Event} {b : Build} {o : Outside} {link : Link}
  {p : Places}

lemma connection_makeConnectionToAgent (server : EndpointServer) (stream : ProviderStream) :
    (makeConnectionToAgent server stream).connection = .connecting ∨
      (makeConnectionToAgent server stream).connection = stream.connection := by
  rw [makeConnectionToAgent]
  split
  · exact .inl rfl
  · exact .inr rfl

lemma established_step (h : LoopStep env startTime shared loop e shared' loop')
    (hopen : (loop'.streams which).connection = .established) :
    (loop.streams which).connection = .established ∨ which < shared.lb.numOfEnds := by
  have hkeep : ∀ k stream, stream.connection = (loop.streams k).connection →
      (Function.update loop.streams k stream which).connection = .established →
        (loop.streams which).connection = .established := by
    intro k stream hstream hnew
    rwa [apply_update_of_eq ProviderStream.connection loop.streams hstream] at hnew
  have hmake : ∀ k, (loop.streams k).connection ≠ .established →
      (Function.update loop.streams k (makeConnectionToAgent
        (loop.evLoop.server.endpointServers k) (loop.streams k)) which).connection = .established →
        (loop.streams which).connection = .established := by
    intro k hnot hnew
    by_cases hk : which = k
    · subst hk
      rw [Function.update_self] at hnew
      rcases connection_makeConnectionToAgent (loop.evLoop.server.endpointServers which)
        (loop.streams which) with hc | hc
      · rw [hc] at hnew
        exact absurd hnew (by simp)
      · exact absurd (hc ▸ hnew) hnot
    · rwa [Function.update_of_ne hk] at hnew
  cases h with
  | dispatch => exact .inl (hkeep _ _ (connection_write _ _) hopen)
  | answer => exact .inl (hkeep _ _ (by rfl) hopen)
  | replyRead => exact .inl (hkeep _ _ (by rfl) hopen)
  | handled => exact .inl (hkeep _ _ (by rfl) hopen)
  | @providerEnd k =>
    by_cases hk : which = k
    · subst hk
      simp [WorkLoop.setStream] at hopen
    · simp only [WorkLoop.setStream, Function.update_of_ne hk] at hopen
      exact .inl hopen
  | reconnect closing => exact .inl (hmake _ (by simp [closing]) hopen)
  | connectFailed connecting => exact .inl (hmake _ (by simp [connecting]) hopen)
  | @connected k _ known =>
    by_cases hk : which = k
    · exact .inr (hk ▸ known)
    · simp only [WorkLoop.setStream, Function.update_of_ne hk] at hopen
      exact .inl hopen
  | admitted => exact .inl hopen
  | refuse => exact .inl hopen
  | wait => exact .inl hopen
  | clientEnd => exact .inl hopen
  | closed => exact .inl hopen
  | returned => exact .inl hopen

lemma linksReached_start (n tid : Nat) (raw : Nat → Mem UInt8) :
    LinksReached n ⟨startWorkEventLoop tid raw, startOutside⟩ where
  reached := fun which h => absurd h (by simp [startWorkEventLoop])
  started := fun _ _ => ⟨rfl, rfl, rfl⟩

lemma LinksReached.setLink (h : LinksReached n m) {executed : List (List UInt8 × List UInt8)}
    (hlink : link.relay = none → link.packages = [] ∧ link.received = [] ∧ link.results = []) :
    LinksReached n ⟨m.loop, { m.outside.setLink which link with executed := executed }⟩ where
  reached := h.reached
  started := by
    intro k hk
    by_cases hkw : k = which
    · subst hkw
      simp only [Outside.setLink, Function.update_self] at hk ⊢
      exact hlink hk
    · simp only [Outside.setLink, Function.update_of_ne hkw] at hk ⊢
      exact h.started k hk

lemma linksReached_agent (hloop : LoopHolds tid m.loop) (h : LinksReached n m)
    (hends : shared.lb.numOfEnds = n)
    (hstep : m.copiedAgent env startTime shared e = some (shared', m')) :
    LinksReached n m' where
  reached := by
    intro which hopen
    obtain ⟨-, loop', hcall, rfl⟩ := agent_eq hstep
    rcases established_step (loopStep_of_step hcall) hopen with hold | hless
    · exact h.reached which hold
    · exact hends ▸ hless
  started := by
    cases agentStep_of_agent hloop hstep with
    | quiet => exact h.started
    | refused => exact h.started
    | @forwarded k _ _ _ _ _ d =>
      intro which hrelay
      simp only [links_copyWrite] at hrelay ⊢
      by_cases hw : which = d.endpoint
      · subst hw
        simp only [Function.update_self] at hrelay ⊢
        exact h.started _ hrelay
      · simp only [Function.update_of_ne hw] at hrelay ⊢
        exact h.started which hrelay
    | handled _ written =>
      obtain ⟨got, ho, -⟩ := copyWrite_replies (o := m.outside) written
      rw [ho]
      exact h.started
    | @dropped _ k =>
      intro which hrelay
      by_cases hw : which = k
      · subst hw
        simp [Outside.setLink, Link.empty]
      · simp only [Outside.setLink, Function.update_of_ne hw] at hrelay ⊢
        exact h.started which hrelay

lemma connection_foldl_deliver (replies : List (List UInt8)) (stream : ProviderStream) :
    (replies.foldl ProviderStream.deliver stream).connection = stream.connection := by
  induction replies generalizing stream with
  | nil => rfl
  | cons reply replies ih => exact (ih _).trans rfl

lemma relay_of_relayReads2 {link' : Link} {chunk : List UInt8} {fresh : Mem UInt8}
    {replies : List (List UInt8)} (hstep : link.relayReads2 chunk fresh = some (link', replies)) :
    link'.relay ≠ none := by
  rw [Link.relayReads2] at hstep
  split at hstep
  · simp at hstep
  rw [Option.ite_none_left_eq_some] at hstep
  obtain ⟨-, hstep⟩ := hstep
  split at hstep
  · simp at hstep
  · cases hstep
    simp

theorem linksReached_step {event : MeshEvent} (hloop : LoopHolds tid m.loop)
    (h : LinksReached n m) (hends : shared.lb.numOfEnds = n)
    (hstep : m.copiedStep b env startTime shared event = some (shared', m')) :
    LinksReached n m' := by
  cases event with
  | agent e => exact linksReached_agent hloop h hends hstep
  | relayStarts which raw1 raw2 =>
    simp only [MeshLoop.copiedStep, MeshLoop.beyond, Option.ite_none_left_eq_some] at hstep
    obtain ⟨link, hlink, hm⟩ := Option.map_eq_some_iff.mp hstep.2
    cases hm
    apply h.setLink
    intro hnone
    rw [Link.relayStarts] at hlink
    split at hlink
    · simp at hlink
    · cases hlink
      simp at hnone
  | relayReads1 which chunk fresh =>
    obtain ⟨link, hlink, hm⟩ := Option.map_eq_some_iff.mp hstep
    cases hm
    apply h.setLink
    intro hnone
    rw [Link.relayReads1] at hlink
    split at hlink
    · simp at hlink
    rw [Option.ite_none_left_eq_some] at hlink
    obtain ⟨-, hlink⟩ := hlink
    split at hlink
    · simp at hlink
    · cases hlink
      simp at hnone
  | dubboReads which =>
    obtain ⟨link, hlink, hm⟩ := Option.map_eq_some_iff.mp hstep
    cases hm
    apply h.setLink
    intro hnone
    rw [Link.dubboReads] at hlink
    split at hlink
    · simp at hlink
    · next k hnext =>
      cases hlink
      rw [(h.started which hnone).1, packageCode.next_nil] at hnext
      exact absurd hnext (by simp)
  | dubboAnswers which i result =>
    obtain ⟨⟨link, package⟩, hlink, hm⟩ := Option.map_eq_some_iff.mp hstep
    cases hm
    apply h.setLink
    intro hnone
    rw [Link.dubboAnswers] at hlink
    split at hlink
    · simp at hlink
    · next received hreceived =>
      cases hlink
      rw [(h.started which hnone).2.1] at hreceived
      exact absurd hreceived (by simp)
  | relayReads2 which chunk fresh =>
    obtain ⟨⟨link, replies⟩, hlink, hm⟩ := Option.map_eq_some_iff.mp hstep
    cases hm
    have hset : LinksReached n ⟨m.loop, m.outside.setLink which link⟩ :=
      h.setLink fun hnone => absurd hnone (relay_of_relayReads2 hlink)
    refine ⟨?_, hset.started⟩
    intro k hopen
    apply h.reached k
    rwa [WorkLoop.setStream, apply_update_of_eq ProviderStream.connection m.loop.streams
      (connection_foldl_deliver replies _)] at hopen

/-- Nothing is asked, no client leaves, no connection changes, and no id is unanswered that
was not. -/
structure Delivered (m m' : MeshLoop) : Prop where
  asked : m'.outside.asked = m.outside.asked
  active : ∀ client, Active m.loop client → Active m'.loop client
  connection : ∀ which, (m'.loop.streams which).connection = (m.loop.streams which).connection
  unanswered : ∀ which, ∀ id ∈ unanswered (m'.loop.streams which),
    id ∈ unanswered (m.loop.streams which)

lemma delivered_outside {o' : Outside} (hasked : o'.asked = m.outside.asked) :
    Delivered m ⟨m.loop, o'⟩ :=
  ⟨hasked, fun _ h => h, fun _ => rfl, fun _ _ h => h⟩

theorem delivered_step {event : MeshEvent} (h : MeshHolds env tid m) (hdelivers : Delivers event)
    (hstep : m.copiedStep b env startTime shared event = some (shared', m')) : Delivered m m' := by
  cases event with
  | relayStarts which raw1 raw2 =>
    simp only [MeshLoop.copiedStep, MeshLoop.beyond, Option.ite_none_left_eq_some] at hstep
    obtain ⟨link, -, hm⟩ := Option.map_eq_some_iff.mp hstep.2
    cases hm
    exact delivered_outside rfl
  | relayReads1 which chunk fresh =>
    obtain ⟨link, -, hm⟩ := Option.map_eq_some_iff.mp hstep
    cases hm
    exact delivered_outside rfl
  | dubboReads which =>
    obtain ⟨link, -, hm⟩ := Option.map_eq_some_iff.mp hstep
    cases hm
    exact delivered_outside rfl
  | dubboAnswers which i result =>
    obtain ⟨⟨link, package⟩, -, hm⟩ := Option.map_eq_some_iff.mp hstep
    cases hm
    exact delivered_outside rfl
  | relayReads2 which chunk fresh =>
    obtain ⟨⟨link, replies⟩, hlink, hm⟩ := Option.map_eq_some_iff.mp hstep
    cases hm
    refine ⟨rfl, fun client hactive => ⟨hactive.record, hactive.staying⟩, fun k => ?_, fun k => ?_⟩
    · exact apply_update_of_eq ProviderStream.connection m.loop.streams
        (connection_foldl_deliver replies _) k
    · exact fun id hid => ((unanswered_relayReads2 h hlink k).mem_iff).mp hid
  | agent e =>
    obtain ⟨-, loop', hcall, hm⟩ := agent_eq hstep
    cases e with
    | replyRead which chunk =>
      cases hm
      cases loopStep_of_step hcall with
      | replyRead =>
        refine ⟨rfl, fun client hactive => ⟨hactive.record, hactive.staying⟩, fun k => ?_,
          fun k => ?_⟩
        · exact apply_update_of_eq ProviderStream.connection m.loop.streams (by rfl) k
        · intro id hid
          rwa [WorkLoop.setStream, apply_update_of_eq Proofs.unanswered m.loop.streams
            (by rfl)] at hid
    | replyPass now =>
      obtain ⟨got, ho⟩ := outside_replyPass hstep
      have hloop : m'.loop = loop' := by rw [hm]
      refine ⟨by rw [ho], ?_, ?_, ?_⟩
      · rw [hloop]
        intro client hactive
        have hrecord := (record_step (loopStep_of_step hcall) client).2.2 hactive.record
        refine ⟨hrecord.resolve_right (by simp), ?_⟩
        cases loopStep_of_step hcall with
        | returned => exact hactive.staying
        | handled => exact hactive.staying
      · rw [hloop]
        intro k
        cases loopStep_of_step hcall with
        | returned => rfl
        | handled =>
          exact apply_update_of_eq ProviderStream.connection m.loop.streams (by rfl) k
      · rw [hloop]
        intro k id hid
        rcases unanswered_step (loopStep_of_step hcall) hid with hold | ⟨-, hchanged⟩
        · exact hold
        · refine absurd ?_ hchanged
          cases loopStep_of_step hcall with
          | returned => rfl
          | handled _ _ reply =>
            simp [EventLoop.setEndpoint, server_handleReply reply]
    | _ => exact absurd hdelivers (by simp [Delivers])

lemma take_one_ne_nil {bytes : List UInt8} (h : bytes ≠ []) :
    bytes.take 1 ≠ [] ∧ (bytes.take 1).length = 1 := by
  obtain ⟨first, rest, rfl⟩ := List.exists_cons_of_ne_nil h
  simp

namespace LinkHolds

lemma exists_relayReads1 (h : LinkHolds env o link p) (hb : b ≠ .bmi) (fresh : Mem UInt8)
    (hrelay : link.relay ≠ none) (hne : link.requests ≠ []) :
    ∃ chunk link', link.relayReads1 b chunk fresh = some link' := by
  obtain ⟨relay, hrelay⟩ := Option.ne_none_iff_exists'.mp hrelay
  obtain ⟨hchunk, hlen⟩ := take_one_ne_nil hne
  have hholds := h.relay relay hrelay
  have hreads := read1_reassembles_of (pReadConnectionDataHttpReqPass_transcodes hb fresh)
  have hcarries := h.requests
  simp only [buffered1, hrelay, Option.elim_some] at hcarries
  have hup : p.up ≠ [] := by
    intro hnil
    rw [hnil] at hcarries
    exact hne (List.append_eq_nil_iff.mp hcarries.bytes_eq_nil).2
  have hroom : 0 < pAllocBuffer1 relay :=
    hcarries.room hreads hholds.fits1 hholds.incomplete1 hup fun f hf => by
      have hcap : pDefaultPackageSize = 4096 := rfl
      have hshort := hf.2.1
      omega
  rw [← List.take_append_drop 1 link.requests] at hcarries
  obtain ⟨es, relay', -, -, -, hread, -⟩ :=
    hcarries.read hreads hholds.fits1 hchunk (by omega)
  refine ⟨link.requests.take 1, ?_⟩
  simp only [Link.relayReads1, hrelay, hread]
  rw [if_neg (by simp only [not_or, not_not]; exact ⟨hchunk, by omega, List.take_prefix 1 _⟩)]
  exact ⟨_, rfl⟩

lemma exists_relayReads2 (h : LinkHolds env o link p) (fresh : Mem UInt8)
    (hrelay : link.relay ≠ none) (hne : link.results ≠ []) :
    ∃ chunk r, link.relayReads2 chunk fresh = some r := by
  obtain ⟨relay, hrelay⟩ := Option.ne_none_iff_exists'.mp hrelay
  obtain ⟨hchunk, hlen⟩ := take_one_ne_nil hne
  have hholds := h.relay relay hrelay
  have hreads := read2_reassembles_of (pOnReadResultsPass_answers fresh)
  have hcarries := h.results
  simp only [buffered2, hrelay, Option.elim_some] at hcarries
  have hdown : p.down ≠ [] := by
    intro hnil
    rw [hnil] at hcarries
    exact hne (List.append_eq_nil_iff.mp hcarries.bytes_eq_nil).2
  have hroom : 0 < pAllocBuffer2 relay :=
    hcarries.room hreads hholds.fits2 hholds.incomplete2 hdown fun f hf => by
      have hcap : pDefaultPackageSize = 4096 := rfl
      have hshort := hf.2.2
      omega
  rw [← List.take_append_drop 1 link.results] at hcarries
  obtain ⟨es, relay', -, -, -, hread, -⟩ :=
    hcarries.read hreads hholds.fits2 hchunk (by omega)
  refine ⟨link.results.take 1, ?_⟩
  simp only [Link.relayReads2, hrelay, hread]
  rw [if_neg (by simp only [not_or, not_not]; exact ⟨hchunk, by omega, List.take_prefix 1 _⟩)]
  exact ⟨_, rfl⟩

lemma exists_dubboReads (h : LinkHolds env o link p) (hne : link.packages ≠ []) :
    ∃ link', link.dubboReads = some link' := by
  cases hnext : packageCode.next link.packages with
  | none =>
    have hpackages := h.packages
    rw [hpackages.items_eq_nil hnext] at hpackages
    exact absurd hpackages.bytes_eq_nil hne
  | some k =>
    rw [Link.dubboReads, hnext]
    exact ⟨_, rfl⟩

lemma all_eq_nil (h : LinkHolds env o link p) (hrequests : link.requests = [])
    (hpackages : link.packages = []) (hreceived : link.received = [])
    (hresults : link.results = []) :
    p.all = [] := by
  have hup := h.requests
  have hmid := h.packages
  have hheld := h.received
  have hdown := h.results
  have hnext1 : requestCode.next (buffered1 link) = none := by
    cases hrelay : link.relay with
    | none => simp [buffered1, hrelay, requestCode.next_nil]
    | some relay => simpa [buffered1, hrelay] using (h.relay relay hrelay).incomplete1
  have hnext2 : responseCode.next (buffered2 link) = none := by
    cases hrelay : link.relay with
    | none => simp [buffered2, hrelay, responseCode.next_nil]
    | some relay => simpa [buffered2, hrelay] using (h.relay relay hrelay).incomplete2
  rw [hrequests, List.append_nil] at hup
  rw [hpackages] at hmid
  rw [hreceived] at hheld
  rw [hresults, List.append_nil] at hdown
  rw [Places.all, Places.toAnswer, hup.items_eq_nil hnext1,
    hmid.items_eq_nil packageCode.next_nil, List.forall₂_nil_left_iff.mp hheld,
    hdown.items_eq_nil hnext2]
  rfl

end LinkHolds

lemma exists_replyPass (h : MeshServes env tid m) (now : Int)
    (hreading : m.loop.reading = some which) :
    ∃ r, m.copiedAgent env startTime shared (.replyPass now) = some r := by
  have hcap : defaultResponseSize = 4096 := rfl
  have hpackage : defaultPackageSize = 4096 := rfl
  have hsize := (h.holds.loop.frames which).size
  have hpass : ∃ r, m.loop.step env startTime shared (.replyPass now) = some r := by
    rw [WorkLoop.step, WorkLoop.replyPass, hreading]
    by_cases hnone : replyCode.next
        (buffered (m.loop.evLoop.server.endpointServers which)) = none
    · have hret : m.loop.nextPass shared which now = .ret := by
        rw [WorkLoop.nextPass, cReadFromProvideAgentsPass]
        simp only [bufferedFrame_of_next_eq_none (by decide) (by omega) hnone]
      simp only [hret]
      exact ⟨_, rfl⟩
    · obtain ⟨f, rest, id, left, htransit, hcontent, hframe, hfor, -⟩ :=
        (h.holds.endpoints which).replies.first hnone
      obtain ⟨fs, result, hanswered, rfl⟩ := hfor
      have hsmall := hanswered.asks.small
      obtain ⟨hpre, hshort, -⟩ := hframe
      have hmem : id ∈ unanswered (m.loop.streams which) := by
        rw [unanswered, htransit]
        simp
      obtain ⟨client, howner, hlast⟩ := h.holds.loop.last which id hmem
      have hslot := (h.holds.loop.table.slot_eq_iff howner hlast).mpr
        (h.holds.loop.recent which id hmem)
      have hreqId : bytes8ToLong (m.loop.evLoop.server.endpointServers which).rawArray 4 = id := by
        rw [bytes8ToLong_frame hpre.le_length hcontent, replyFrame, List.append_assoc,
          frameId_frame _ _ (by omega) (by omega)]
      have hlive : LiveSlot m.loop.evLoop id := by
        intro client' hclient
        rw [replyClient_of_nonneg _ (by omega), Int.toNat_natCast, hslot,
          Option.some.injEq] at hclient
        exact hclient ▸ h.live id ⟨which, hmem⟩ client howner
      obtain ⟨hheader, hpayload⟩ := read_header_payload hpre hcontent
      have hle := hpre.le_length
      obtain ⟨⟨lb, evLoop⟩, hreply⟩ : ∃ s, handleReply shared.lb m.loop.evLoop which id
          (((replyFrame id (httpResponse result)).length : Int) - (12 : Nat)) now
          ((replyFrame id (httpResponse result)).drop 12) = some s :=
        handleReply_returns hlive (by omega) (by omega) (by omega)
      have hfound := bufferedFrame_of_frame hpre (by decide) (by omega) hcontent
      have hemit := cReadFromProvideAgentsPass_frame
        (s := ⟨shared.lb, m.loop.evLoop, fun _ => now⟩) rfl hfound hreqId hheader hpayload hreply
      simp only [WorkLoop.nextPass, hemit]
      exact ⟨_, rfl⟩
  obtain ⟨⟨shared', loop'⟩, hpass⟩ := hpass
  simp only [MeshLoop.copiedAgent, hpass]
  exact ⟨_, rfl⟩

lemma exists_replyRead (h : MeshServes env tid m) (hidle : m.loop.reading = none)
    (hne : (m.loop.streams which).inbound ≠ []) :
    ∃ chunk r, m.copiedAgent env startTime shared (.replyRead which chunk) = some r := by
  have hcap : defaultResponseSize = 4096 := rfl
  have hframes := h.holds.loop.frames which
  obtain ⟨hchunk, hlen⟩ := take_one_ne_nil hne
  have hcarries := (h.holds.endpoints which).replies
  have htransit : (m.loop.streams which).inTransit ≠ [] := by
    intro hnil
    rw [hnil] at hcarries
    exact hne (List.append_eq_nil_iff.mp hcarries.bytes_eq_nil).2
  have hopen : (m.loop.streams which).connection = .established := by
    by_contra hnot
    exact htransit (hframes.quiet hnot).1
  obtain ⟨f, hframe, hless⟩ := hcarries.incomplete_lt htransit (h.drained which (by simp [hidle]))
  have hshort := hframe.2.1
  rw [buffered, Mem.length_read] at hless
  have hroom : 1 ≤ allocBufferToAgent (m.loop.evLoop.server.endpointServers which) := by
    rw [allocBufferToAgent, hframes.max]
    omega
  refine ⟨(m.loop.streams which).inbound.take 1, ?_⟩
  have hread : ∃ r, m.loop.step env startTime shared
      (.replyRead which ((m.loop.streams which).inbound.take 1)) = some r := by
    rw [WorkLoop.step, WorkLoop.replyRead]
    simp only
    rw [if_neg (by
      simp only [not_or, not_not]
      exact ⟨hidle, hopen, hchunk, by omega, List.take_prefix 1 _⟩)]
    exact ⟨_, rfl⟩
  obtain ⟨⟨shared', loop'⟩, hread⟩ := hread
  simp only [MeshLoop.copiedAgent, hread]
  exact ⟨_, rfl⟩

/-- Where nothing can be delivered, no open connection has anything unanswered. -/
theorem answered_of_stuck (hb : b ≠ .bmi) (h : MeshServes env tid m)
    (hstuck : ∀ event, Delivers event → m.copiedStep b env startTime shared event = none)
    (hopen : (m.loop.streams which).connection = .established) :
    unanswered (m.loop.streams which) = [] := by
  have hidle : m.loop.reading = none := by
    by_contra hreading
    obtain ⟨k, hk⟩ := Option.ne_none_iff_exists'.mp hreading
    obtain ⟨r, hr⟩ := exists_replyPass h 0 hk
    have hnone := hstuck (.agent (.replyPass 0)) trivial
    rw [MeshLoop.copiedStep, hr] at hnone
    exact absurd hnone (by simp)
  have hinbound : (m.loop.streams which).inbound = [] := by
    by_contra hne
    obtain ⟨chunk, r, hr⟩ := exists_replyRead h hidle hne
    have hnone := hstuck (.agent (.replyRead which chunk)) trivial
    rw [MeshLoop.copiedStep, hr] at hnone
    exact absurd hnone (by simp)
  obtain ⟨p, hlink, hperm, -⟩ := (h.holds.endpoints which).places
  have hrelay : (m.outside.links which).relay ≠ none := by
    intro hrelay
    have hnone := hstuck (.relayStarts which (fun _ => 0) (fun _ => 0)) trivial
    simp [MeshLoop.copiedStep, MeshLoop.beyond, hopen, Link.relayStarts, hrelay] at hnone
  have hrequests : (m.outside.links which).requests = [] := by
    by_contra hne
    obtain ⟨chunk, link', hread⟩ := hlink.exists_relayReads1 hb (fun _ => 0) hrelay hne
    have hnone := hstuck (.relayReads1 which chunk (fun _ => 0)) trivial
    simp [MeshLoop.copiedStep, MeshLoop.beyond, hread] at hnone
  have hpackages : (m.outside.links which).packages = [] := by
    by_contra hne
    obtain ⟨link', hread⟩ := hlink.exists_dubboReads hne
    have hnone := hstuck (.dubboReads which) trivial
    simp [MeshLoop.copiedStep, MeshLoop.beyond, hread] at hnone
  have hreceived : (m.outside.links which).received = [] := by
    by_contra hne
    obtain ⟨package, rest, hsplit⟩ := List.exists_cons_of_ne_nil hne
    have hnone := hstuck (.dubboAnswers which 0 []) (Nat.zero_le _)
    simp [MeshLoop.copiedStep, MeshLoop.beyond, Link.dubboAnswers, hsplit] at hnone
  have hresults : (m.outside.links which).results = [] := by
    by_contra hne
    obtain ⟨chunk, r, hread⟩ := hlink.exists_relayReads2 (fun _ => 0) hrelay hne
    have hnone := hstuck (.relayReads2 which chunk (fun _ => 0)) trivial
    simp [MeshLoop.copiedStep, MeshLoop.beyond, hread] at hnone
  have hcarries := (h.holds.endpoints which).replies
  rw [hinbound, List.append_nil] at hcarries
  rw [hlink.all_eq_nil hrequests hpackages hreceived hresults] at hperm
  rw [unanswered, hperm.eq_nil, hcarries.items_eq_nil (h.drained which (by simp [hidle]))]
  rfl

end

/-! ### Deliveries of the mesh -/

/-- A delivery at one of the event loops. -/
def CopiedDeliveryStep (b : Build) (env : Environment) (m : CopiedMesh) (e : Nat × MeshEvent)
    (m' : CopiedMesh) : Prop :=
  m.step b env e = some m' ∧ Delivers e.2

section

variable {b : Build} {env : Environment} {n : Nat} {startTime : Int} {raw : Nat → Nat → Mem UInt8}
  {es : List (Nat × MeshEvent)} {m₀ m m' : CopiedMesh} {e : Nat × MeshEvent}

/-- What holds at all loops of the mesh, with `n` endpoints. -/
structure AllServe (env : Environment) (n : Nat) (m : CopiedMesh) : Prop where
  ends : m.world.shared.lb.numOfEnds = n
  serves : ∀ tid, tid < eventLoopNum → MeshServes env tid (m.meshLoop tid)
  reached : ∀ tid, tid < eventLoopNum → LinksReached n (m.meshLoop tid)

lemma Delivers.cond {event : MeshEvent} (h : Delivers event) (env : Environment) (shared : Shared)
    (m : MeshLoop) : MeshServiceCond env shared m event := by
  cases event with
  | agent e =>
    cases e with
    | replyRead => exact ⟨⟨trivial, trivial⟩, trivial⟩
    | replyPass => exact ⟨⟨trivial, trivial⟩, trivial⟩
    | _ => exact absurd h (by simp [Delivers])
  | dubboAnswers => exact ⟨h, trivial⟩
  | _ => exact ⟨trivial, trivial⟩

lemma numOfEnds_meshStep {shared shared' : Shared} {m m' : MeshLoop} {event : MeshEvent}
    (h : m.copiedStep b env startTime shared event = some (shared', m')) :
    shared'.lb.numOfEnds = shared.lb.numOfEnds := by
  cases event with
  | agent e =>
    obtain ⟨-, loop', hcall, -⟩ := agent_eq h
    exact numOfEnds_step (loopStep_of_step hcall)
  | relayStarts =>
    simp only [MeshLoop.copiedStep, MeshLoop.beyond, Option.ite_none_left_eq_some,
      Option.map_eq_some_iff] at h
    obtain ⟨-, _, -, hm⟩ := h
    cases hm
    rfl
  | _ =>
    obtain ⟨_, -, hm⟩ := Option.map_eq_some_iff.mp h
    cases hm
    rfl

lemma meshStep_cases (h : m.step b env e = some m') :
    e.1 < eventLoopNum ∧ ∃ shared loop',
      (m.meshLoop e.1).copiedStep b env m.world.startTime m.world.shared e.2 =
      some (shared, loop') ∧
      m'.world.shared = shared ∧
      ∀ tid, m'.meshLoop tid = if tid = e.1 then loop' else m.meshLoop tid := by
  simp only [CopiedMesh.step, Option.ite_none_right_eq_some] at h
  obtain ⟨htid, h⟩ := h
  obtain ⟨⟨shared, loop'⟩, hloop, rfl⟩ := Option.map_eq_some_iff.mp h
  exact ⟨htid, shared, loop', hloop, rfl, meshLoop_update m.world m.outside shared e.1 loop'⟩

lemma allServe_step (hb : b ≠ .bmi) (h : AllServe env n m)
    (hstep : CopiedStepIf b env MeshServiceCond m e m') : AllServe env n m' := by
  obtain ⟨hstep, hcond⟩ := hstep
  obtain ⟨htid, shared, loop', hloop, hshared, hnew⟩ := meshStep_cases hstep
  refine ⟨?_, ?_, ?_⟩
  · rw [hshared, numOfEnds_meshStep hloop, h.ends]
  · intro tid htid'
    rw [hnew tid]
    split
    · next heq => exact heq ▸ meshServes_step hb (h.serves _ htid) hcond hloop
    · exact h.serves tid htid'
  · intro tid htid'
    rw [hnew tid]
    split
    · exact linksReached_step (h.serves _ htid).holds.loop (h.reached _ htid) h.ends hloop
    · exact h.reached tid htid'

lemma allServe_run (hb : b ≠ .bmi)
    (h : Run (CopiedStepIf b env MeshServiceCond) (startCopied (consumer n startTime raw)) es m) :
    AllServe env n m :=
  h.invariant (fun _ _ _ hm hstep => allServe_step hb hm hstep)
    ⟨rfl, fun _ htid => meshServes_start env htid _, fun tid _ => linksReached_start n tid _⟩

lemma meshRank_lt (h : AllServe env n m) (hstep : CopiedDeliveryStep b env m e m') :
    meshRank n m' < meshRank n m := by
  obtain ⟨hstep, hdelivers⟩ := hstep
  obtain ⟨htid, shared, loop', hloop, -, hnew⟩ := meshStep_cases hstep
  have hless := loopRank_delivers (h.serves _ htid).holds (h.reached _ htid) hdelivers hloop
  apply sum_range_lt htid (by rwa [hnew, if_pos rfl])
  intro tid hne
  rw [hnew, if_neg hne]

lemma Delivered.trans {m₀ m m' : MeshLoop} (h : Delivered m₀ m) (h' : Delivered m m') :
    Delivered m₀ m' where
  asked := h'.asked.trans h.asked
  active := fun client hactive => h'.active client (h.active client hactive)
  connection := fun which => (h'.connection which).trans (h.connection which)
  unanswered := fun which id hid => h.unanswered which id (h'.unanswered which id hid)

lemma delivered_meshStep (h : AllServe env n m) (hstep : CopiedDeliveryStep b env m e m')
    (tid : Nat) :
    Delivered (m.meshLoop tid) (m'.meshLoop tid) := by
  obtain ⟨hstep, hdelivers⟩ := hstep
  obtain ⟨htid, shared, loop', hloop, -, hnew⟩ := meshStep_cases hstep
  rw [hnew tid]
  split
  · next heq => exact heq ▸ delivered_step (h.serves _ htid).holds hdelivers hloop
  · exact ⟨rfl, fun _ h => h, fun _ => rfl, fun _ _ h => h⟩

end

end MeshAgent.Proofs

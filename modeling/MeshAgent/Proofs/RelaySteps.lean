import Mathlib.Data.List.Count
import Mathlib.Data.List.Perm.Basic
import MeshAgent.Proofs.MeshInvariant

/-!
# What the relays and Dubbo do in the mesh

A relay and Dubbo move the ids of their connection from place to place. The replies of a relay
are answers of the provider agent that the consumer agent expects.
-/

namespace MeshAgent.Proofs
open MeshAgent.Foundations MeshAgent.Model

section

variable {env : Environment} {startTime : Int} {shared : Shared} {tid : Nat} {m : MeshLoop}
  {o : Outside} {which : Nat}

/-- A step that moves the ids of one connection and asks or answers nothing. -/
theorem meshHolds_setLink (h : MeshHolds env tid m) {link : Link} {p : Places}
    (hlink : LinkHolds env m.outside link p)
    (hperm : (m.loop.streams which).pending.Perm p.all)
    (hfresh : ∀ id ∈ p.toAnswer, id ∉ executedIds m.outside)
    (hrelayed : link.relay ≠ none → (m.loop.streams which).connection = .established) :
    MeshHolds env tid { m with outside := m.outside.setLink which link } := by
  have hkeep : ∀ id, Keeps m.outside (m.outside.setLink which link) id := fun _ =>
    ⟨rfl, fun _ h => h⟩
  refine ⟨h.loop, h.sized, ?_, ?_, h.dubbo.keep rfl (fun _ _ hid => hid) fun _ _ _ => hkeep _⟩
  · intro k
    by_cases hk : k = which
    · subst hk
      simp only [Outside.setLink, Function.update_self]
      exact ⟨⟨p, hlink.keep fun _ _ => hkeep _, hperm, hfresh⟩, hrelayed,
        (h.endpoints k).replies.imp fun f id _ hf => hf.keep (hkeep id)⟩
    · simp only [Outside.setLink, Function.update_of_ne hk]
      exact (h.endpoints k).keep (sameContent_of_eq rfl rfl k) (fun _ _ => hkeep _) fun _ _ hnot =>
        hnot
  · intro client
    exact (h.clients client).keep h.loop.last rfl rfl (fun _ _ hid => hid) (fun _ _ hid => hid)
      fun _ _ => hkeep _

lemma meshHolds_relayStarts (h : MeshHolds env tid m) {link : Link} {raw1 raw2 : Mem UInt8}
    (hopen : (m.loop.streams which).connection = .established)
    (hstep : (m.outside.links which).relayStarts raw1 raw2 = some link) :
    MeshHolds env tid { m with outside := m.outside.setLink which link } := by
  obtain ⟨p, hlink, hperm, hfresh⟩ := (h.endpoints which).places
  exact meshHolds_setLink h (hlink.relayStarts hstep) hperm hfresh fun _ => hopen

lemma relay_of_relayReads1 {b : Build} {link link' : Link} {chunk : List UInt8} {fresh : Mem UInt8}
    (hstep : link.relayReads1 b chunk fresh = some link') : link.relay ≠ none := by
  intro hnone
  rw [Link.relayReads1, hnone] at hstep
  exact absurd hstep (by simp)

lemma meshHolds_relayReads1 (h : MeshHolds env tid m) {b : Build} (hb : b ≠ .bmi) {link : Link}
    {chunk : List UInt8} {fresh : Mem UInt8}
    (hstep : (m.outside.links which).relayReads1 b chunk fresh = some link) :
    MeshHolds env tid { m with outside := m.outside.setLink which link } := by
  obtain ⟨p, hlink, hperm, hfresh⟩ := (h.endpoints which).places
  obtain ⟨done, left, hup, hnew⟩ := hlink.relayReads1 hb hstep
  refine meshHolds_setLink h hnew ?_ ?_ fun _ =>
    (h.endpoints which).relayed (relay_of_relayReads1 hstep)
  · rw [List.perm_iff_count]
    intro a
    have hcount := hperm.count_eq a
    simp only [Places.all, Places.toAnswer, hup, List.count_append] at hcount ⊢
    omega
  · intro id hid
    apply hfresh id
    simp only [Places.toAnswer, hup, List.mem_append] at hid ⊢
    tauto

lemma meshHolds_dubboReads (h : MeshHolds env tid m) {link : Link}
    (hstep : (m.outside.links which).dubboReads = some link) :
    MeshHolds env tid { m with outside := m.outside.setLink which link } := by
  obtain ⟨p, hlink, hperm, hfresh⟩ := (h.endpoints which).places
  obtain ⟨id, left, hmid, hnew⟩ := hlink.dubboReads hstep
  have hrelay : link.relay = (m.outside.links which).relay := by
    rw [Link.dubboReads] at hstep
    split at hstep
    · simp at hstep
    · simp only [Option.some.injEq] at hstep
      rw [← hstep]
  refine meshHolds_setLink h hnew ?_ ?_ (hrelay ▸ (h.endpoints which).relayed)
  · rw [List.perm_iff_count]
    intro a
    have hcount := hperm.count_eq a
    simp only [Places.all, Places.toAnswer, hmid, List.count_append, List.count_cons,
      List.count_nil] at hcount ⊢
    omega
  · intro id' hid
    apply hfresh id'
    simp only [Places.toAnswer, hmid, List.mem_append, List.mem_cons, List.not_mem_nil,
      or_false] at hid ⊢
    tauto

lemma meshHolds_dubboAnswers (h : MeshHolds env tid m) {i : Nat} {link : Link}
    {result package : List UInt8} (hshort : result.length ≤ 99)
    (hstep : (m.outside.links which).dubboAnswers i result = some (link, package)) :
    MeshHolds env tid { m with outside := { m.outside.setLink which link with
      executed := m.outside.executed ++ [(package, result)] } } := by
  generalize ho : ({ m.outside.setLink which link with
    executed := m.outside.executed ++ [(package, result)] } : Outside) = o'
  have hexecuted : o'.executed = m.outside.executed ++ [(package, result)] := by rw [← ho]
  have hkeep : ∀ id, Keeps m.outside o' id := fun _ =>
    ⟨by rw [← ho]; rfl, by rw [hexecuted]; exact List.subset_append_left _ _⟩
  obtain ⟨p, hlink, hperm, hfresh⟩ := (h.endpoints which).places
  obtain ⟨id, hat, ⟨fs, hasks, hpackage⟩, hnew⟩ :=
    hlink.dubboAnswers hshort hstep (fun _ _ => hkeep _) (by simp [hexecuted])
  obtain ⟨hi, hget⟩ := List.getElem?_eq_some_iff.mp hat
  have hids : executedIds o' = executedIds m.outside ++ [id] := by
    rw [executedIds, hexecuted, List.map_append, List.map_singleton, hpackage,
      carriedId_dubboPackage fs hasks.small]
    rfl
  have hheld : id ∈ p.toAnswer := by
    simp only [Places.toAnswer, List.mem_append]
    exact .inr (.inr (List.mem_of_getElem? hat))
  have hpending : id ∈ (m.loop.streams which).pending :=
    hperm.mem_iff.mpr (List.mem_append_left _ hheld)
  have hunanswered : id ∈ unanswered (m.loop.streams which) := List.mem_append_left _ hpending
  -- the id moves from those that Dubbo holds to those on the way back
  have hmoved : p.all.Perm ({ p with held := p.held.eraseIdx i, down := p.down ++ [id] } :
    Places).all := by
    have herase := List.getElem_cons_eraseIdx_perm hi
    rw [hget] at herase
    rw [List.perm_iff_count]
    intro a
    have hcount := herase.count_eq a
    simp only [Places.all, Places.toAnswer, List.count_append, List.count_cons,
      List.count_nil] at hcount ⊢
    omega
  have hnodup := (hperm.trans hmoved).nodup_iff.mp
    (List.nodup_append.mp (h.loop.distinct.nodup which)).1
  refine ⟨h.loop, h.sized, ?_, ?_, ?_, ?_⟩
  · intro k
    by_cases hk : k = which
    · subst hk
      have hlinks : o'.links k = link := by
        rw [← ho]
        exact Function.update_self ..
      have hrelay : link.relay = (m.outside.links k).relay := by
        rw [Link.dubboAnswers] at hstep
        split at hstep
        · simp at hstep
        · simp only [Option.some.injEq, Prod.mk.injEq] at hstep
          rw [← hstep.1]
      rw [hlinks]
      refine ⟨⟨_, hnew, hperm.trans hmoved, ?_⟩, hrelay ▸ (h.endpoints k).relayed,
        (h.endpoints k).replies.imp fun f id _ hf => hf.keep (hkeep id)⟩
      intro id' hid'
      rw [hids, List.mem_append, List.mem_singleton]
      rintro (hold | rfl)
      · refine hfresh id' ?_ hold
        simp only [Places.toAnswer, List.mem_append] at hid' ⊢
        rcases hid' with hup | hmid | hleft
        · exact .inl hup
        · exact .inr (.inl hmid)
        · exact .inr (.inr (List.mem_of_mem_eraseIdx hleft))
      · exact (List.nodup_append.mp hnodup).2.2 id' hid' id' (by simp) rfl
    · have hlinks : o'.links k = m.outside.links k := by
        rw [← ho]
        exact Function.update_of_ne hk _ _
      rw [hlinks]
      apply (h.endpoints k).keep (sameContent_of_eq rfl rfl k) (fun _ _ => hkeep _)
      intro id' hid' hnot
      rw [hids, List.mem_append, List.mem_singleton]
      rintro (hold | rfl)
      · exact hnot hold
      · exact h.loop.distinct.disjoint k which hk (List.mem_append_left _ hid') hunanswered
  · intro client
    exact (h.clients client).keep h.loop.last (by rw [← ho]; rfl) (by rw [← ho]; rfl)
      (fun _ _ hid => hid) (fun _ _ hid => hid) fun _ _ => hkeep _
  · rw [hids, List.nodup_append]
    refine ⟨h.dubbo.once, List.pairwise_singleton _ _, ?_⟩
    intro id' hid' id'' hid'' heq
    rw [List.mem_singleton.mp hid''] at heq
    exact hfresh id hheld (heq ▸ hid')
  · obtain ⟨client, howner, -⟩ := h.loop.last which id hunanswered
    obtain ⟨_, -, -, hlast⟩ := (h.clients client).served
    obtain ⟨before, hasked, -⟩ := hlast which id hunanswered howner
    have hsame : o'.asked = m.outside.asked := by
      rw [← ho]
      rfl
    rw [hexecuted, hsame]
    intro e he
    rcases List.mem_append.mp he with hold | hlatest
    · obtain ⟨client', id', hid', fs', hasks', hpackage'⟩ := h.dubbo.asked e hold
      exact ⟨client', id', hid', fs', hasks'.keep (hkeep id'), hpackage'⟩
    · rw [List.mem_singleton.mp hlatest]
      exact ⟨client, id, by rw [hasked]; simp, fs, hasks, hpackage⟩

lemma IsReply.isFrame {f : List UInt8} {id : Nat} (h : IsReply env o f id) :
    replyCode.IsFrame f ∧ carriedId f = id := by
  obtain ⟨fs, result, hanswered, rfl⟩ := h
  have hlen := length_httpResponse result
  have hshort := hanswered.short
  have hcap : defaultResponseSize = 4096 := rfl
  exact ⟨(carriesReply_replyFrame id _ hanswered.asks.small (by omega)).1,
    carriedId_replyFrame _ hanswered.asks.small⟩

lemma foldl_deliver {replies : List (List UInt8)} {done : List Nat}
    (h : List.Forall₂ (IsReply env o) replies done) (stream : ProviderStream) :
    replies.foldl ProviderStream.deliver stream = { stream with
      pending := stream.pending.diff done
      inTransit := stream.inTransit ++ done
      inbound := stream.inbound ++ replies.flatten } := by
  induction h generalizing stream with
  | nil => simp
  | @cons reply id replies done hreply _ ih =>
    rw [List.foldl_cons, ih, ProviderStream.deliver, hreply.isFrame.2]
    simp [List.diff_cons]

lemma carries_replies {replies : List (List UInt8)} {done : List Nat}
    (h : List.Forall₂ (IsReply env o) replies done) :
    CarriesItems replyCode (IsReply env o) replies.flatten done := by
  refine ⟨replies, ?_, rfl⟩
  induction h with
  | nil => exact .nil
  | cons hreply _ ih => exact .cons ⟨hreply.isFrame.1, hreply⟩ ih

/-- The answers of a provider agent to some requests of a connection. -/
def AreAnswers (which : Nat) (es : List Event) : Prop :=
  ∀ e ∈ es, ∃ reqId payload, e = .answer which reqId payload

variable (startTime shared) in
/-- The replies of a relay are answers of the provider agent that the consumer agent
expects. -/
lemma answers_run {replies : List (List UInt8)} {done : List Nat}
    (h : List.Forall₂ (IsReply env o) replies done) (hnodup : done.Nodup) (loop : WorkLoop)
    (hopen : (loop.streams which).connection = .established)
    (hpending : ∀ id ∈ done, id ∈ (loop.streams which).pending) :
    ∃ es, AreAnswers which es ∧ Run (LoopStepIf env startTime (TakesTurns env)) (shared, loop) es
      (shared, loop.setStream which
        (replies.foldl ProviderStream.deliver (loop.streams which))) := by
  induction h generalizing loop with
  | nil =>
    refine ⟨[], by simp [AreAnswers], ?_⟩
    simp only [List.foldl_nil, WorkLoop.setStream, Function.update_eq_self]
    exact .nil _
  | @cons reply id replies done hreply _ ih =>
    obtain ⟨hnot, hnodup⟩ := List.nodup_cons.mp hnodup
    have hid : carriedId reply = id := hreply.isFrame.2
    obtain ⟨fs, result, hanswered, rfl⟩ := hreply
    have hlen := length_httpResponse result
    have hshort := hanswered.short
    have hcap : defaultResponseSize = 4096 := rfl
    let next := loop.setStream which
      ((loop.streams which).deliver (replyFrame id (httpResponse result)))
    have hstream : next.streams which =
        (loop.streams which).deliver (replyFrame id (httpResponse result)) :=
      Function.update_self ..
    have hstep : loop.step env startTime shared (.answer which id (httpResponse result)) =
        some (shared, next) := by
      rw [WorkLoop.step, WorkLoop.answer]
      simp only [hopen, hpending id (by simp), ne_eq, not_true_eq_false, false_or]
      rw [if_neg (by omega)]
      simp only [next, ProviderStream.deliver, hid, hopen]
    obtain ⟨es, hes, hrun⟩ := ih hnodup next (by rw [hstream]; exact hopen) (by
      intro id' hmem
      rw [hstream]
      simp only [ProviderStream.deliver, hid]
      exact (List.mem_erase_of_ne (by rintro rfl; exact hnot hmem)).mpr
        (hpending id' (List.mem_cons_of_mem _ hmem)))
    refine ⟨.answer which id (httpResponse result) :: es, ?_, ?_⟩
    · intro e he
      rcases List.mem_cons.mp he with rfl | hrest
      · exact ⟨_, _, rfl⟩
      · exact hes e hrest
    · have hfirst : Run (LoopStepIf env startTime (TakesTurns env)) (shared, loop)
          [.answer which id (httpResponse result)] (shared, next) := .single ⟨hstep, trivial⟩
      have hlast : next.setStream which
        (replies.foldl ProviderStream.deliver (next.streams which)) =
          loop.setStream which ((replyFrame id (httpResponse result) :: replies).foldl
            ProviderStream.deliver (loop.streams which)) := by
        rw [hstream, List.foldl_cons]
        simp only [next, WorkLoop.setStream, Function.update_idem]
      rw [hlast] at hrun
      exact hfirst.append hrun

lemma loopHolds_run {s t : Shared × WorkLoop} {es : List Event} (h : LoopHolds tid s.2)
    (hrun : Run (LoopStepIf env startTime (TakesTurns env)) s es t) : LoopHolds tid t.2 :=
  hrun.invariant (P := fun s => LoopHolds tid s.2)
    (fun _ _ _ hs hstep => loopHolds_step hs hstep.2 (loopStep_of_step hstep.1)) h

lemma meshHolds_delivered (h : MeshHolds env tid m) {link : Link} {p : Places}
    {replies : List (List UInt8)} {done left : List Nat}
    (hperm : (m.loop.streams which).pending.Perm p.all)
    (hfresh : ∀ id ∈ p.toAnswer, id ∉ executedIds m.outside) (hdown : p.down = done ++ left)
    (hreplies : List.Forall₂ (IsReply env m.outside) replies done)
    (hlink : LinkHolds env m.outside link { p with down := left })
    (hopen : (m.loop.streams which).connection = .established)
    (hloop : LoopHolds tid (m.loop.setStream which
      (replies.foldl ProviderStream.deliver (m.loop.streams which)))) :
    MeshHolds env tid
      { loop := m.loop.setStream which
          (replies.foldl ProviderStream.deliver (m.loop.streams which))
        outside := m.outside.setLink which link } := by
  rw [foldl_deliver hreplies] at hloop ⊢
  have hkeep : ∀ id, Keeps m.outside (m.outside.setLink which link) id := fun _ =>
    ⟨rfl, fun _ h => h⟩
  have hsame : ∀ k, k ≠ which → SameContent m.loop (m.loop.setStream which
      { m.loop.streams which with
        pending := (m.loop.streams which).pending.diff done
        inTransit := (m.loop.streams which).inTransit ++ done
        inbound := (m.loop.streams which).inbound ++ replies.flatten }) k :=
    sameContent_other rfl (Function.update_eq_self which _).symm
  have hcount : ∀ a, (m.loop.streams which).pending.count a =
      p.toAnswer.count a + (done.count a + left.count a) := by
    intro a
    rw [hperm.count_eq, Places.all, hdown, List.count_append, List.count_append]
  refine ⟨hloop, h.sized, ?_, ?_, h.dubbo.keep rfl (fun _ _ hid => hid) fun _ _ _ => hkeep _⟩
  · intro k
    by_cases hk : k = which
    · subst hk
      simp only [Outside.setLink, WorkLoop.setStream, Function.update_self]
      refine ⟨⟨_, hlink.keep fun _ _ => hkeep _, ?_, hfresh⟩, fun _ => hopen, ?_⟩
      · rw [List.perm_iff_count]
        intro a
        rw [List.count_diff, hcount a, Places.all, List.count_append]
        simp only [Places.toAnswer]
        omega
      · rw [← List.append_assoc]
        exact ((h.endpoints k).replies.append (carries_replies hreplies)).imp
          fun f id _ hf => hf.keep (hkeep id)
    · have hlinks : (m.outside.setLink which link).links k = m.outside.links k :=
        Function.update_of_ne hk _ _
      rw [hlinks]
      exact (h.endpoints k).keep (hsame k hk) (fun _ _ => hkeep _) fun _ _ hnot => hnot
  · intro client
    refine (h.clients client).keep h.loop.last rfl rfl (fun _ _ hid => hid) ?_ fun _ _ => hkeep _
    intro k id hmem
    by_cases hk : k = which
    · subst hk
      simp only [WorkLoop.setStream, Function.update_self, unanswered, List.mem_append] at hmem ⊢
      rcases hmem with hleft | hold | hdone
      · exact .inl (List.diff_subset _ _ hleft)
      · exact .inr hold
      · exact .inl (hperm.mem_iff.mpr (by simp [Places.all, hdown, hdone]))
    · rwa [unanswered_of_sameContent (hsame k hk)] at hmem

lemma relayReads2_answers (h : MeshHolds env tid m) {link : Link} {chunk : List UInt8}
    {fresh : Mem UInt8} {replies : List (List UInt8)}
    (hstep : (m.outside.links which).relayReads2 chunk fresh = some (link, replies)) :
    MeshHolds env tid
      { loop := m.loop.setStream which
          (replies.foldl ProviderStream.deliver (m.loop.streams which))
        outside := m.outside.setLink which link } ∧
    ∃ es, AreAnswers which es ∧ Run (LoopStepIf env startTime (TakesTurns env)) (shared, m.loop) es
      (shared, m.loop.setStream which
        (replies.foldl ProviderStream.deliver (m.loop.streams which))) := by
  obtain ⟨p, hlink, hperm, hfresh⟩ := (h.endpoints which).places
  obtain ⟨done, left, hdown, hreplies, hnew⟩ := hlink.relayReads2 hstep
  have hopen : (m.loop.streams which).connection = .established := by
    apply (h.endpoints which).relayed
    intro hnone
    rw [Link.relayReads2, hnone] at hstep
    exact absurd hstep (by simp)
  have hnodup : p.all.Nodup := hperm.nodup_iff.mp
    (List.nodup_append.mp (h.loop.distinct.nodup which)).1
  have hdone : done.Nodup := by
    rw [Places.all, hdown] at hnodup
    exact (List.nodup_append.mp (List.nodup_append.mp hnodup).2.1).1
  obtain ⟨es, hes, hrun⟩ := answers_run startTime shared hreplies hdone m.loop hopen
    (fun id hid => hperm.mem_iff.mpr (by simp [Places.all, hdown, hid]))
  exact ⟨meshHolds_delivered h hperm hfresh hdown hreplies hnew hopen (loopHolds_run h.loop hrun),
    es, hes, hrun⟩

end

end MeshAgent.Proofs

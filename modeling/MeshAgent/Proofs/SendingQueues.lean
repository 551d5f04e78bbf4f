import MeshAgent.Model.SendingMesh
import MeshAgent.Proofs.MeshComplete
import MeshAgent.Proofs.WriteQueue

/-!
# What the streams have still to take

What a stream is still to transmit is added to what it has transmitted. Seen so, a callback
writes all its bytes at once, and a transmission changes nothing.
-/

namespace MeshAgent.Proofs
open MeshAgent.Foundations MeshAgent.Model

/-- The responses that have been written to a client. -/
def responsesTo (client : Nat) (writes : List UvWrite) : List (List UInt8) :=
  (writes.filter fun q => q.stream = .client client).map UvWrite.built

/-- The link once it has also been sent what is queued. -/
def withQueued (bytes : List UInt8) (link : Link) : Link :=
  { link with requests := link.requests ++ bytes }

/-- What lies beyond an event loop, as if its streams had taken all bytes at once. -/
def allSent (writes : List UvWrite) (o : Outside) : Outside :=
  { o with
    links := fun which => withQueued (unsentTo (.provider which) writes) (o.links which)
    got := fun client => responsesTo client writes }

def asCopied (m : SendingLoop) : MeshLoop := ⟨m.loop, allSent m.writes m.outside⟩

/-- The streams that a callback gives up. -/
def endsStream : Event → SendStream → Bool
  | .providerEnd which, .provider endpoint => endpoint = which
  | .connectFailed which, .provider endpoint => endpoint = which
  | .clientEnd client _, .client client' => client' = client
  | _, _ => false

section

variable {env : Environment} {startTime : Int} {shared shared' : Shared} {loop loop' : WorkLoop}
  {e : Event} {q q' : UvWrite} {writes new : List UvWrite} {o : Outside} {stream : SendStream}
  {b : Build} {i : Nat} {m m' : SendingLoop}

@[simp] lemma unsentTo_nil (stream : SendStream) : unsentTo stream [] = [] := rfl

lemma unsentTo_append (stream : SendStream) (writes new : List UvWrite) :
    unsentTo stream (writes ++ new) = unsentTo stream writes ++ unsentTo stream new := by
  simp [unsentTo]

lemma unsentTo_cons (stream : SendStream) (q : UvWrite) (writes : List UvWrite) :
    unsentTo stream (q :: writes) =
      (if q.stream = stream then q.unsent else []) ++ unsentTo stream writes := by
  by_cases hq : q.stream = stream <;> simp [unsentTo, hq]

lemma responsesTo_append (client : Nat) (writes new : List UvWrite) :
    responsesTo client (writes ++ new) = responsesTo client writes ++ responsesTo client new := by
  simp [responsesTo]

lemma exists_of_unsentTo_ne_nil (h : unsentTo stream writes ≠ []) :
    ∃ q ∈ writes, q.stream = stream ∧ q.unsent ≠ [] := by
  by_contra hnone
  push Not at hnone
  refine h (List.flatMap_eq_nil_iff.mpr ?_)
  intro q hq
  rw [List.mem_filter, decide_eq_true_eq] at hq
  exact hnone q hq.1 hq.2

lemma unsent_ne_nil_iff : q.unsent ≠ [] ↔ Unfinished q := by
  simp [UvWrite.unsent, Unfinished]

lemma newWrites_fresh (hq : q ∈ newWrites env shared loop e) :
    q.status = .queued ∧ q.sent = [] := by
  cases e with
  | clientRead =>
    simp only [newWrites] at hq
    split at hq
    · simp at hq
    split at hq
    · split at hq
      · simp at hq
      · rw [List.mem_singleton.mp hq]
        exact ⟨rfl, rfl⟩
    · simp at hq
  | replyPass =>
    simp only [newWrites] at hq
    split at hq
    · simp at hq
    split at hq
    · split at hq
      · simp at hq
      split at hq
      · simp at hq
      · rw [List.mem_singleton.mp hq]
        exact ⟨rfl, rfl⟩
    · simp at hq
  | _ => simp [newWrites] at hq

lemma unsent_of_fresh (hqueued : q.status = .queued) (hsent : q.sent = []) :
    q.unsent = q.built := by
  simp [UvWrite.unsent, hqueued, hsent]

lemma failsAt_eq (e : Event) (q : UvWrite) : q.failsAt e = endsStream e q.stream := by
  cases e <;> cases hbuffer : q.buffer <;>
    simp [UvWrite.failsAt, UvWrite.stream, endsStream, hbuffer]

@[simp] lemma stream_afterCallback (e : Event) (q : UvWrite) :
    (q.afterCallback e).stream = q.stream := by
  unfold UvWrite.afterCallback
  split <;> rfl

@[simp] lemma built_afterCallback (e : Event) (q : UvWrite) :
    (q.afterCallback e).built = q.built := by
  unfold UvWrite.afterCallback
  split <;> rfl

lemma unsent_afterCallback (e : Event) (q : UvWrite) :
    (q.afterCallback e).unsent = if endsStream e q.stream then [] else q.unsent := by
  unfold UvWrite.afterCallback
  rw [failsAt_eq]
  by_cases hends : endsStream e q.stream = true
  · by_cases hqueued : q.status = .queued <;> simp [UvWrite.unsent, hends, hqueued]
  · simp [hends]

lemma unsentTo_afterCallback (e : Event) (stream : SendStream) (writes : List UvWrite) :
    unsentTo stream (writes.map (UvWrite.afterCallback e)) =
      if endsStream e stream then [] else unsentTo stream writes := by
  induction writes with
  | nil => simp
  | cons q writes ih =>
    rw [List.map_cons, unsentTo_cons, unsentTo_cons, ih, stream_afterCallback, unsent_afterCallback]
    by_cases hq : q.stream = stream
    · subst hq
      by_cases hends : endsStream e q.stream = true <;> simp [hends]
    · simp [hq]

lemma responsesTo_afterCallback (e : Event) (client : Nat) (writes : List UvWrite) :
    responsesTo client (writes.map (UvWrite.afterCallback e)) = responsesTo client writes := by
  induction writes with
  | nil => rfl
  | cons q writes ih =>
    simp only [responsesTo, List.map_cons, List.filter_cons, stream_afterCallback] at ih ⊢
    split
    · simp only [List.map_cons, built_afterCallback, ih]
    · exact ih

lemma responsesTo_set (client : Nat) (hi : writes[i]? = some q) (hstream : q'.stream = q.stream)
    (hbuilt : q'.built = q.built) :
    responsesTo client (writes.set i q') = responsesTo client writes := by
  induction writes generalizing i with
  | nil => rfl
  | cons first writes ih =>
    cases i with
    | zero =>
      rw [List.getElem?_cons_zero, Option.some.injEq] at hi
      subst hi
      simp [responsesTo, List.filter_cons, hstream, apply_ite (List.map UvWrite.built), hbuilt]
    | succ i =>
      rw [List.getElem?_cons_succ] at hi
      have hrest := ih hi
      simp only [responsesTo, List.set_cons_succ, List.filter_cons] at hrest ⊢
      split
      · rw [List.map_cons, List.map_cons, hrest]
      · exact hrest

lemma unsentTo_split (stream : SendStream) (hi : writes[i]? = some q) :
    unsentTo stream writes = unsentTo stream (writes.take i) ++
      ((if q.stream = stream then q.unsent else []) ++ unsentTo stream (writes.drop (i + 1))) := by
  obtain ⟨hlt, rfl⟩ := List.getElem?_eq_some_iff.mp hi
  conv_lhs => rw [← List.take_append_drop i writes, List.drop_eq_getElem_cons hlt]
  rw [unsentTo_append, unsentTo_cons]

lemma unsentTo_set (stream : SendStream) (hi : writes[i]? = some q)
    (hstream : q'.stream = q.stream) :
    unsentTo stream (writes.set i q') = unsentTo stream (writes.take i) ++
      ((if q.stream = stream then q'.unsent else []) ++ unsentTo stream (writes.drop (i + 1))) := by
  obtain ⟨hlt, -⟩ := List.getElem?_eq_some_iff.mp hi
  have hset : (writes.set i q')[i]? = some q' := by
    rw [List.getElem?_set_self hlt]
  rw [unsentTo_split stream hset, hstream, List.take_set_of_le (Nat.le_refl i),
    List.drop_set_of_lt (Nat.lt_succ_self i)]

lemma links_allSent (writes : List UvWrite) (o : Outside) (which : Nat) :
    (allSent writes o).links which =
      withQueued (unsentTo (.provider which) writes) (o.links which) := rfl

lemma allSent_eq {writes' : List UvWrite} {o' : Outside}
    (hlinks : ∀ which, withQueued (unsentTo (.provider which) writes') (o'.links which) =
      (allSent writes o).links which)
    (hgot : ∀ client, responsesTo client writes' = responsesTo client writes)
    (hrequest : o'.request = o.request) (hasked : o'.asked = o.asked)
    (hexecuted : o'.executed = o.executed) : allSent writes' o' = allSent writes o := by
  simp only [allSent, Outside.mk.injEq]
  exact ⟨funext hlinks, hrequest, hasked, funext hgot, hexecuted⟩

lemma allSent_noteRequest (writes : List UvWrite) (o : Outside) :
    allSent writes (o.noteRequest env shared loop e) =
      (allSent writes o).noteRequest env shared loop e := by
  unfold Outside.noteRequest
  split <;> rfl

lemma allSent_setLink (writes : List UvWrite) (o : Outside) (which : Nat) (link : Link) :
    allSent writes (o.setLink which link) = (allSent writes o).setLink which
      (withQueued (unsentTo (.provider which) writes) link) := by
  simp only [allSent, Outside.setLink, Outside.mk.injEq, and_self, and_true]
  funext k
  by_cases hk : k = which
  · subst hk
    simp only [Function.update_self]
  · simp only [Function.update_of_ne hk]

lemma allSent_snoc (hqueued : q.status = .queued) (hsent : q.sent = []) :
    allSent (writes ++ [q]) o = (allSent writes o).copyWrite q := by
  have hunsent : ∀ stream, unsentTo stream (writes ++ [q]) =
      unsentTo stream writes ++ if q.stream = stream then q.built else [] := by
    intro stream
    rw [unsentTo_append, unsentTo_cons, unsent_of_fresh hqueued hsent, unsentTo_nil,
      List.append_nil]
  have hgot : ∀ client, responsesTo client (writes ++ [q]) =
      responsesTo client writes ++ if q.stream = .client client then [q.built] else [] := by
    intro client
    rw [responsesTo_append]
    by_cases hq : q.stream = .client client <;> simp [responsesTo, hq]
  unfold Outside.copyWrite
  cases hstream : q.stream with
  | provider endpoint =>
    simp only [allSent, Outside.receive, Outside.setLink, Outside.mk.injEq, and_true, true_and]
    refine ⟨funext fun k => ?_, funext fun client => ?_⟩
    · rw [hunsent, hstream]
      by_cases hk : k = endpoint
      · subst hk
        simp only [Function.update_self, if_pos, withQueued, List.append_assoc]
      · rw [Function.update_of_ne hk, if_neg (by simp [Ne.symm hk]), List.append_nil]
    · rw [hgot, hstream, if_neg (by simp), List.append_nil]
  | client client =>
    simp only [allSent, Outside.receive, Outside.mk.injEq, and_true, true_and]
    refine ⟨funext fun k => ?_, funext fun k => ?_⟩
    · rw [hunsent, hstream, if_neg (by simp), List.append_nil]
    · rw [hgot, hstream]
      by_cases hk : k = client
      · subst hk
        rw [Function.update_self, if_pos rfl]
      · rw [Function.update_of_ne hk, if_neg (by simp [Ne.symm hk]), List.append_nil]

lemma allSent_append (hnew : ∀ q ∈ new, q.status = .queued ∧ q.sent = []) :
    allSent (writes ++ new) o = new.foldl Outside.copyWrite (allSent writes o) := by
  induction new generalizing writes with
  | nil => rw [List.append_nil, List.foldl_nil]
  | cons q new ih =>
    obtain ⟨hqueued, hsent⟩ := hnew q (by simp)
    rw [List.append_cons, ih fun q' hq' => hnew q' (by simp [hq']), allSent_snoc hqueued hsent,
      List.foldl_cons]

/-- What is on its way and what is queued is lost together. -/
lemma allSent_dropLink (e : Event) (writes : List UvWrite) (o : Outside) :
    allSent (writes.map (UvWrite.afterCallback e)) (o.dropLink e) =
      (allSent writes o).dropLink e := by
  have hgot : ∀ client, responsesTo client (writes.map (UvWrite.afterCallback e)) =
      responsesTo client writes := fun client => responsesTo_afterCallback e client writes
  have hkeep : (∀ which, endsStream e (.provider which) = false) →
      allSent (writes.map (UvWrite.afterCallback e)) o = allSent writes o := by
    intro hends
    refine allSent_eq (fun which => ?_) hgot rfl rfl rfl
    rw [unsentTo_afterCallback, hends which]
    rfl
  have hdrop : ∀ which, (∀ k, endsStream e (.provider k) = decide (k = which)) →
      allSent (writes.map (UvWrite.afterCallback e)) (o.setLink which .empty) =
        (allSent writes o).setLink which .empty := by
    intro which hends
    rw [allSent_setLink, unsentTo_afterCallback, hends which]
    simp only [allSent, Outside.setLink, Outside.mk.injEq, true_and, and_true]
    refine ⟨funext fun k => ?_, funext hgot⟩
    by_cases hk : k = which
    · subst hk
      simp [Link.empty, withQueued]
    · simp [unsentTo_afterCallback, hends, hk]
  unfold Outside.dropLink
  cases e with
  | providerEnd which => exact hdrop which fun _ => rfl
  | connectFailed which => exact hdrop which fun _ => rfl
  | _ => exact hkeep fun _ => rfl

lemma unsentTo_receive {bytes : List UInt8} (hi : writes[i]? = some q)
    (hstream : q'.stream = q.stream) (hfirst : unsentTo q.stream (writes.take i) = [])
    (hbytes : q.unsent = bytes ++ q'.unsent) (stream : SendStream) :
    unsentTo stream writes =
      (if q.stream = stream then bytes else []) ++ unsentTo stream (writes.set i q') := by
  rw [unsentTo_split stream hi, unsentTo_set stream hi hstream]
  by_cases hq : q.stream = stream
  · subst hq
    simp only [if_true, hfirst, hbytes, List.nil_append, List.append_assoc]
  · simp only [if_neg hq, List.nil_append]

lemma allSent_receive {bytes : List UInt8} (hi : writes[i]? = some q)
    (hstream : q'.stream = q.stream) (hbuilt : q'.built = q.built)
    (hfirst : unsentTo q.stream (writes.take i) = []) (hbytes : q.unsent = bytes ++ q'.unsent) :
    allSent (writes.set i q') (o.receive bytes q.stream) = allSent writes o := by
  have hunsent := unsentTo_receive hi hstream hfirst hbytes
  have hgot := fun client => responsesTo_set client hi hstream hbuilt
  cases hq : q.stream with
  | provider endpoint =>
    refine allSent_eq (fun which => ?_) hgot rfl rfl rfl
    rw [links_allSent, hunsent, hq]
    by_cases hw : which = endpoint
    · subst hw
      simp [Outside.receive, Outside.setLink, withQueued]
    · simp [Outside.receive, Outside.setLink, hw, Ne.symm hw]
  | client client =>
    refine allSent_eq (fun which => ?_) hgot rfl rfl rfl
    rw [links_allSent, hunsent, hq, if_neg (by simp)]
    rfl

/-! ### Steps of the relays and of Dubbo -/

section

variable {link link' : Link} {chunk bytes : List UInt8} {fresh : Mem UInt8}

lemma relayStarts_withQueued {raw1 raw2 : Mem UInt8} (h : link.relayStarts raw1 raw2 = some link') :
    (withQueued bytes link).relayStarts raw1 raw2 = some (withQueued bytes link') := by
  rw [Link.relayStarts] at h ⊢
  cases hrelay : link.relay with
  | some relay => simp [hrelay] at h
  | none =>
    simp only [hrelay, Option.some.injEq] at h
    simp only [withQueued, hrelay, ← h]

lemma relayReads1_withQueued (h : link.relayReads1 b chunk fresh = some link') :
    (withQueued bytes link).relayReads1 b chunk fresh = some (withQueued bytes link') := by
  rw [Link.relayReads1] at h ⊢
  cases hrelay : link.relay with
  | none => simp [hrelay] at h
  | some relay =>
    simp only [hrelay, Option.ite_none_left_eq_some, not_or, not_not] at h
    obtain ⟨⟨hne, hroom, hpre⟩, h⟩ := h
    have hpre' : chunk <+: link.requests ++ bytes :=
      hpre.trans (List.prefix_append _ _)
    simp only [withQueued, hrelay]
    rw [if_neg (by simp only [not_or, not_not]; exact ⟨hne, hroom, hpre'⟩)]
    split at h
    · simp at h
    · next hread =>
      cases h
      simp only [List.drop_append_of_le_length hpre.length_le]

lemma dubboReads_withQueued (h : link.dubboReads = some link') :
    (withQueued bytes link).dubboReads = some (withQueued bytes link') := by
  rw [Link.dubboReads] at h ⊢
  simp only [withQueued]
  split at h
  · simp at h
  · cases h
    rfl

lemma dubboAnswers_withQueued {i : Nat} {result package : List UInt8}
    (h : link.dubboAnswers i result = some (link', package)) :
    (withQueued bytes link).dubboAnswers i result = some (withQueued bytes link', package) := by
  rw [Link.dubboAnswers] at h ⊢
  simp only [withQueued]
  split at h
  · simp at h
  · cases h
    rfl

lemma relayReads2_withQueued {replies : List (List UInt8)}
    (h : link.relayReads2 chunk fresh = some (link', replies)) :
    (withQueued bytes link).relayReads2 chunk fresh = some (withQueued bytes link', replies) := by
  rw [Link.relayReads2] at h ⊢
  cases hrelay : link.relay with
  | none => simp [hrelay] at h
  | some relay =>
    simp only [hrelay] at h
    simp only [withQueued, hrelay]
    split at h
    · simp at h
    next hguard =>
    rw [if_neg hguard]
    split at h
    · simp at h
    · cases h
      rfl

end

lemma copiedStep_of_beyond {m : MeshLoop} {event : MeshEvent} {r : Shared × MeshLoop}
    (h : m.beyond b shared event = some r) :
    m.copiedStep b env startTime shared event = some r := by
  cases event with
  | agent e => simp [MeshLoop.beyond] at h
  | _ => exact h

lemma beyond_step (writes : List UvWrite) {event : MeshEvent} {o' : Outside}
    (h : (⟨loop, o⟩ : MeshLoop).beyond b shared event = some (shared', ⟨loop', o'⟩)) :
    shared' = shared ∧ o'.got = o.got ∧ loop'.evLoop = loop.evLoop ∧
      loop'.closing = loop.closing ∧ loop'.accepted = loop.accepted ∧
      (⟨loop, allSent writes o⟩ : MeshLoop).beyond b shared event =
        some (shared', ⟨loop', allSent writes o'⟩) := by
  cases event with
  | agent e => simp [MeshLoop.beyond] at h
  | relayStarts which raw1 raw2 =>
    simp only [MeshLoop.beyond, Option.ite_none_left_eq_some] at h ⊢
    obtain ⟨hopen, h⟩ := h
    obtain ⟨link, hlink, hm⟩ := Option.map_eq_some_iff.mp h
    cases hm
    refine ⟨rfl, rfl, rfl, rfl, rfl, hopen, ?_⟩
    rw [links_allSent, relayStarts_withQueued hlink, Option.map_some, allSent_setLink]
  | relayReads1 which chunk fresh =>
    obtain ⟨link, hlink, hm⟩ := Option.map_eq_some_iff.mp h
    cases hm
    refine ⟨rfl, rfl, rfl, rfl, rfl, ?_⟩
    rw [MeshLoop.beyond, links_allSent, relayReads1_withQueued hlink, Option.map_some,
      allSent_setLink]
  | dubboReads which =>
    obtain ⟨link, hlink, hm⟩ := Option.map_eq_some_iff.mp h
    cases hm
    refine ⟨rfl, rfl, rfl, rfl, rfl, ?_⟩
    rw [MeshLoop.beyond, links_allSent, dubboReads_withQueued hlink, Option.map_some,
      allSent_setLink]
  | dubboAnswers which i result =>
    obtain ⟨⟨link, package⟩, hlink, hm⟩ := Option.map_eq_some_iff.mp h
    cases hm
    refine ⟨rfl, rfl, rfl, rfl, rfl, ?_⟩
    rw [MeshLoop.beyond, links_allSent, dubboAnswers_withQueued hlink, Option.map_some,
      ← allSent_setLink]
    rfl
  | relayReads2 which chunk fresh =>
    obtain ⟨⟨link, replies⟩, hlink, hm⟩ := Option.map_eq_some_iff.mp h
    cases hm
    refine ⟨rfl, rfl, rfl, rfl, rfl, ?_⟩
    rw [MeshLoop.beyond, links_allSent, relayReads2_withQueued hlink, Option.map_some,
      allSent_setLink]

end

end MeshAgent.Proofs

import Mathlib.Algebra.Order.BigOperators.Group.Finset
import Mathlib.Algebra.Order.Monoid.Prod
import Mathlib.Data.Prod.Lex
import MeshAgent.Proofs.MeshComplete

/-!
# What is still on its way

A delivery takes something from one of the places between a client and Dubbo, and adds only to
places that are nearer to the client of the answer. So it lowers the amounts at these places,
if they are compared from the farthest one on.
-/

namespace MeshAgent.Proofs
open MeshAgent.Foundations MeshAgent.Model

/-- The steps that move on what is on its way: nothing is asked and nothing is given up. -/
def Delivers : MeshEvent → Prop
  | .relayStarts .. | .relayReads1 .. | .dubboReads _ | .relayReads2 .. => True
  | .dubboAnswers _ _ result => result.length ≤ 99
  | .agent (.replyRead ..) | .agent (.replyPass _) => True
  | .agent _ => False

/-- The amounts at the places between a client and Dubbo, the farthest place first. -/
abbrev Rank := ℕ ×ₗ ℕ ×ₗ ℕ ×ₗ ℕ ×ₗ ℕ ×ₗ ℕ ×ₗ ℕ

def rankOf (unstarted requests packages received results inbound buffered : Nat) : Rank :=
  toLex (unstarted, toLex (requests, toLex (packages, toLex (received, toLex (results,
    toLex (inbound, buffered))))))

lemma rankOf_lt_iff {a b c d e f g a' b' c' d' e' f' g' : Nat} :
    rankOf a b c d e f g < rankOf a' b' c' d' e' f' g' ↔ a < a' ∨ a = a' ∧ (b < b' ∨ b = b' ∧
      (c < c' ∨ c = c' ∧ (d < d' ∨ d = d' ∧ (e < e' ∨ e = e' ∧ (f < f' ∨ f = f' ∧ g < g'))))) := by
  simp only [rankOf, Prod.Lex.toLex_lt_toLex]

lemma rankOf_add (a b c d e f g a' b' c' d' e' f' g' : Nat) :
    rankOf a b c d e f g + rankOf a' b' c' d' e' f' g' =
      rankOf (a + a') (b + b') (c + c') (d + d') (e + e') (f + f') (g + g') := rfl

/-- What is on its way at one connection; `inbound` are its unread replies. -/
def linkRank (link : Link) (inbound : List UInt8) : Rank :=
  rankOf (if link.relay.isSome then 0 else 1) link.requests.length link.packages.length
    link.received.length link.results.length inbound.length 0

/-- What the reply loop that runs may still take off its buffer. -/
def readingRank (loop : WorkLoop) : Rank :=
  rankOf 0 0 0 0 0 0 (loop.reading.elim 0 fun which =>
    (loop.evLoop.server.endpointServers which).sizeOfRawArray + 1)

/-- What is on its way at the connections below `n` of a loop. -/
def loopRank (n : Nat) (m : MeshLoop) : Rank :=
  ∑ which ∈ Finset.range n, linkRank (m.outside.links which) (m.loop.streams which).inbound +
    readingRank m.loop

def meshRank (n : Nat) (m : CopiedMesh) : Rank :=
  ∑ tid ∈ Finset.range eventLoopNum, loopRank n (m.meshLoop tid)

section

variable {link link' : Link} {inbound inbound' chunk : List UInt8}

lemma length_drop_prefix {bytes : List UInt8} (hne : chunk ≠ []) (h : chunk <+: bytes) :
    (bytes.drop chunk.length).length < bytes.length := by
  have hpos := List.length_pos_iff.mpr hne
  have hle := h.length_le
  rw [List.length_drop]
  omega

lemma linkRank_relayStarts {raw1 raw2 : Mem UInt8} (h : link.relayStarts raw1 raw2 = some link') :
    linkRank link' inbound < linkRank link inbound := by
  rw [Link.relayStarts] at h
  split at h
  · simp at h
  · next hrelay =>
    cases h
    simp [linkRank, rankOf_lt_iff, hrelay]

lemma linkRank_relayReads1 {b : Build} {fresh : Mem UInt8}
    (h : link.relayReads1 b chunk fresh = some link') :
    linkRank link' inbound < linkRank link inbound := by
  rw [Link.relayReads1] at h
  split at h
  · simp at h
  next relay hrelay =>
  rw [Option.ite_none_left_eq_some] at h
  obtain ⟨hguard, h⟩ := h
  simp only [not_or, not_not] at hguard
  have hless := length_drop_prefix hguard.1 hguard.2.2
  split at h
  · simp at h
  · cases h
    exact rankOf_lt_iff.mpr (.inr ⟨by simp [hrelay], .inl hless⟩)

lemma linkRank_dubboReads (h : link.dubboReads = some link') :
    linkRank link' inbound < linkRank link inbound := by
  rw [Link.dubboReads] at h
  split at h
  · simp at h
  next n hnext =>
  cases h
  have hless : (link.packages.drop n).length < link.packages.length := by
    simp only [packageCode, lengthCode, Option.ite_none_left_eq_some, Option.some.injEq] at hnext
    rw [List.length_drop]
    omega
  exact rankOf_lt_iff.mpr (.inr ⟨rfl, .inr ⟨rfl, .inl hless⟩⟩)

lemma linkRank_dubboAnswers {i : Nat} {result package : List UInt8}
    (h : link.dubboAnswers i result = some (link', package)) :
    linkRank link' inbound < linkRank link inbound := by
  rw [Link.dubboAnswers] at h
  split at h
  · simp at h
  next received hreceived =>
  cases h
  obtain ⟨hi, -⟩ := List.getElem?_eq_some_iff.mp hreceived
  have hless : (link.received.eraseIdx i).length < link.received.length := by
    rw [List.length_eraseIdx_of_lt hi]
    omega
  exact rankOf_lt_iff.mpr (.inr ⟨rfl, .inr ⟨rfl, .inr ⟨rfl, .inl hless⟩⟩⟩)

lemma linkRank_relayReads2 {fresh : Mem UInt8} {replies : List (List UInt8)}
    (h : link.relayReads2 chunk fresh = some (link', replies)) :
    linkRank link' inbound' < linkRank link inbound := by
  rw [Link.relayReads2] at h
  split at h
  · simp at h
  next relay hrelay =>
  rw [Option.ite_none_left_eq_some] at h
  obtain ⟨hguard, h⟩ := h
  simp only [not_or, not_not] at hguard
  have hless := length_drop_prefix hguard.1 hguard.2.2
  split at h
  · simp at h
  · cases h
    exact rankOf_lt_iff.mpr (.inr ⟨by simp [hrelay],
      .inr ⟨rfl, .inr ⟨rfl, .inr ⟨rfl, .inl hless⟩⟩⟩⟩)

/-- Read bytes count less than unread ones. -/
lemma linkRank_replyRead (hless : inbound'.length < inbound.length) (size : Nat) :
    linkRank link inbound' + rankOf 0 0 0 0 0 0 size < linkRank link inbound := by
  rw [linkRank, linkRank, rankOf_add, rankOf_lt_iff]
  omega

end

section

variable {env : Environment} {startTime : Int} {shared shared' : Shared} {tid n which : Nat}
  {m m' : MeshLoop}

lemma loopRank_lt (hwhich : which < n)
    (hothers : ∀ k, k ≠ which → m'.outside.links k = m.outside.links k ∧
      (m'.loop.streams k).inbound = (m.loop.streams k).inbound)
    (hless : linkRank (m'.outside.links which) (m'.loop.streams which).inbound +
        readingRank m'.loop <
      linkRank (m.outside.links which) (m.loop.streams which).inbound + readingRank m.loop) :
    loopRank n m' < loopRank n m := by
  have hmem : which ∈ Finset.range n := Finset.mem_range.mpr hwhich
  have hsame : ∑ k ∈ (Finset.range n).erase which,
      linkRank (m'.outside.links k) (m'.loop.streams k).inbound =
        ∑ k ∈ (Finset.range n).erase which,
          linkRank (m.outside.links k) (m.loop.streams k).inbound := by
    apply Finset.sum_congr rfl
    intro k hk
    obtain ⟨hlinks, hinbound⟩ := hothers k (Finset.ne_of_mem_erase hk)
    rw [hlinks, hinbound]
  rw [loopRank, loopRank, ← Finset.sum_erase_add _ _ hmem, ← Finset.sum_erase_add _ _ hmem, hsame,
    add_assoc, add_assoc]
  gcongr

lemma loopRank_setLink (hwhich : which < n) {loop : WorkLoop} {o : Outside} {link : Link}
    {executed : List (List UInt8 × List UInt8)}
    (hless : linkRank link (loop.streams which).inbound <
      linkRank (o.links which) (loop.streams which).inbound) :
    loopRank n ⟨loop, { o.setLink which link with executed := executed }⟩ <
      loopRank n ⟨loop, o⟩ := by
  refine loopRank_lt hwhich ?_ ?_
  · intro k hk
    simp [Outside.setLink, hk]
  · simp only [Outside.setLink, Function.update_self]
    gcongr

lemma size_handledServer {server : EndpointServer} {stream : ProviderStream}
    (h : StreamFrames server stream) {lengthBody lastLength : Int}
    (hfound : bufferedFrame 12 0 server.rawArray server.sizeOfRawArray =
      some (lengthBody, lastLength)) :
    (handledServer server lastLength).sizeOfRawArray < server.sizeOfRawArray := by
  have hcap : defaultResponseSize = 4096 := rfl
  have hsize := h.size
  rcases buffered_cases h with hnone | ⟨f, rest, hframe, hcontent⟩
  · rw [bufferedFrame_of_next_eq_none (by decide) (by omega) hnone] at hfound
    exact absurd hfound (by simp)
  · have hle := hframe.1.le_length
    have hlength := Mem.length_of_read_append hcontent
    rw [bufferedFrame_of_frame hframe.1 (by decide) (by omega) hcontent, Option.some.injEq,
      Prod.mk.injEq] at hfound
    simp only [← hfound.2, handledServer, (takeOff_frame (by omega) hcontent).1]
    omega

/-- The connections that are reached have numbers below `n`, and what is not a request has
passed a relay. -/
structure LinksReached (n : Nat) (m : MeshLoop) : Prop where
  reached : ∀ which, (m.loop.streams which).connection = .established → which < n
  started : ∀ which, (m.outside.links which).relay = none →
    (m.outside.links which).packages = [] ∧ (m.outside.links which).received = [] ∧
      (m.outside.links which).results = []

lemma LinksReached.packages (h : LinksReached n m)
    (hne : (m.outside.links which).packages ≠ []) : (m.outside.links which).relay ≠ none :=
  fun hnone => hne (h.started which hnone).1

lemma LinksReached.received (h : LinksReached n m)
    (hne : (m.outside.links which).received ≠ []) : (m.outside.links which).relay ≠ none :=
  fun hnone => hne (h.started which hnone).2.1

lemma outside_replyPass {now : Int}
    (h : m.copiedAgent env startTime shared (.replyPass now) = some (shared', m')) :
    ∃ got, m'.outside = { m.outside with got := got } := by
  obtain ⟨-, loop', hcall, rfl⟩ := agent_eq h
  rcases replyPass_cases hcall with ⟨-, hnone⟩ | ⟨k, reply, -, hwrites⟩
  · exact ⟨m.outside.got, by rw [hnone]; rfl⟩
  · obtain ⟨got, ho, -⟩ := copyWrite_replies (o := m.outside) hwrites
    exact ⟨got, ho⟩

theorem loopRank_delivers {b : Build} {event : MeshEvent} (h : MeshHolds env tid m)
    (hreached : LinksReached n m) (hdelivers : Delivers event)
    (hstep : m.copiedStep b env startTime shared event = some (shared', m')) :
    loopRank n m' < loopRank n m := by
  have hopen : ∀ which, (m.outside.links which).relay ≠ none → which < n :=
    fun which hrelay => hreached.reached which ((h.endpoints which).relayed hrelay)
  cases event with
  | relayStarts which raw1 raw2 =>
    simp only [MeshLoop.copiedStep, MeshLoop.beyond, Option.ite_none_left_eq_some, not_not] at hstep
    obtain ⟨link, hlink, hm⟩ := Option.map_eq_some_iff.mp hstep.2
    cases hm
    exact loopRank_setLink (hreached.reached which hstep.1) (linkRank_relayStarts hlink)
  | relayReads1 which chunk fresh =>
    obtain ⟨link, hlink, hm⟩ := Option.map_eq_some_iff.mp hstep
    cases hm
    exact loopRank_setLink (hopen which (relay_of_relayReads1 hlink)) (linkRank_relayReads1 hlink)
  | dubboReads which =>
    obtain ⟨link, hlink, hm⟩ := Option.map_eq_some_iff.mp hstep
    cases hm
    refine loopRank_setLink (hopen which (hreached.packages ?_)) (linkRank_dubboReads hlink)
    intro hnil
    rw [Link.dubboReads, hnil, packageCode.next_nil] at hlink
    exact absurd hlink (by simp)
  | dubboAnswers which i result =>
    obtain ⟨⟨link, package⟩, hlink, hm⟩ := Option.map_eq_some_iff.mp hstep
    cases hm
    refine loopRank_setLink (hopen which (hreached.received ?_)) (linkRank_dubboAnswers hlink)
    intro hnil
    rw [Link.dubboAnswers, hnil] at hlink
    exact absurd hlink (by simp)
  | relayReads2 which chunk fresh =>
    obtain ⟨⟨link, replies⟩, hlink, hm⟩ := Option.map_eq_some_iff.mp hstep
    cases hm
    have hrelay : (m.outside.links which).relay ≠ none := by
      intro hnone
      rw [Link.relayReads2, hnone] at hlink
      exact absurd hlink (by simp)
    refine loopRank_lt (hopen which hrelay) ?_ ?_
    · intro k hk
      simp [Outside.setLink, WorkLoop.setStream, hk]
    · simp only [Outside.setLink, Function.update_self]
      exact add_lt_add_left (linkRank_relayReads2 hlink) _
  | agent e =>
    have hother := agent_eq hstep
    obtain ⟨-, loop', hcall, hm⟩ := hother
    cases e with
    | replyRead which chunk =>
      cases hm
      have hidle := idle_of_replyRead hcall
      have hne : chunk ≠ [] := by
        rintro rfl
        simp [WorkLoop.step, WorkLoop.replyRead] at hcall
      cases loopStep_of_step hcall with
      | replyRead established fits arrived =>
        refine loopRank_lt (hreached.reached which established) ?_ ?_
        · intro k hk
          simp [WorkLoop.setStream, hk, newWrites, Outside.dropLink, Outside.noteRequest,
            dispatched]
        · have hless := length_drop_prefix hne arrived
          have hnone : readingRank m.loop = 0 := by
            rw [readingRank, hidle]
            rfl
          simp only [WorkLoop.setStream, Function.update_self]
          rw [hnone, add_zero]
          exact linkRank_replyRead hless _
    | replyPass now =>
      obtain ⟨got, ho⟩ := outside_replyPass hstep
      have hloop : m'.loop = loop' := by rw [hm]
      have hrest : ∀ k, m'.outside.links k = m.outside.links k ∧
          (loop'.streams k).inbound = (m.loop.streams k).inbound := by
        intro k
        refine ⟨by rw [ho], ?_⟩
        cases loopStep_of_step hcall with
        | returned => rfl
        | handled => exact apply_update_of_eq ProviderStream.inbound m.loop.streams (by rfl) k
      have hless : readingRank loop' < readingRank m.loop := by
        cases loopStep_of_step hcall with
        | returned reading =>
          simp [readingRank, rankOf_lt_iff, reading]
        | @handled k _ _ _ _ _ reading found reply =>
          have hsize := size_handledServer (h.loop.frames k) found
          simp [readingRank, rankOf_lt_iff, reading, WorkLoop.setStream,
            EventLoop.setEndpoint, hsize]
      rw [loopRank, loopRank, hloop]
      simp only [(hrest _).1, (hrest _).2]
      gcongr
    | _ => exact absurd hdelivers (by simp [Delivers])

end

end MeshAgent.Proofs

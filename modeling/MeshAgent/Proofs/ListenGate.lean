import MeshAgent.Foundations.Tally
import MeshAgent.Proofs.ConsumerSteps
import MeshAgent.Proofs.RequestDispatch

/-!
# When the port is opened

`endpoint_connection_count` counts the connections that were ever established, and
`start_listen` is called when it reaches the number of endpoints. At that time all are
connected unless one has been lost before.
-/

namespace MeshAgent.Proofs
open MeshAgent.Foundations MeshAgent.Model

/-- A provider connection reaches its end. -/
def isProviderEnd : Event → Bool
  | .providerEnd _ => true
  | _ => false

/-- The number of provider connections that a loop has lost. -/
def lost (tid : Nat) (es : List (Nat × Event)) : Nat :=
  es.countP fun e => e.1 == tid && isProviderEnd e.2

def established (streams : Nat → ProviderStream) (which : Nat) : Bool :=
  decide ((streams which).connection = .established)

/-- The counter of a loop that has lost `lost` connections. -/
structure CountsConnections (n lost : Nat) (loop : WorkLoop) : Prop where
  status : ∀ which, (loop.evLoop.server.endpointServers which).connStatus = 0 ↔
    (loop.streams which).connection = .established
  known : ∀ which, (loop.streams which).connection = .established → which < n
  count : loop.evLoop.server.endpointConnectionCount = tally (established loop.streams) n + lost
  listen : loop.listenCalls =
    if (n : Int) ≤ loop.evLoop.server.endpointConnectionCount then 1 else 0

section

variable {env : Environment} {startTime : Int} {shared shared' : Shared} {n k : Nat}
  {loop loop' : WorkLoop} {e : Event}

lemma countsConnections_start (hn : 0 < n) (tid : Nat) (raw : Nat → Mem UInt8) :
    CountsConnections n 0 (startWorkEventLoop tid raw) where
  status which := by simp [startWorkEventLoop, initTcpServer]
  known which h := by simp [startWorkEventLoop] at h
  count := by
    rw [tally_eq_zero (p := established (startWorkEventLoop tid raw).streams) (fun _ _ => rfl)]
    rfl
  listen := by
    rw [if_neg]
    · rfl
    · simp only [startWorkEventLoop, initTcpServer]
      omega

lemma CountsConnections.congr (h : CountsConnections n k loop)
    (hstatus : ∀ which, (loop'.evLoop.server.endpointServers which).connStatus =
      (loop.evLoop.server.endpointServers which).connStatus)
    (hconnection : ∀ which, (loop'.streams which).connection = (loop.streams which).connection)
    (hcount : loop'.evLoop.server.endpointConnectionCount =
      loop.evLoop.server.endpointConnectionCount)
    (hlisten : loop'.listenCalls = loop.listenCalls) : CountsConnections n k loop' where
  status which := by
    rw [hstatus, hconnection]
    exact h.status which
  known which := by
    rw [hconnection]
    exact h.known which
  count := by
    have hsame : ∀ i, i < n → established loop'.streams i = established loop.streams i := by
      intro i _
      unfold established
      rw [hconnection]
    rw [hcount, h.count, tally_congr hsame]
  listen := by
    rw [hlisten, hcount]
    exact h.listen

lemma CountsConnections.retry (h : CountsConnections n k loop) {which : Nat}
    (hbefore : (loop.streams which).connection ≠ .established) :
    CountsConnections n k (loop.setStream which
      (makeConnectionToAgent (loop.evLoop.server.endpointServers which) (loop.streams which))) := by
  have hstatus : (loop.evLoop.server.endpointServers which).connStatus ≠ 0 :=
    fun hzero => hbefore ((h.status which).mp hzero)
  have hsame : ∀ i, ((Function.update loop.streams which ⟨.connecting, [], [], []⟩ i).connection =
      .established) ↔ (loop.streams i).connection = .established := by
    intro i
    by_cases hi : i = which
    · subst hi
      simp only [Function.update_self, hbefore, reduceCtorEq]
    · simp only [Function.update_of_ne hi]
  have htally : ∀ i, i < n → established (Function.update loop.streams which
      ⟨.connecting, [], [], []⟩) i = established loop.streams i := by
    intro i _
    unfold established
    simp only [hsame i]
  rw [makeConnectionToAgent, if_pos hstatus]
  exact
    { status := fun i => (h.status i).trans (hsame i).symm
      known := fun i hi => h.known i ((hsame i).mp hi)
      count := by
        change loop.evLoop.server.endpointConnectionCount = _
        rw [WorkLoop.setStream, tally_congr htally]
        exact h.count
      listen := h.listen }

lemma CountsConnections.connected (h : CountsConnections n k loop) {which : Nat}
    (hconnecting : (loop.streams which).connection = .connecting) (hknown : which < n) :
    CountsConnections n k
      { loop.setStream which { loop.streams which with connection := .established } with
        evLoop := (cAfterConnectToAAgent n which loop.evLoop).1
        listenCalls := loop.listenCalls +
          if (cAfterConnectToAAgent n which loop.evLoop).2 then 1 else 0 } := by
  have hbefore : established loop.streams which = false := by
    unfold established
    rw [hconnecting]
    rfl
  have hcount := h.count
  have hlisten := h.listen
  constructor
  · intro i
    by_cases hi : i = which
    · subst hi
      simp [cAfterConnectToAAgent, EventLoop.setEndpoint, WorkLoop.setStream]
    · simp only [cAfterConnectToAAgent, EventLoop.setEndpoint, WorkLoop.setStream,
        Function.update_of_ne hi]
      exact h.status i
  · intro i
    by_cases hi : i = which
    · exact fun _ => hi ▸ hknown
    · simp only [WorkLoop.setStream, Function.update_of_ne hi]
      exact h.known i
  · have hraise := tally_raise (q := established (Function.update loop.streams which
      { loop.streams which with connection := .established })) hknown hbefore
      (by simp [established])
      (fun i hi => by simp only [established, Function.update_of_ne hi])
    simp only [cAfterConnectToAAgent, EventLoop.setEndpoint, WorkLoop.setStream, hraise]
    push_cast
    omega
  · have hflag : (cAfterConnectToAAgent n which loop.evLoop).2 =
        decide (loop.evLoop.server.endpointConnectionCount + 1 = n) := rfl
    have hafter : (cAfterConnectToAAgent n which loop.evLoop).1.server.endpointConnectionCount =
        loop.evLoop.server.endpointConnectionCount + 1 := rfl
    simp only [hflag, hafter, hlisten, decide_eq_true_eq]
    split <;> split <;> split <;> omega

/-- A connection is lost, which the counter does not show. -/
lemma CountsConnections.providerEnd (h : CountsConnections n k loop) {which : Nat}
    (hestablished : (loop.streams which).connection = .established) :
    CountsConnections n (k + 1) { loop.setStream which ⟨.closing, [], [], []⟩ with
      evLoop := loop.evLoop.setEndpoint which
        { loop.evLoop.server.endpointServers which with connStatus := -1 } } := by
  have hbefore : established loop.streams which = true := by
    unfold established
    rw [hestablished]
    rfl
  have hknown := h.known which hestablished
  have hcount := h.count
  constructor
  · intro i
    by_cases hi : i = which
    · subst hi
      simp [EventLoop.setEndpoint, WorkLoop.setStream]
    · simp only [EventLoop.setEndpoint, WorkLoop.setStream, Function.update_of_ne hi]
      exact h.status i
  · intro i
    by_cases hi : i = which
    · exact fun _ => hi ▸ hknown
    · simp only [WorkLoop.setStream, Function.update_of_ne hi]
      exact h.known i
  · have hlower := tally_lower (q := established (Function.update loop.streams which
      ⟨.closing, [], [], []⟩)) hknown hbefore (by simp [established])
      (fun i hi => by simp only [established, Function.update_of_ne hi])
    simp only [EventLoop.setEndpoint, WorkLoop.setStream]
    push_cast
    omega
  · exact h.listen

lemma countsConnections_step (hends : shared.lb.numOfEnds = n) (h : CountsConnections n k loop)
    (hstep : LoopStep env startTime shared loop e shared' loop') :
    CountsConnections n (k + if isProviderEnd e then 1 else 0) loop' := by
  subst hends
  cases hstep with
  | connected connecting known => exact h.connected connecting known
  | providerEnd established => exact h.providerEnd established
  | reconnect closing => exact h.retry (by rw [closing]; decide)
  | connectFailed connecting => exact h.retry (by rw [connecting]; decide)
  | @dispatch client =>
    exact h.congr (fun _ => rfl)
      (apply_update_of_eq ProviderStream.connection _ (connection_write _ _)) rfl rfl
  | @handled _ _ _ _ _ evLoop _ _ reply =>
    have hserver := server_handleReply reply
    refine h.congr ?_ (apply_update_of_eq ProviderStream.connection _ rfl) ?_ rfl
    · rw [← hserver]
      exact apply_update_of_eq EndpointServer.connStatus _ (by rw [hserver]; rfl)
    · rw [← hserver]
      rfl
  | answer =>
    exact h.congr (fun _ => rfl)
      (apply_update_of_eq ProviderStream.connection _ rfl) rfl rfl
  | replyRead =>
    exact h.congr (apply_update_of_eq EndpointServer.connStatus _ rfl)
      (apply_update_of_eq ProviderStream.connection _ rfl) rfl rfl
  | admitted => exact h.congr (fun _ => rfl) (fun _ => rfl) rfl rfl
  | refuse => exact h
  | wait => exact h.congr (fun _ => rfl) (fun _ => rfl) rfl rfl
  | clientEnd => exact h.congr (fun _ => rfl) (fun _ => rfl) rfl rfl
  | closed => exact h.congr (fun _ => rfl) (fun _ => rfl) rfl rfl
  | returned => exact h.congr (fun _ => rfl) (fun _ => rfl) rfl rfl

lemma count_of_listen (hstep : LoopStep env startTime shared loop e shared' loop')
    (hlisten : loop.listenCalls < loop'.listenCalls) :
    isProviderEnd e = false ∧
      loop'.evLoop.server.endpointConnectionCount = shared.lb.numOfEnds := by
  cases hstep with
  | connected =>
    refine ⟨rfl, ?_⟩
    simp only [cAfterConnectToAAgent, decide_eq_true_eq] at hlisten ⊢
    split at hlisten
    · assumption
    · exact absurd hlisten (Nat.lt_irrefl _)
  | _ => exact absurd hlisten (Nat.lt_irrefl _)

end

lemma lost_append (tid : Nat) (es : List (Nat × Event)) (e : Nat × Event) :
    lost tid (es ++ [e]) = lost tid es + if e.1 = tid ∧ isProviderEnd e.2 = true then 1 else 0 := by
  rw [lost, List.countP_append, List.countP_singleton, lost]
  simp only [Bool.and_eq_true, beq_iff_eq]

lemma lost_eq_zero_iff {tid : Nat} {es : List (Nat × Event)} :
    lost tid es = 0 ↔ ∀ which, (tid, Event.providerEnd which) ∉ es := by
  rw [lost, List.countP_eq_zero]
  constructor
  · intro h which hmem
    have hnot := h _ hmem
    simp [isProviderEnd] at hnot
  · rintro h ⟨tid', e⟩ hmem hlost
    rw [Bool.and_eq_true, beq_iff_eq] at hlost
    obtain ⟨rfl, hend⟩ := hlost
    cases e with
    | providerEnd which => exact h which hmem
    | _ => exact absurd hend (by simp [isProviderEnd])

lemma countsConnections_run {env : Environment} {n : Nat} (hn : 0 < n) {startTime : Int}
    {raw : Nat → Nat → Mem UInt8} {es : List (Nat × Event)} {w : World}
    (h : Run (StepIf env (fun _ _ _ => True)) (consumer n startTime raw) es w) :
    w.shared.lb.numOfEnds = n ∧
      ∀ tid, tid < eventLoopNum → CountsConnections n (lost tid es) (w.loops tid) := by
  refine h.history (P := fun es w => w.shared.lb.numOfEnds = n ∧
    ∀ tid, tid < eventLoopNum → CountsConnections n (lost tid es) (w.loops tid)) ?_ ?_
  · exact ⟨rfl, fun tid _ => countsConnections_start hn tid _⟩
  · rintro es w e w' ⟨hends, hcounts⟩ ⟨hworld, -⟩
    obtain ⟨-, shared, loop, hloop, rfl⟩ := step_cases hworld
    refine ⟨(numOfEnds_step hloop).trans hends, ?_⟩
    intro tid htid
    rw [lost_append]
    by_cases he : tid = e.1
    · subst he
      simp only [Function.update_self, true_and]
      exact countsConnections_step hends (hcounts _ htid) hloop
    · simp only [Function.update_of_ne he, Ne.symm he, false_and, if_false]
      exact hcounts tid htid

/-- On each loop `start_listen` is called at most once, and when it is called all endpoints are
connected exactly if no provider connection of the loop has been lost before. -/
theorem startListen_connected_iff (env : Environment) (n : Nat) (hn : 0 < n) (startTime : Int)
    (raw : Nat → Nat → Mem UInt8) (es : List (Nat × Event)) (w : World)
    (h : Run (StepIf env (fun _ _ _ => True)) (consumer n startTime raw) es w) (tid : Nat)
    (htid : tid < eventLoopNum) :
    (w.loops tid).listenCalls ≤ 1 ∧
    ∀ e w', w.step env (tid, e) = some w' →
      (w.loops tid).listenCalls < (w'.loops tid).listenCalls →
      ((∀ i, i < n → ((w'.loops tid).evLoop.server.endpointServers i).connStatus = 0) ↔
        ∀ which, (tid, Event.providerEnd which) ∉ es) := by
  obtain ⟨hends, hcounts⟩ := countsConnections_run hn h
  constructor
  · rw [(hcounts tid htid).listen]
    split <;> omega
  · intro e w' hstep hlisten
    have hafter := (countsConnections_run hn (h.snoc ⟨hstep, trivial⟩)).2 tid htid
    obtain ⟨-, shared, loop, hloop, rfl⟩ := step_cases hstep
    simp only [Function.update_self] at hlisten hafter ⊢
    obtain ⟨hkept, hreached⟩ := count_of_listen hloop hlisten
    have hcount := hafter.count
    rw [lost_append, hkept, hreached, hends] at hcount
    simp only [Bool.false_eq_true, and_false, if_false, Nat.add_zero] at hcount
    have hstatus : (∀ i, i < n → (loop.evLoop.server.endpointServers i).connStatus = 0) ↔
        tally (established loop.streams) n = n := by
      rw [tally_eq_iff]
      simp only [hafter.status, established, decide_eq_true_eq]
    rw [hstatus, ← lost_eq_zero_iff]
    omega

/-- The connection of the second of two endpoints opens the port. -/
theorem startListen_connected_two :
    ∃ es w w', Run (StepIf (postEnvironment ['3']) (fun _ _ _ => True))
        (consumer 2 0 (fun _ _ _ => 0)) es w ∧
      w.step (postEnvironment ['3']) (0, .connected 0) = some w' ∧
      (w.loops 0).listenCalls < (w'.loops 0).listenCalls ∧
      ∀ i, i < 2 → ((w'.loops 0).evLoop.server.endpointServers i).connStatus = 0 := by
  have hrun : Run (StepIf (postEnvironment ['3']) (fun _ _ _ => True))
      (consumer 2 0 (fun _ _ _ => 0))
      [(0, .connectFailed 0), (1, .connected 0), (0, .connected 1)] _ :=
    (((Run.nil _).snoc ⟨rfl, trivial⟩).snoc ⟨rfl, trivial⟩).snoc ⟨rfl, trivial⟩
  exact ⟨_, _, _, hrun, rfl, by decide,
    ((startListen_connected_iff (postEnvironment ['3']) 2 (by decide) 0 (fun _ _ _ => 0) _ _ hrun 0
      (by decide)).2 (.connected 0) _ rfl (by decide)).mpr (fun _ => by simp)⟩

/-- Of two endpoints one is connected, lost and connected again, which opens the port. -/
theorem startListen_early :
    ∃ es w w', Run (StepIf (postEnvironment ['3']) (fun _ _ _ => True))
        (consumer 2 0 (fun _ _ _ => 0)) es w ∧
      w.step (postEnvironment ['3']) (0, .connected 0) = some w' ∧
      (w.loops 0).listenCalls < (w'.loops 0).listenCalls ∧
      ((w'.loops 0).evLoop.server.endpointServers 1).connStatus ≠ 0 := by
  have hrun : Run (StepIf (postEnvironment ['3']) (fun _ _ _ => True))
      (consumer 2 0 (fun _ _ _ => 0))
      [(0, .connected 0), (0, .providerEnd 0), (0, .reconnect 0)] _ :=
    (((Run.nil _).snoc ⟨rfl, trivial⟩).snoc ⟨rfl, trivial⟩).snoc ⟨rfl, trivial⟩
  exact ⟨_, _, _, hrun, rfl, by decide, by decide⟩

end MeshAgent.Proofs

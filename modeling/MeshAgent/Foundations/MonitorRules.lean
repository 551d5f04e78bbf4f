import MeshAgent.Foundations.Monitor

/-!
# Critical sections, signals and rest

What the threads do between taking and giving up the mutex is a step of its own, whatever the
other threads do meanwhile; the order of the sections is the order in which they end. No wakeup
is lost if every item that a section makes available brings the credit of one more thread that
will look for it.
-/

namespace MeshAgent.Foundations

variable {τ δ L ε : Type*} {program : L → Stmt δ L} {entry : L → Prop} {good : δ → Prop}
  {mid : L → δ → δ → Prop} {atomic : δ → ε → δ → Prop} {effect : L → List ε}

/-- The sections of a program: `mid l a d` is what holds at `l` when the data were `a` when the
mutex was taken and are `d` now. A section that ends at `l` has the effect `effect l`. -/
structure Sections (program : L → Stmt δ L) (entry : L → Prop) (good : δ → Prop)
    (mid : L → δ → δ → Prop) (atomic : δ → ε → δ → Prop) (effect : L → List ε) : Prop where
  entry : ∀ l, entry l → (program l).Outside
  reads : ∀ l next d, program l = .reads next → (program (next d)).Outside
  signal : ∀ l l', program l = .signal l' → (program l').Outside
  woken : ∀ l l', program l = .asleep l' → (program l').Outside
  lock : ∀ l l' a, program l = .lock l' → good a → mid l' a a
  update : ∀ l next a d, program l = .update next → good a → mid l a d →
    ∃ l' d', next d = some (l', d') ∧ mid l' a d'
  unlock : ∀ l l' a d, program l = .unlock l' → good a → mid l a d →
    (program l').Outside ∧ Run atomic a (effect l) d ∧ good d
  wait : ∀ l l' a d, program l = .wait l' → good a → mid l a d →
    (∃ w, program l' = .asleep w) ∧ Run atomic a (effect l) d ∧ good d
  inside : ∀ l a d, mid l a d → (program l).Inside
  silent : ∀ l, (∀ l', program l ≠ .unlock l' ∧ program l ≠ .wait l') → effect l = []

/-- `a` are the data as the sections that have ended left them. -/
structure Serial (program : L → Stmt δ L) (good : δ → Prop) (mid : L → δ → δ → Prop)
    (s : Threads τ δ L) (a : δ) : Prop where
  good : good a
  free : s.holder = none → s.data = a
  held : ∀ t, s.holder = some t → mid (s.point t) a s.data
  others : ∀ t, s.holder ≠ some t → ¬ (program (s.point t)).Inside

/-- The effects of an event, with the thread whose section has them. -/
def ThreadEvent.effects (effect : L → List ε) : ThreadEvent τ L → List (τ × ε)
  | .exec t l | .signal t l _ => (effect l).map fun x => (t, x)
  | _ => []

lemma effects_snd (effect : L → List ε) (t : τ) (l : L) :
    ((ThreadEvent.exec t l).effects effect).map Prod.snd = effect l := by
  simp [ThreadEvent.effects]

def ofThread [DecidableEq τ] (t : τ) (effects : List (τ × ε)) : List ε :=
  effects.filterMap fun x => if x.1 = t then some x.2 else none

lemma ofThread_effects [DecidableEq τ] (effect : L → List ε) (t : τ)
    (es : List (ThreadEvent τ L)) :
    ofThread t (es.flatMap (·.effects effect)) = executedBy t effect es := by
  have hevent : ∀ e : ThreadEvent τ L, ofThread t (e.effects effect) =
      (e.executed t).flatMap effect := by
    intro e
    cases e with
    | start | spurious => rfl
    | exec u l | signal u l =>
      by_cases hu : u = t
      · simp [ofThread, ThreadEvent.effects, ThreadEvent.executed, hu, List.filterMap_map]
      · simp [ofThread, ThreadEvent.effects, ThreadEvent.executed, hu, List.filterMap_map]
  unfold ofThread at hevent ⊢
  rw [List.filterMap_flatMap]
  simp only [hevent]
  rfl

lemma Stmt.Outside.not_inside {stmt : Stmt δ L} (h : stmt.Outside) : ¬ stmt.Inside := by
  cases stmt with
  | update | unlock | wait => exact h.elim
  | idle | reads | lock | asleep | signal => exact id

variable {s s' : Threads τ δ L} {e : ThreadEvent τ L} {a : δ}

lemma serial_start {d : δ} {l : L} (hgood : good d) (hidle : program l = .idle) :
    Serial program good mid (startThreads d l : Threads τ δ L) d where
  good := hgood
  free := fun _ => rfl
  held := fun t h => by cases h
  others := fun t _ => by simp [startThreads, hidle, Stmt.Inside]

namespace Serial

lemma holder_ne (h : Serial program good mid s a) {t : τ} (ht : ¬ (program (s.point t)).Inside)
    (hsections : Sections program entry good mid atomic effect) : s.holder ≠ some t :=
  fun hholds => ht (hsections.inside _ _ _ (h.held t hholds))

lemma exclusive (h : Serial program good mid s a) {t u : τ} (ht : (program (s.point t)).Inside)
    (hu : (program (s.point u)).Inside) : t = u := by
  have htake : s.holder = some t := not_not.mp fun hne => h.others t hne ht
  have hutake : s.holder = some u := not_not.mp fun hne => h.others u hne hu
  rw [htake] at hutake
  exact Option.some.inj hutake

variable [DecidableEq τ]

lemma moves (h : Serial program good mid s a) {t : τ} {l : L} (ht : s.holder ≠ some t)
    (hl : ¬ (program l).Inside) : Serial program good mid (s.moves t l) a where
  good := h.good
  free := h.free
  held := by
    intro u hu
    rw [Threads.moves_of_ne (by rintro rfl; exact ht hu)]
    exact h.held u hu
  others := by
    intro u hu
    by_cases hut : u = t
    · subst hut
      rwa [Threads.moves_self]
    · rw [Threads.moves_of_ne hut]
      exact h.others u hu

lemma leaves (h : Serial program good mid s a) {t : τ} {l : L} (ht : s.holder = some t)
    (hl : ¬ (program l).Inside) (hgood : good s.data) :
    Serial program good mid { s.moves t l with holder := none } s.data where
  good := hgood
  free := fun _ => rfl
  held := fun u hu => by cases hu
  others := by
    intro u _
    by_cases hut : u = t
    · subst hut
      simpa using hl
    · simp only [Threads.moves_of_ne hut]
      exact h.others u (by rw [ht]; simpa using Ne.symm hut)

lemma continues (h : Serial program good mid s a) {t : τ} {l : L} {d : δ}
    (ht : ∀ u, u ≠ t → s.holder ≠ some u) (hmid : mid l a d) :
    Serial program good mid { s.moves t l with data := d, holder := some t } a where
  good := h.good
  free := fun hnone => by cases hnone
  held := by
    intro u hu
    cases hu
    simpa using hmid
  others := by
    intro u hu
    have hut : u ≠ t := by
      rintro rfl
      exact hu rfl
    simp only [Threads.moves_of_ne hut]
    exact h.others u (ht u hut)

end Serial

section

variable [DecidableEq τ]

/-- The data as the sections that have ended after an event left them. -/
def settled (program : L → Stmt δ L) (s : Threads τ δ L) (a : δ) : ThreadEvent τ L → δ
  | .exec _ l =>
    match program l with
    | .unlock _ | .wait _ => s.data
    | _ => a
  | _ => a

omit [DecidableEq τ] in
lemma settled_outside {t : τ} {l : L} (h : (program l).Outside) :
    settled program s a (.exec t l) = a := by
  cases hp : program l with
  | unlock | wait =>
    rw [hp] at h
    exact h.elim
  | idle | reads | lock | update | asleep | signal => simp only [settled, hp]

/-- One step is matched by the section that it ends, if it ends one. -/
theorem serial_step (hsections : Sections program entry good mid atomic effect)
    (h : Serial program good mid s a) (hstep : ThreadStep program entry s e s') :
    Run atomic a ((e.effects effect).map Prod.snd) (settled program s a e) ∧
      Serial program good mid s' (settled program s a e) := by
  have hsilent : ∀ {t : τ}, (program (s.point t)).Outside →
      effect (s.point t) = [] := by
    intro t ht
    refine hsections.silent _ fun l' => ⟨?_, ?_⟩
    · intro hp
      rw [hp] at ht
      exact ht
    · intro hp
      rw [hp] at ht
      exact ht
  cases hstep with
  | @start t l hp hl =>
    have ht : ¬ (program (s.point t)).Inside := by rw [hp]; exact id
    exact ⟨.nil a, h.moves (h.holder_ne ht hsections) (hsections.entry l hl).not_inside⟩
  | @reads t next hp =>
    have ht : (program (s.point t)).Outside := by rw [hp]; trivial
    rw [ThreadEvent.effects, hsilent ht, settled_outside ht]
    exact ⟨.nil a, h.moves (h.holder_ne ht.not_inside hsections)
      (hsections.reads _ _ _ hp).not_inside⟩
  | @lock t l hp hfree =>
    have ht : (program (s.point t)).Outside := by rw [hp]; trivial
    rw [ThreadEvent.effects, hsilent ht, settled_outside ht]
    have hdata : s.data = a := h.free hfree
    have hmid : mid l a s.data := by
      rw [hdata]
      exact hsections.lock _ _ a hp h.good
    exact ⟨.nil a, h.continues (fun u _ => by rw [hfree]; exact nofun) hmid⟩
  | @update t next l d hp hholds hnext =>
    obtain ⟨l', d', hnext', hmid⟩ := hsections.update _ _ a s.data hp h.good (h.held t hholds)
    have heff : effect (s.point t) = [] :=
      hsections.silent _ fun l' => by rw [hp]; exact ⟨nofun, nofun⟩
    have hset : settled program s a (.exec t (s.point t)) = a := by simp only [settled, hp]
    rw [hnext, Option.some.injEq, Prod.mk.injEq] at hnext'
    obtain ⟨rfl, rfl⟩ := hnext'
    rw [ThreadEvent.effects, heff, hset]
    have hcont := h.continues (fun u hut hu => hut (by rw [hholds] at hu; cases hu; rfl)) hmid
    rw [← hholds] at hcont
    exact ⟨.nil a, hcont⟩
  | @unlock t l hp hholds =>
    obtain ⟨hout, hrun, hgood⟩ := hsections.unlock _ _ a s.data hp h.good (h.held t hholds)
    have hset : settled program s a (.exec t (s.point t)) = s.data := by simp only [settled, hp]
    rw [hset, effects_snd]
    exact ⟨hrun, h.leaves hholds hout.not_inside hgood⟩
  | @wait t l hp hholds =>
    obtain ⟨⟨w, hasleep⟩, hrun, hgood⟩ := hsections.wait _ _ a s.data hp h.good (h.held t hholds)
    have hset : settled program s a (.exec t (s.point t)) = s.data := by simp only [settled, hp]
    rw [hset, effects_snd]
    exact ⟨hrun, h.leaves hholds (by rw [hasleep]; exact id) hgood⟩
  | @signalNone t l hp hnone =>
    have ht : (program (s.point t)).Outside := by rw [hp]; trivial
    rw [ThreadEvent.effects, hsilent ht, settled_outside ht]
    exact ⟨.nil a, h.moves (h.holder_ne ht.not_inside hsections)
      (hsections.signal _ _ hp).not_inside⟩
  | @signal t u l w hp hu =>
    have ht : (program (s.point t)).Outside := by rw [hp]; trivial
    have hu' : ¬ (program (s.point u)).Inside := by rw [hu]; exact id
    rw [ThreadEvent.effects, hsilent ht]
    exact ⟨.nil a, (h.moves (h.holder_ne ht.not_inside hsections)
      (hsections.signal _ _ hp).not_inside).moves (h.holder_ne hu' hsections)
      (hsections.woken _ _ hu).not_inside⟩
  | @spurious u w hu =>
    have hu' : ¬ (program (s.point u)).Inside := by rw [hu]; exact id
    exact ⟨.nil a, h.moves (h.holder_ne hu' hsections) (hsections.woken _ _ hu).not_inside⟩

/-- The sections of a run, in the order in which they end, are a run by themselves. What the
steps keep of the threads and of the data that the sections leave is kept. -/
theorem sections_run (hsections : Sections program entry good mid atomic effect)
    (keeps : Threads τ δ L → δ → Prop)
    (hkeeps : ∀ s e s' a, Serial program good mid s a → ThreadStep program entry s e s' →
      keeps s a → keeps s' (settled program s a e))
    {es : List (ThreadEvent τ L)} (h : Run (ThreadStep program entry) s es s')
    (hs : Serial program good mid s a) (hkept : keeps s a) :
    ∃ a', Run atomic a ((es.flatMap (·.effects effect)).map Prod.snd) a' ∧
      Serial program good mid s' a' ∧
      keeps s' a' := by
  induction h with
  | nil => exact ⟨a, .nil a, hs, hkept⟩
  | snoc _ hlast ih =>
    obtain ⟨b, hrun, hb, hkept'⟩ := ih
    obtain ⟨hrun', hserial⟩ := serial_step hsections hb hlast
    refine ⟨_, ?_, hserial, hkeeps _ _ _ _ hb hlast hkept'⟩
    rw [List.flatMap_append, List.flatMap_singleton, List.map_append]
    exact hrun.append hrun'

end

/-- `need a` items are available in the data `a`. Whoever makes one available, or wakes a
thread, has the credit for it; a thread waits only when no item is available. -/
structure Credits (program : L → Stmt δ L) (good : δ → Prop) (mid : L → δ → δ → Prop)
    (need : δ → Nat) (credit : L → Nat) : Prop where
  idle : ∀ l, program l = .idle → credit l = 0
  reads : ∀ l next d, program l = .reads next → credit l ≤ credit (next d)
  lock : ∀ l l', program l = .lock l' → credit l ≤ credit l'
  update : ∀ l next d l' d', program l = .update next → next d = some (l', d') →
    credit l ≤ credit l'
  unlock : ∀ l l' a d, program l = .unlock l' → good a → mid l a d →
    need d + credit l ≤ need a + credit l'
  wait : ∀ l l' a d, program l = .wait l' → good a → mid l a d → need d = 0
  signal : ∀ l l' m w, program l = .signal l' → program m = .asleep w →
    credit l + credit m ≤ credit l' + credit w
  woken : ∀ m w, program m = .asleep w → credit m ≤ credit w

def Asleep (program : L → Stmt δ L) (s : Threads τ δ L) : Prop :=
  ∃ u w, program (s.point u) = .asleep w

/-- While a thread is asleep there is credit for every item. -/
def Covered [Fintype τ] (program : L → Stmt δ L) (need : δ → Nat) (credit : L → Nat)
    (s : Threads τ δ L) (a : δ) : Prop :=
  Asleep program s → need a ≤ ∑ t, credit (s.point t)

section

variable {s s' : Threads τ δ L} {e : ThreadEvent τ L} {a a' : δ} {need : δ → Nat}
  {credit : L → Nat}

lemma Stmt.Outside.ne_asleep {stmt : Stmt δ L} (h : stmt.Outside) (w : L) : stmt ≠ .asleep w := by
  rintro rfl
  exact h

lemma Stmt.Inside.ne_asleep {stmt : Stmt δ L} (h : stmt.Inside) (w : L) : stmt ≠ .asleep w := by
  rintro rfl
  exact h

variable [DecidableEq τ]

lemma asleep_of_moves {t : τ} {l : L} (hl : ∀ w, program l ≠ .asleep w)
    (h : Asleep program (s.moves t l)) : Asleep program s := by
  obtain ⟨u, w, hu⟩ := h
  by_cases hut : u = t
  · subst hut
    rw [Threads.moves_self] at hu
    exact absurd hu (hl w)
  · rw [Threads.moves_of_ne hut] at hu
    exact ⟨u, w, hu⟩

variable [Fintype τ]

/-- A thread that moves settles with its credit for what becomes available. -/
lemma Covered.moves (h : Covered program need credit s a) {t : τ} {l : L}
    (hl : ∀ w, program l ≠ .asleep w) (hcredit : need a' + credit (s.point t) ≤ need a + credit l) :
    Covered program need credit (s.moves t l) a' := by
  intro hasleep
  have hbefore := h (asleep_of_moves hl hasleep)
  have hsum := Threads.sum_moves credit s t l
  omega

/-- No step loses a wakeup. -/
theorem covered_step (hsections : Sections program entry good mid atomic effect)
    (hcredits : Credits program good mid need credit) (hs : Serial program good mid s a)
    (hstep : ThreadStep program entry s e s') (h : Covered program need credit s a) :
    Covered program need credit s' (settled program s a e) := by
  cases hstep with
  | @start t l hp hl =>
    have hidle := hcredits.idle _ hp
    exact h.moves (hsections.entry l hl).ne_asleep (by rw [hidle]; exact Nat.le_add_right _ _)
  | @reads t next hp =>
    have hcredit := hcredits.reads _ _ s.data hp
    rw [settled_outside (by rw [hp]; trivial)]
    exact h.moves (hsections.reads _ _ _ hp).ne_asleep (by omega)
  | @lock t l hp hfree =>
    have hcredit := hcredits.lock _ _ hp
    have hinside := hsections.inside _ _ _ (hsections.lock _ _ a hp hs.good)
    rw [settled_outside (by rw [hp]; trivial)]
    exact h.moves hinside.ne_asleep (by omega)
  | @update t next l d hp hholds hnext =>
    have hcredit := hcredits.update _ _ _ _ _ hp hnext
    obtain ⟨l', d', hnext', hmid⟩ := hsections.update _ _ a s.data hp hs.good (hs.held t hholds)
    rw [hnext, Option.some.injEq, Prod.mk.injEq] at hnext'
    obtain ⟨rfl, rfl⟩ := hnext'
    have hset : settled program s a (.exec t (s.point t)) = a := by simp only [settled, hp]
    rw [hset]
    exact h.moves (hsections.inside _ _ _ hmid).ne_asleep (by omega)
  | @unlock t l hp hholds =>
    have hcredit := hcredits.unlock _ _ _ _ hp hs.good (hs.held t hholds)
    obtain ⟨hout, -⟩ := hsections.unlock _ _ a s.data hp hs.good (hs.held t hholds)
    have hset : settled program s a (.exec t (s.point t)) = s.data := by simp only [settled, hp]
    rw [hset]
    exact h.moves hout.ne_asleep hcredit
  | @wait t l hp hholds =>
    have hnone := hcredits.wait _ _ _ _ hp hs.good (hs.held t hholds)
    have hset : settled program s a (.exec t (s.point t)) = s.data := by simp only [settled, hp]
    rw [hset]
    intro _
    rw [hnone]
    exact Nat.zero_le _
  | @signalNone t l hp hnone =>
    rw [settled_outside (by rw [hp]; trivial)]
    rintro hasleep
    obtain ⟨u, w, hu⟩ := asleep_of_moves (hsections.signal _ _ hp).ne_asleep hasleep
    exact absurd hu (hnone u w)
  | @signal t u l w hp hu =>
    have hcredit := hcredits.signal _ _ _ _ hp hu
    have hut : u ≠ t := by
      rintro rfl
      rw [hp] at hu
      cases hu
    intro _
    have hbefore := h ⟨u, w, hu⟩
    have hfirst := Threads.sum_moves credit s t l
    have hsecond := Threads.sum_moves credit (s.moves t l) u w
    rw [Threads.moves_of_ne hut] at hsecond
    change need a ≤ _
    omega
  | @spurious u w hu =>
    have hcredit := hcredits.woken _ _ hu
    exact h.moves (hsections.woken _ _ hu).ne_asleep (by change need a + _ ≤ _; omega)

end

/-- Every statement lowers the height of its thread; only a signal may raise that of another
one, and a thread signals at most `signals` times more. -/
structure Ranked (program : L → Stmt δ L) (signals height : L → Nat) : Prop where
  leads : ∀ l l', (program l).Leads l' → (∀ m, program l ≠ .signal m) →
    signals l' ≤ signals l ∧ height l' < height l
  signal : ∀ l l', program l = .signal l' → signals l' < signals l ∧ height l' < height l
  woken : ∀ l w, program l = .asleep w → signals w ≤ signals l

/-- Every thread is between two calls or asleep. -/
def AtRest (program : L → Stmt δ L) (s : Threads τ δ L) : Prop :=
  ∀ t, program (s.point t) = .idle ∨ ∃ w, program (s.point t) = .asleep w

/-- A step of the calls that are being executed; no wait ends without a signal. -/
def Proceeds [DecidableEq τ] (program : L → Stmt δ L) (s : Threads τ δ L) (e : ThreadEvent τ L)
    (s' : Threads τ δ L) : Prop :=
  ThreadStep program (fun _ => False) s e s' ∧ ∀ u, e ≠ .spurious u

section

variable [DecidableEq τ] {s s' : Threads τ δ L} {e : ThreadEvent τ L} {a : δ}

lemma ThreadStep.mono {entry' : L → Prop} (himp : ∀ l, entry' l → entry l)
    (h : ThreadStep program entry' s e s') : ThreadStep program entry s e s' := by
  cases h with
  | start h hl => exact .start h (himp _ hl)
  | reads h => exact .reads h
  | lock h hfree => exact .lock h hfree
  | update h hholds hnext => exact .update h hholds hnext
  | unlock h hholds => exact .unlock h hholds
  | wait h hholds => exact .wait h hholds
  | signalNone h hnone => exact .signalNone h hnone
  | signal h hu => exact .signal h hu
  | spurious hu => exact .spurious hu

/-- Unless they are at rest, the threads can go on. -/
theorem proceeds_of_not_atRest (hsections : Sections program entry good mid atomic effect)
    (h : Serial program good mid s a) (hrest : ¬ AtRest program s) :
    ∃ e s', Proceeds program s e s' := by
  cases hholder : s.holder with
  | some t =>
    have hmid := h.held t hholder
    have hinside := hsections.inside _ _ _ hmid
    cases hp : program (s.point t) with
    | update next =>
      obtain ⟨l', d', hnext, -⟩ := hsections.update _ _ a s.data hp h.good hmid
      exact ⟨_, _, .update hp hholder hnext, nofun⟩
    | unlock l => exact ⟨_, _, .unlock hp hholder, nofun⟩
    | wait l => exact ⟨_, _, .wait hp hholder, nofun⟩
    | idle | reads | lock | asleep | signal =>
      rw [hp] at hinside
      exact hinside.elim
  | none =>
    unfold AtRest at hrest
    simp only [not_forall, not_or, not_exists] at hrest
    obtain ⟨t, hidle, hawake⟩ := hrest
    have hout := h.others t (by rw [hholder]; exact nofun)
    cases hp : program (s.point t) with
    | idle => exact absurd hp hidle
    | asleep w => exact absurd hp (hawake w)
    | reads next => exact ⟨_, _, .reads hp, nofun⟩
    | lock l => exact ⟨_, _, .lock hp hholder, nofun⟩
    | signal l =>
      by_cases hasleep : Asleep program s
      · obtain ⟨u, w, hu⟩ := hasleep
        exact ⟨_, _, .signal hp hu, nofun⟩
      · exact ⟨_, _, .signalNone hp fun u w hu => hasleep ⟨u, w, hu⟩, nofun⟩
    | update | unlock | wait =>
      rw [hp] at hout
      exact absurd trivial hout

variable [Fintype τ] {signals height : L → Nat}

/-- What the threads have left to do: signals first. -/
def remaining (signals height : L → Nat) (s : Threads τ δ L) : Nat ×ₗ Nat :=
  toLex (∑ t, signals (s.point t), ∑ t, height (s.point t))

lemma remaining_moves {t : τ} {l : L}
    (hlower : signals l ≤ signals (s.point t) ∧ height l < height (s.point t)) :
    remaining signals height (s.moves t l) < remaining signals height s := by
  have hsignals := Threads.sum_moves signals s t l
  have hheight := Threads.sum_moves height s t l
  unfold remaining
  rw [Prod.Lex.toLex_lt_toLex]
  simp only
  omega

theorem remaining_step (hranked : Ranked program signals height)
    (h : Proceeds program s e s') :
    remaining signals height s' < remaining signals height s := by
  obtain ⟨hstep, hown⟩ := h
  have hlower : ∀ {t l}, (program (s.point t)).Leads l →
      signals l ≤ signals (s.point t) ∧ height l < height (s.point t) := by
    intro t l hl
    by_cases hsignal : ∃ m, program (s.point t) = .signal m
    · obtain ⟨m, hm⟩ := hsignal
      rw [hm] at hl
      cases hl
      have hless := hranked.signal _ _ hm
      omega
    · exact hranked.leads _ _ hl fun m hm => hsignal ⟨m, hm⟩
  cases hstep with
  | start _ hl => exact hl.elim
  | reads hp => exact remaining_moves (hlower (by rw [hp]; exact ⟨_, rfl⟩))
  | lock hp => exact remaining_moves (hlower (by rw [hp]; rfl))
  | update hp _ hnext => exact remaining_moves (hlower (by rw [hp]; exact ⟨_, _, hnext⟩))
  | unlock hp => exact remaining_moves (hlower (by rw [hp]; rfl))
  | wait hp => exact remaining_moves (hlower (by rw [hp]; rfl))
  | signalNone hp => exact remaining_moves (hlower (by rw [hp]; rfl))
  | spurious => exact absurd rfl (hown _)
  | @signal t u l w hp hu =>
    have hut : u ≠ t := by
      rintro rfl
      rw [hp] at hu
      cases hu
    have hsignaller := hranked.signal _ _ hp
    have hwoken := hranked.woken _ _ hu
    have hfirst := Threads.sum_moves signals s t l
    have hsecond := Threads.sum_moves signals (s.moves t l) u w
    rw [Threads.moves_of_ne hut] at hsecond
    unfold remaining
    rw [Prod.Lex.toLex_lt_toLex]
    left
    simp only
    omega

/-- However the threads take turns, the calls that are being executed come to rest. -/
theorem eventually_atRest (hsections : Sections program entry good mid atomic effect)
    (hranked : Ranked program signals height) {keeps : Threads τ δ L → δ → Prop}
    (hkeeps : ∀ s e s' a, Serial program good mid s a → ThreadStep program entry s e s' →
      keeps s a → keeps s' (settled program s a e))
    (h : Serial program good mid s a) (hkept : keeps s a) :
    Eventually (Proceeds program)
      (fun s => AtRest program s ∧ ∃ a, Serial program good mid s a ∧ keeps s a) s := by
  refine Eventually.of_rank (remaining signals height)
    (I := fun s => ∃ a, Serial program good mid s a ∧ keeps s a) ?_ ?_ ⟨a, h, hkept⟩
  · rintro s ⟨a, hs, hk⟩ hgoal
    exact proceeds_of_not_atRest hsections hs fun hrest => hgoal ⟨hrest, a, hs, hk⟩
  · rintro s e s' ⟨a, hs, hk⟩ hstep
    have hstep' : ThreadStep program entry s e s' := hstep.1.mono fun _ => False.elim
    exact ⟨⟨_, (serial_step hsections hs hstep').2, hkeeps _ _ _ _ hs hstep' hk⟩,
      remaining_step hranked hstep⟩

end

end MeshAgent.Foundations

import Mathlib.Algebra.BigOperators.Group.Finset.Basic
import Mathlib.Data.Prod.Lex
import MeshAgent.Foundations.Eventually

/-!
# Threads that share data under one mutex

Every thread is at a point of its program. Only the thread that holds the mutex changes the
data; a thread that waits on the condition variable gives the mutex up and sleeps until it is
woken, by a signal or for no reason.
-/

namespace MeshAgent.Foundations

/-- What a thread does next; `δ` are the shared data, `L` the points of the program. -/
inductive Stmt (δ L : Type*)
  | idle
  | reads (next : δ → L)
  | lock (next : L)
  | update (next : δ → Option (L × δ))
  | unlock (next : L)
  | wait (next : L)
  | asleep (woken : L)
  | signal (next : L)

structure Threads (τ δ L : Type*) where
  data : δ
  holder : Option τ
  point : τ → L

/-- A thread starts a call at `l`, executes the statement at `l`, signals at `l` and wakes `u`,
or wakes without a signal. -/
inductive ThreadEvent (τ L : Type*)
  | start (t : τ) (l : L)
  | exec (t : τ) (l : L)
  | signal (t : τ) (l : L) (u : τ)
  | spurious (u : τ)

namespace Stmt

variable {δ L : Type*}

/-- The statement of a thread that holds the mutex. -/
def Inside : Stmt δ L → Prop
  | .update _ | .unlock _ | .wait _ => True
  | _ => False

/-- The statement of a thread that is awake and does not hold the mutex. -/
def Outside : Stmt δ L → Prop
  | .idle | .reads _ | .lock _ | .signal _ => True
  | _ => False

/-- The points to which the execution of a statement can lead. -/
def Leads : Stmt δ L → L → Prop
  | .reads next, l => ∃ d, next d = l
  | .update next, l => ∃ d d', next d = some (l, d')
  | .lock next, l | .unlock next, l | .wait next, l | .signal next, l => next = l
  | .idle, _ | .asleep _, _ => False

end Stmt

section

variable {τ δ L : Type*} [DecidableEq τ]

def Threads.moves (s : Threads τ δ L) (t : τ) (l : L) : Threads τ δ L :=
  { s with point := Function.update s.point t l }

/-- A call starts at one of the points of `entry`. A signal wakes a thread if one is asleep. -/
inductive ThreadStep (program : L → Stmt δ L) (entry : L → Prop) :
    Threads τ δ L → ThreadEvent τ L → Threads τ δ L → Prop
  | start {s : Threads τ δ L} {t : τ} {l : L} (h : program (s.point t) = .idle) (hl : entry l) :
      ThreadStep program entry s (.start t l) (s.moves t l)
  | reads {s : Threads τ δ L} {t : τ} {next : δ → L} (h : program (s.point t) = .reads next) :
      ThreadStep program entry s (.exec t (s.point t)) (s.moves t (next s.data))
  | lock {s : Threads τ δ L} {t : τ} {l : L} (h : program (s.point t) = .lock l)
      (hfree : s.holder = none) :
      ThreadStep program entry s (.exec t (s.point t)) { s.moves t l with holder := some t }
  | update {s : Threads τ δ L} {t : τ} {next : δ → Option (L × δ)} {l : L} {d : δ}
      (h : program (s.point t) = .update next) (hholds : s.holder = some t)
      (hnext : next s.data = some (l, d)) :
      ThreadStep program entry s (.exec t (s.point t)) { s.moves t l with data := d }
  | unlock {s : Threads τ δ L} {t : τ} {l : L} (h : program (s.point t) = .unlock l)
      (hholds : s.holder = some t) :
      ThreadStep program entry s (.exec t (s.point t)) { s.moves t l with holder := none }
  | wait {s : Threads τ δ L} {t : τ} {l : L} (h : program (s.point t) = .wait l)
      (hholds : s.holder = some t) :
      ThreadStep program entry s (.exec t (s.point t)) { s.moves t l with holder := none }
  | signalNone {s : Threads τ δ L} {t : τ} {l : L} (h : program (s.point t) = .signal l)
      (hnone : ∀ u w, program (s.point u) ≠ .asleep w) :
      ThreadStep program entry s (.exec t (s.point t)) (s.moves t l)
  | signal {s : Threads τ δ L} {t u : τ} {l w : L} (h : program (s.point t) = .signal l)
      (hu : program (s.point u) = .asleep w) :
      ThreadStep program entry s (.signal t (s.point t) u) ((s.moves t l).moves u w)
  | spurious {s : Threads τ δ L} {u : τ} {w : L} (hu : program (s.point u) = .asleep w) :
      ThreadStep program entry s (.spurious u) (s.moves u w)

/-- The threads before their first calls. -/
def startThreads (d : δ) (l : L) : Threads τ δ L := ⟨d, none, fun _ => l⟩

namespace Threads

variable {s : Threads τ δ L} {t u : τ} {l : L}

@[simp] lemma moves_data : (s.moves t l).data = s.data := rfl

@[simp] lemma moves_holder : (s.moves t l).holder = s.holder := rfl

@[simp] lemma moves_self : (s.moves t l).point t = l := Function.update_self ..

lemma moves_of_ne (h : u ≠ t) : (s.moves t l).point u = s.point u := Function.update_of_ne h ..

/-- Every thread has a weight; when one moves, only its own weight changes. -/
lemma sum_moves [Fintype τ] (weight : L → Nat) (s : Threads τ δ L) (t : τ) (l : L) :
    ∑ u, weight ((s.moves t l).point u) + weight (s.point t) =
      ∑ u, weight (s.point u) + weight l := by
  have hothers : ∑ u ∈ Finset.univ.erase t, weight ((s.moves t l).point u) =
      ∑ u ∈ Finset.univ.erase t, weight (s.point u) :=
    Finset.sum_congr rfl fun u hu => by rw [moves_of_ne (Finset.ne_of_mem_erase hu)]
  rw [← Finset.add_sum_erase _ _ (Finset.mem_univ t), hothers, moves_self,
    ← Finset.add_sum_erase _ (fun u => weight (s.point u)) (Finset.mem_univ t)]
  omega

end Threads

namespace ThreadEvent

/-- The point at which the event starts a call of `t`. -/
def started (t : τ) : ThreadEvent τ L → List L
  | .start u l => if u = t then [l] else []
  | _ => []

/-- The point whose statement `t` executes in the event. -/
def executed (t : τ) : ThreadEvent τ L → List L
  | .exec u l | .signal u l _ => if u = t then [l] else []
  | _ => []

end ThreadEvent

variable {program : L → Stmt δ L} {entry : L → Prop} {s s' : Threads τ δ L} {e : ThreadEvent τ L}

/-- What a step is for the thread that is at `l` before it and at `l'` after it. -/
inductive ThreadMove (program : L → Stmt δ L) (entry : L → Prop) (t : τ) (e : ThreadEvent τ L) :
    L → L → Prop
  | start {l l' : L} (h : program l = .idle) (hentry : entry l') (hstarted : e.started t = [l'])
      (hexecuted : e.executed t = []) : ThreadMove program entry t e l l'
  | exec {l l' : L} (h : (program l).Leads l') (hstarted : e.started t = [])
      (hexecuted : e.executed t = [l]) : ThreadMove program entry t e l l'
  | woken {l l' : L} (h : program l = .asleep l') (hstarted : e.started t = [])
      (hexecuted : e.executed t = []) : ThreadMove program entry t e l l'
  | stays {l : L} (hstarted : e.started t = []) (hexecuted : e.executed t = []) :
      ThreadMove program entry t e l l

lemma threadMove_exec (t u : τ) (l : L) (hl : (program (s.point u)).Leads l) :
    ThreadMove program entry t (.exec u (s.point u)) (s.point t) ((s.moves u l).point t) := by
  by_cases hu : u = t
  · subst hu
    rw [Threads.moves_self]
    exact .exec hl rfl (if_pos rfl)
  · rw [Threads.moves_of_ne (Ne.symm hu)]
    exact .stays rfl (if_neg hu)

theorem ThreadStep.threadMove (h : ThreadStep program entry s e s') (t : τ) :
    ThreadMove program entry t e (s.point t) (s'.point t) := by
  cases h with
  | @start u l h hl =>
    by_cases hu : u = t
    · subst hu
      rw [Threads.moves_self]
      exact .start h hl (if_pos rfl) rfl
    · rw [Threads.moves_of_ne (Ne.symm hu)]
      exact .stays (if_neg hu) rfl
  | @signal u v l w h hv =>
    have hne : u ≠ v := by
      rintro rfl
      rw [h] at hv
      cases hv
    by_cases hvt : v = t
    · subst hvt
      rw [Threads.moves_self]
      exact .woken hv rfl (if_neg hne)
    · rw [Threads.moves_of_ne (Ne.symm hvt)]
      by_cases hu : u = t
      · subst hu
        rw [Threads.moves_self]
        exact .exec (by rw [h]; rfl) rfl (if_pos rfl)
      · rw [Threads.moves_of_ne (Ne.symm hu)]
        exact .stays rfl (if_neg hu)
  | @spurious v w hv =>
    by_cases hvt : v = t
    · subst hvt
      rw [Threads.moves_self]
      exact .woken hv rfl rfl
    · rw [Threads.moves_of_ne (Ne.symm hvt)]
      exact .stays rfl rfl
  | @reads u next h => exact threadMove_exec t u _ (by rw [h]; exact ⟨s.data, rfl⟩)
  | @lock u l h => exact threadMove_exec t u l (by rw [h]; rfl)
  | @update u next l d h _ hnext => exact threadMove_exec t u l (by rw [h]; exact ⟨_, d, hnext⟩)
  | @unlock u l h => exact threadMove_exec t u l (by rw [h]; rfl)
  | @wait u l h => exact threadMove_exec t u l (by rw [h]; rfl)
  | @signalNone u l h => exact threadMove_exec t u l (by rw [h]; rfl)

section

variable {ω : Type*} {es : List (ThreadEvent τ L)}

/-- What the statements show that a thread executes. -/
def executedBy (t : τ) (shown : L → List ω) (es : List (ThreadEvent τ L)) : List ω :=
  es.flatMap fun e => (e.executed t).flatMap shown

/-- What the calls show that a thread starts. -/
def startedBy (t : τ) (shown : L → List ω) (es : List (ThreadEvent τ L)) : List ω :=
  es.flatMap fun e => (e.started t).flatMap shown

/-- What a thread gains by its statements it spends by its statements, in the same order. -/
theorem executedBy_account (gain spend owed : L → List ω)
    (hstart : ∀ l l', program l = .idle → entry l' → owed l = owed l')
    (hleads : ∀ l l', (program l).Leads l' → owed l ++ gain l = spend l ++ owed l')
    (hwoken : ∀ l l', program l = .asleep l' → owed l = owed l')
    (h : Run (ThreadStep program entry) s es s') (t : τ) :
    owed (s.point t) ++ executedBy t gain es = executedBy t spend es ++ owed (s'.point t) := by
  have hstep : ∀ (s : Threads τ δ L) e s', ThreadStep program entry s e s' →
      owed (s.point t) ++ (e.executed t).flatMap gain =
        (e.executed t).flatMap spend ++ owed (s'.point t) := by
    intro s e s' hstep
    have hmove := hstep.threadMove t
    generalize s.point t = l at hmove ⊢
    generalize s'.point t = l' at hmove ⊢
    cases hmove with
    | start hidle hentry hstarted hexecuted =>
      rw [hexecuted, hstart _ _ hidle hentry]
      simp
    | exec hl hstarted hexecuted =>
      rw [hexecuted, List.flatMap_singleton, List.flatMap_singleton, hleads _ _ hl]
    | woken hasleep hstarted hexecuted =>
      rw [hexecuted, hwoken _ _ hasleep]
      simp
    | stays hstarted hexecuted =>
      rw [hexecuted]
      simp
  exact Run.account (fun s => owed (s.point t)) hstep h

/-- What a thread gains by its calls it spends by its statements, in the same order. -/
theorem startedBy_account (gain spend owed : L → List ω)
    (hstart : ∀ l l', program l = .idle → entry l' → owed l ++ gain l' = owed l')
    (hleads : ∀ l l', (program l).Leads l' → owed l = spend l ++ owed l')
    (hwoken : ∀ l l', program l = .asleep l' → owed l = owed l')
    (h : Run (ThreadStep program entry) s es s') (t : τ) :
    owed (s.point t) ++ startedBy t gain es = executedBy t spend es ++ owed (s'.point t) := by
  have hstep : ∀ (s : Threads τ δ L) e s', ThreadStep program entry s e s' →
      owed (s.point t) ++ (e.started t).flatMap gain =
        (e.executed t).flatMap spend ++ owed (s'.point t) := by
    intro s e s' hstep
    have hmove := hstep.threadMove t
    generalize s.point t = l at hmove ⊢
    generalize s'.point t = l' at hmove ⊢
    cases hmove with
    | start hidle hentry hstarted hexecuted =>
      rw [hstarted, hexecuted, List.flatMap_singleton, hstart _ _ hidle hentry]
      rfl
    | exec hl hstarted hexecuted =>
      rw [hstarted, hexecuted, List.flatMap_singleton, hleads _ _ hl]
      simp
    | woken hasleep hstarted hexecuted =>
      rw [hstarted, hexecuted, hwoken _ _ hasleep]
      simp
    | stays hstarted hexecuted =>
      rw [hstarted, hexecuted]
      simp
  exact Run.account (fun s => owed (s.point t)) hstep h

end

end

end MeshAgent.Foundations

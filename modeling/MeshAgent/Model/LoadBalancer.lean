import MeshAgent.Foundations.MachineInt
import Mathlib.Logic.Function.Basic

/-!
# `loadBalancer.c`: which endpoint gets the next request
-/

namespace MeshAgent.Model
open MeshAgent.Foundations

def historyWindowSize : Nat := 64

def int64Max : Int := 9223372036854775807

structure HistoryDiffTime where
  diffTimeSum : Int
  head : Nat
  tail : Nat
  remain : Int
  diffTimeHistory : Nat → Int

structure LoadBalancer where
  numOfEnds : Nat
  historyDiffTimeLst : Nat → HistoryDiffTime

/-- What follows the two tables of three limits in memory. -/
structure LimitTables where
  directBehind : Nat → Int
  penaltyBehind : Nat → Int

def LimitTables.directSendLimit (t : LimitTables) : Nat → Int
  | 0 => 8
  | 1 => 8
  | 2 => 8
  | i => t.directBehind i

def LimitTables.penaltySendLimit (t : LimitTables) : Nat → Int
  | 0 => 140
  | 1 => 200
  | 2 => 200
  | i => t.penaltyBehind i

def initHistoryTime : HistoryDiffTime where
  diffTimeSum := 50000 * historyWindowSize
  head := 0
  tail := historyWindowSize - 1
  remain := 0
  diffTimeHistory := fun _ => 50000

def initLoadBalancer (numOfEnds : Nat) : LoadBalancer where
  numOfEnds := numOfEnds
  historyDiffTimeLst := fun _ => initHistoryTime

namespace LoadBalancer

/-- `history_diff_time_lst[i]->remain`. -/
def remain (lb : LoadBalancer) (i : Nat) : Int := (lb.historyDiffTimeLst i).remain

/-- `history_diff_time_lst[i]->remain += d`. -/
def addRemain (lb : LoadBalancer) (i : Nat) (d : Int) : LoadBalancer :=
  let history := lb.historyDiffTimeLst i
  let history := { history with remain := history.remain + d }
  { lb with historyDiffTimeLst := Function.update lb.historyDiffTimeLst i history }

def estimateCost (t : LimitTables) (lb : LoadBalancer) (index : Nat) : Int :=
  let history := lb.historyDiffTimeLst index
  if t.penaltySendLimit index ≤ history.remain then int64Max
  else if history.remain < t.directSendLimit index then 0
  else history.diffTimeSum

/-- The loop of `select_endpoint_time_based` from index `i - 1` down to zero. -/
def selectLoop (cost : Nat → Int) : Nat → Nat → Int → Nat
  | 0, minIdx, _ => minIdx
  | i + 1, minIdx, minVal =>
    if cost i < minVal then selectLoop cost i i (cost i) else selectLoop cost i minIdx minVal

/-- The index that `select_endpoint_time_based` returns. -/
def selectIndex (t : LimitTables) (lb : LoadBalancer) : Nat :=
  let last := lb.numOfEnds - 1
  selectLoop (lb.estimateCost t) last last (lb.estimateCost t last)

/-- `select_endpoint_time_based`; it also stores the time in `http_req->ts_req_beg`. -/
def selectEndpointTimeBased (t : LimitTables) (lb : LoadBalancer) : LoadBalancer × Nat :=
  (lb.addRemain (lb.selectIndex t) 1, lb.selectIndex t)

/-- `finish_endpoint_task_time_based` at the time `now`. -/
def finishEndpointTaskTimeBased (lb : LoadBalancer) (endPointIdx : Nat) (tsReqBeg now : Int) :
    LoadBalancer :=
  let lb := lb.addRemain endPointIdx (-1)
  let newDiffTime := now - tsReqBeg
  let history := lb.historyDiffTimeLst endPointIdx
  let oldestDiff := history.diffTimeHistory history.head
  let tail := (history.tail + 1) % historyWindowSize
  let history := { history with
    head := (history.head + 1) % historyWindowSize
    tail := tail
    diffTimeSum := history.diffTimeSum - oldestDiff + newDiffTime
    diffTimeHistory := Function.update history.diffTimeHistory tail newDiffTime }
  { lb with historyDiffTimeLst := Function.update lb.historyDiffTimeLst endPointIdx history }

/-- The results of the 64-bit subtractions and additions of
`finish_endpoint_task_time_based`, in the order of the source. -/
def finishDiffTimes (lb : LoadBalancer) (endPointIdx : Nat) (tsReqBeg now : Int) : List Int :=
  let newDiffTime := now - tsReqBeg
  let history := lb.historyDiffTimeLst endPointIdx
  let oldestDiff := history.diffTimeHistory history.head
  let diffTimeSum := history.diffTimeSum - oldestDiff
  [newDiffTime, diffTimeSum, diffTimeSum + newDiffTime]

@[simp] lemma numOfEnds_addRemain (lb : LoadBalancer) (i : Nat) (d : Int) :
    (lb.addRemain i d).numOfEnds = lb.numOfEnds := rfl

lemma remain_addRemain (lb : LoadBalancer) (i j : Nat) (d : Int) :
    (lb.addRemain i d).remain j = lb.remain j + if j = i then d else 0 := by
  by_cases h : j = i
  · subst h
    simp [remain, addRemain]
  · simp [remain, addRemain, h]

@[simp] lemma numOfEnds_finish (lb : LoadBalancer) (i : Nat) (tsReqBeg now : Int) :
    (lb.finishEndpointTaskTimeBased i tsReqBeg now).numOfEnds = lb.numOfEnds := rfl

lemma remain_finish (lb : LoadBalancer) (i j : Nat) (tsReqBeg now : Int) :
    (lb.finishEndpointTaskTimeBased i tsReqBeg now).remain j =
      lb.remain j + if j = i then -1 else 0 := by
  rw [← remain_addRemain]
  by_cases h : j = i
  · subst h
    simp [remain, finishEndpointTaskTimeBased]
  · simp [remain, finishEndpointTaskTimeBased, h]

end LoadBalancer

/-! ### Runs of the two operations -/

inductive BalancerEvent
  | select
  | finish (endPointIdx : Nat) (tsReqBeg now : Int)

inductive BalancerStep (t : LimitTables) : LoadBalancer → BalancerEvent → LoadBalancer → Prop
  | select {lb : LoadBalancer} : BalancerStep t lb .select (lb.selectEndpointTimeBased t).1
  | finish {lb : LoadBalancer} {i : Nat} {tsReqBeg now : Int} :
    BalancerStep t lb (.finish i tsReqBeg now) (lb.finishEndpointTaskTimeBased i tsReqBeg now)

/-- The latency that an event measures for endpoint `i`. -/
def BalancerEvent.latency (i : Nat) : BalancerEvent → Option Int
  | .select => none
  | .finish endPointIdx tsReqBeg now =>
    if endPointIdx = i then some (now - tsReqBeg) else none

/-- The latencies measured for endpoint `i`, oldest first. -/
def measuredLatencies (i : Nat) (es : List BalancerEvent) : List Int :=
  es.filterMap (BalancerEvent.latency i)

end MeshAgent.Model

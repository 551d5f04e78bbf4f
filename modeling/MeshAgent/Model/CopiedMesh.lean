import MeshAgent.Model.Mesh

/-!
# The mesh as if `uv_write` copied

An abstract mesh, which the one of the code is compared with: at the call of `uv_write` the
stream has taken all bytes.
-/

namespace MeshAgent.Model
open MeshAgent.Foundations

/-- A call of `uv_write`. -/
def Outside.copyWrite (o : Outside) (q : UvWrite) : Outside := o.receive q.built q.stream

namespace MeshLoop

/-- A callback of the consumer agent. -/
def copiedAgent (env : Environment) (startTime : Int) (shared : Shared) (m : MeshLoop) (e : Event) :
    Option (Shared × MeshLoop) :=
  match e with
  | .answer .. => none
  | _ =>
    match m.loop.step env startTime shared e with
    | none => none
    | some (shared', loop') =>
      let writes := newWrites env shared m.loop e
      some (shared', ⟨loop',
        (writes.foldl Outside.copyWrite (m.outside.noteRequest env shared m.loop e)).dropLink e⟩)

/-- A step at one event loop. -/
def copiedStep (b : Build) (env : Environment) (startTime : Int) (shared : Shared) (m : MeshLoop) :
    MeshEvent → Option (Shared × MeshLoop)
  | .agent e => m.copiedAgent env startTime shared e
  | e => m.beyond b shared e

end MeshLoop

/-- The abstract mesh around a consumer agent. -/
structure CopiedMesh where
  world : World
  outside : Nat → Outside

/-- `consumer`, before anything has been sent. -/
def startCopied (w : World) : CopiedMesh := ⟨w, fun _ => startOutside⟩

namespace CopiedMesh

def meshLoop (m : CopiedMesh) (tid : Nat) : MeshLoop := ⟨m.world.loops tid, m.outside tid⟩

/-- A step of the mesh: something happens at one of the event loops or beyond it. -/
def step (b : Build) (env : Environment) (m : CopiedMesh) (e : Nat × MeshEvent) :
    Option CopiedMesh :=
  if e.1 < eventLoopNum then
    ((m.meshLoop e.1).copiedStep b env m.world.startTime m.world.shared e.2).map fun r =>
      { world := { m.world with
          shared := r.1
          loops := Function.update m.world.loops e.1 r.2.loop }
        outside := Function.update m.outside e.1 r.2.outside }
  else none

end CopiedMesh

end MeshAgent.Model

import TagRules.Registry.Basic

/-!
# Following up changes

A subject whose membership was changed is decided anew by all constraints, until nothing changes any
more or it was decided too often. Subjects wait in a queue that holds each of them once.
-/

namespace TagRules

/-- How often one subject is decided anew while the changes of one job are followed up. -/
def maxFollowUps : Nat := 8

/-- Append the subjects that are not waiting yet. -/
def enqueue (queue more : List SubjectId) : List SubjectId :=
  more.foldl (fun queue id => if queue.contains id then queue else queue ++ [id]) queue

namespace Registry

/-- Follow up the subjects of a queue, given how often each was decided. -/
def followUpFrom (w : World) : Nat → List SubjectId → Dict SubjectId Nat → Registry → Registry
  | 0, _, _, r => r
  | _ + 1, [], _, r => r
  | fuel + 1, id :: queue, runs, r =>
    if r.stopping then r
    else
      let count := (runs.get? id).getD 0 + 1
      let runs := runs.insert id count
      if maxFollowUps < count then followUpFrom w fuel queue runs r
      else
        let (more, r) := r.applyToOne w id
        followUpFrom w fuel (enqueue queue more) runs r

/-- Follow up the subjects that were touched, once the first assignment is done. -/
def followUp (r : Registry) (w : World) (touched : List SubjectId) : Registry :=
  if touched.isEmpty || !r.initialDone then r
  else
    let queue := enqueue [] touched
    followUpFrom w ((maxFollowUps + 1) * queue.length) queue {} r

end Registry

end TagRules

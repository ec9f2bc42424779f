import ChatFlow.Time.Moment
import ChatFlow.Value.Basic

/-!
# Results of nodes

What a node leaves behind when it has done its work: where the walk goes from here, and what is
worth noting. `NodeResult.logged` is the entry that the log keeps of it; a note that bears the name
of one of the entry's own fields takes its place.
-/

namespace ChatFlow

/-- Where a walk goes after a node. -/
inductive Next where
  /-- Along an edge: one that bears the handle, or the usual one if there is no handle. -/
  | leave (handle : Option String)
  /-- Nowhere until something comes: a reply of some kind, or the moment at which to go on. -/
  | wait (reason : String) (resumeAt : Option ZonedMoment)
  /-- To its end. -/
  | finish
  deriving DecidableEq, Repr

/-- The reason of a wait that a timer ends. -/
def timerReason : String := "timer"

/-- What a node leaves behind. -/
structure NodeResult where
  next : Next
  notes : Object
  deriving Repr

/-- The fields of a log entry that tell where the walk goes. -/
def Next.logged : Next → Object
  | .leave none => []
  | .leave (some handle) => [("output_handle", .text handle)]
  | .wait reason none => [("wait", .bool true), ("wait_for", .text reason)]
  | .wait reason (some time) =>
    [("wait", .bool true), ("wait_for", .text reason), ("resume_at", .text time.isoText)]
  | .finish => [("end", .bool true)]

/-- What the log keeps of a result. -/
def NodeResult.logged (result : NodeResult) : Object :=
  Object.update (("success", .bool true) :: result.next.logged) result.notes

end ChatFlow

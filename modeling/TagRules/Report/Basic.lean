import TagRules.Json.Writer
import TagRules.Subject.Basic

/-!
# Reports

What applying rules comes to: the tags of every subject, and the tags whose constraints have a
problem.
-/

namespace TagRules

/-- The tags that a subject carries, by name. -/
structure SubjectTags where
  id : SubjectId
  name : String
  tags : List String
deriving DecidableEq, Repr

/-- A problem of the constraint of a tag. -/
structure TagProblem where
  tag : String
  message : String
deriving DecidableEq, Repr

/-- The subjects in the order in which they were given, and the problems in the order of tags. -/
structure Report where
  subjects : List SubjectTags := []
  diagnostics : List TagProblem := []
deriving DecidableEq, Repr, Inhabited

namespace Report

/-- A report as JSON. -/
def toJson (r : Report) : Json :=
  .record [
    ("subjects", .array (r.subjects.map fun s => .record [
      ("id", .int s.id.index), ("name", .text s.name), ("tags", .array (s.tags.map Json.text))])),
    ("diagnostics", .array (r.diagnostics.map fun p => .record [
      ("tag", .text p.tag), ("message", .text p.message)]))]

end Report

end TagRules

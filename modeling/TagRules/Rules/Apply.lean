import TagRules.Engine.Basic
import TagRules.Engine.Timings
import TagRules.Report.Basic
import TagRules.Rules.Basic

/-!
# Applying rules once

A set of rules is applied to a list of subjects: the declared tags are put into a fresh store, the
subjects with the tags they start out with, and the first assignment runs to its end.
-/

namespace TagRules

/-- Why subjects are refused. -/
inductive SubjectRefusal where
  /-- Two subjects share an identity. -/
  | repeated (id : SubjectId)
  /-- A subject starts out with a tag that no rule declares. -/
  | undeclared (subject tag : String)
deriving DecidableEq, Repr

/-- The wording. -/
def SubjectRefusal.message : SubjectRefusal → String
  | repeated id => "Subject id " ++ toString id.index ++ " appears more than once"
  | undeclared subject tag => "Subject '" ++ subject ++ "' carries undeclared tag '" ++ tag ++ "'"

namespace TagRule

/-- The tag that a rule declares. -/
def toTag (r : TagRule) (id : TagId) : Tag where
  id := id
  name := r.name
  group := r.group
  hasActions := r.hasActions
  maxMembers := r.maxMembers

end TagRule

namespace RuleSet

/-- The rules with the identities of their tags, counted from one. -/
def numbered (s : RuleSet) : List (TagId × TagRule) :=
  (s.rules.zipIdx 1).map fun (rule, position) => (⟨position⟩, rule)

/-- A store with the declared tags. -/
def store (s : RuleSet) : TagStore :=
  s.numbered.foldl (fun store (id, rule) => store.insertTag (rule.toTag id)) {}

/-- Add a subject to the tags that it starts out with. -/
def addInitial (now : Instant) (r : SubjectRecord) :
    List String → TagStore → Except SubjectRefusal TagStore
  | [], store => .ok store
  | name :: names, store =>
    match store.idOf? name with
    | none => .error (.undeclared r.name name)
    | some tag => addInitial now r names (store.add now tag r.id)

/-- Put in the subjects with the tags that they start out with. -/
def enrol (now : Instant) (store : TagStore) (subjects : Dict SubjectId Subject) :
    List SubjectRecord → Except SubjectRefusal (TagStore × Dict SubjectId Subject)
  | [] => .ok (store, subjects)
  | r :: records =>
    if subjects.contains r.id then .error (.repeated r.id)
    else do
      let store ← addInitial now r r.tags store
      enrol now store (subjects.insert r.id { record := r }) records

/-- An engine that works on a store by given timings. -/
def engine (store : TagStore) (t : Timings) : Engine where
  registry := {
    ledger := {
      services := {
        store
        settings := { lifetime := t.settingSeconds * 1000000000 } } }
    cooldown := t.cooldownMillis * 1000000
    activityWindow := t.activitySeconds }

/-- Install the constraints of the rules that have one. -/
def install (w : World) (s : RuleSet) (e : Engine) : Engine :=
  s.numbered.foldl (fun e (id, rule) =>
    match rule.constraint with
    | none => e
    | some text => (e.setConstraint w id text rule.options rule.enabled).2) e

/-- The report on a store. -/
def report (store : TagStore) (records : List SubjectRecord) : Report where
  subjects := records.map fun r =>
    ⟨r.id, r.name, ((store.tagsOf r.id).map (·.name)).mergeSort⟩
  diagnostics := store.allTags.filterMap fun tag =>
    (store.diagnostic? tag.id).map fun message => ⟨tag.name, message⟩

/-- Apply rules to subjects. The clock, the parameters of the application and the script hook are
taken from `w`. -/
def apply (s : RuleSet) (w : World) (t : Timings) (records : List SubjectRecord) :
    Except SubjectRefusal Report := do
  let (store, subjects) ← enrol w.now s.store {} records
  let w := { w with subjects, population := records.map (·.id) }
  let e := (install w s (engine store t)).initialise.flush w
  return report e.registry.store records

end RuleSet

end TagRules

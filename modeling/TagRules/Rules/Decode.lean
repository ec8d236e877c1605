import TagRules.Json.Decode
import TagRules.Rules.Basic
import TagRules.Toml.Settings

/-!
# Rules in documents

Rules are the entries of `tag`; of a rule only the name is needed. JSON is decoded strictly, TOML
leniently, and only rules from TOML text are examined for problems.
-/

namespace TagRules

namespace TagRule

/-- The names of the members of a rule in declared order. -/
def memberNames : List String :=
  ["name", "group", "actions", "max_members", "constraint", "options", "enabled"]

/-- A rule in JSON. -/
def ofJson? : Json.Decoder TagRule := fun j => do
  let m ← j.members? memberNames
  return {
    name := ← m.required "name" Json.toString?
    group := ← m.withDefault "group" (Json.toOption? Json.toString?) none
    hasActions := ← m.withDefault "actions" Json.toBool? false
    maxMembers := ← m.withDefault "max_members" (Json.toNat? 64) 0
    constraint := ← m.withDefault "constraint" (Json.toOption? Json.toString?) none
    options := ← m.withDefault "options" Json.toString? ""
    enabled := ← m.withDefault "enabled" Json.toBool? true }

/-- A rule in TOML. -/
def ofToml? (t : Toml) : Option TagRule := do
  let entries ← t.entries? memberNames
  return {
    name := ← (entries.lookup "name").bind Toml.toText?
    group := ← Toml.entryOr entries "group" (Toml.toOption? Toml.toText?) none
    hasActions := ← Toml.entryOr entries "actions" Toml.toBool? false
    maxMembers := ← Toml.entryOr entries "max_members" Toml.toNat? 0
    constraint := ← Toml.entryOr entries "constraint" (Toml.toOption? Toml.toText?) none
    options := ← Toml.entryOr entries "options" Toml.toText? ""
    enabled := ← Toml.entryOr entries "enabled" Toml.toBool? true }

/-- A rule as JSON, with every member. -/
def toJson (r : TagRule) : Json :=
  .record [("name", .text r.name), ("group", .optional .text r.group),
    ("actions", .bool r.hasActions), ("max_members", .int r.maxMembers),
    ("constraint", .optional .text r.constraint), ("options", .text r.options),
    ("enabled", .bool r.enabled)]

end TagRule

/-- Why a text with rules is refused. -/
inductive RuleRefusal where
  /-- The text is no TOML, or no rules. -/
  | malformed
  | problem (p : RuleProblem)
deriving DecidableEq, Repr

namespace RuleSet

/-- Rules in JSON. -/
def ofJson? : Json.Decoder RuleSet := fun j => do
  let m ← j.members? ["tag"]
  return ⟨← m.withDefault "tag" (Json.toList? TagRule.ofJson?) []⟩

/-- Rules in TOML. -/
def ofToml? (t : Toml) : Option RuleSet := do
  let entries ← t.entries? ["tag"]
  return ⟨← Toml.entryOr entries "tag" (Toml.toList? TagRule.ofToml?) []⟩

/-- The rules in a TOML text, without problems. -/
def read (text : String) : Except RuleRefusal RuleSet :=
  match (Toml.readSettings? text).bind ofToml? with
  | none => .error .malformed
  | some rules =>
    match rules.problem? with
    | some p => .error (.problem p)
    | none => .ok rules

/-- Rules as JSON. -/
def toJson (s : RuleSet) : Json :=
  .record [("tag", .array (s.rules.map TagRule.toJson))]

end RuleSet

end TagRules

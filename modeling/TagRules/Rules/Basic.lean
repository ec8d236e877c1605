import TagRules.Text.Blank

/-!
# Rules

A rule declares a tag and, optionally, the constraint that it carries. The position of a rule in its
set is the identity of its tag. A set that comes from a file has to give every tag a name of its own
(`RuleSet.problem?`).
-/

namespace TagRules

/-- A tag as it is declared. -/
structure TagRule where
  name : String
  group : Option String := none
  /-- An assignment runs actions. -/
  hasActions : Bool := false
  /-- The largest number of members, 0 for no limit. -/
  maxMembers : Nat := 0
  /-- The text of the constraint; a plain tag has none. -/
  constraint : Option String := none
  /-- The options of the constraint. -/
  options : String := ""
  enabled : Bool := true
deriving DecidableEq, Repr, Inhabited

/-- Rules in order. -/
structure RuleSet where
  rules : List TagRule := []
deriving DecidableEq, Repr, Inhabited

/-- What is wrong with a set of rules. -/
inductive RuleProblem where
  /-- The rule at a position, counted from one, has a blank name. -/
  | nameless (position : Nat)
  /-- A name is declared again. -/
  | repeated (name : String)
deriving DecidableEq, Repr

/-- The wording. -/
def RuleProblem.message : RuleProblem → String
  | nameless position => "Tag #" ++ toString position ++ " has no name"
  | repeated name => "Tag '" ++ name ++ "' is declared more than once"

namespace RuleSet

/-- The first problem of the rules after the given names. -/
def problemFrom? (names : List String) : List TagRule → Option RuleProblem
  | [] => none
  | rule :: rules =>
    if Text.blank rule.name.toList then some (.nameless (names.length + 1))
    else if names.contains rule.name then some (.repeated rule.name)
    else problemFrom? (names ++ [rule.name]) rules

/-- The first problem of a set of rules. -/
def problem? (s : RuleSet) : Option RuleProblem :=
  problemFrom? [] s.rules

theorem problemFrom?_eq_none_iff {names : List String} {rules : List TagRule}
    (distinct : names.Nodup) :
    problemFrom? names rules = none ↔
      (∀ rule ∈ rules, Text.blank rule.name.toList = false) ∧
        (names ++ rules.map (·.name)).Nodup := by
  induction rules generalizing names with
  | nil => simpa [problemFrom?] using distinct
  | cons rule rules ih =>
    by_cases hblank : Text.blank rule.name.toList = true
    · simp [problemFrom?, hblank]
    · by_cases hmem : rule.name ∈ names
      · have hdouble : ¬(names ++ (rule :: rules).map (·.name)).Nodup := fun h =>
          (List.nodup_append.1 h).2.2 _ hmem _ (by simp) rfl
        simp only [List.map_cons] at hdouble
        simp [problemFrom?, hblank, hmem, hdouble]
      · have hnext : (names ++ [rule.name]).Nodup := by
          refine List.nodup_append.2 ⟨distinct, by simp, ?_⟩
          intro a ha b hb hab
          simp only [List.mem_singleton] at hb
          exact hmem (hb ▸ hab ▸ ha)
        simp [problemFrom?, hblank, hmem, ih hnext]

/-- A set has no problem if and only if every tag has a name of its own. -/
theorem problem?_eq_none_iff (s : RuleSet) :
    s.problem? = none ↔
      (∀ rule ∈ s.rules, Text.blank rule.name.toList = false) ∧ (s.rules.map (·.name)).Nodup := by
  simpa [problem?] using problemFrom?_eq_none_iff List.nodup_nil

end RuleSet

end TagRules

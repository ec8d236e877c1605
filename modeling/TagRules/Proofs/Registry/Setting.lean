import TagRules.Registry.Basic

/-!
# Setting a constraint

What becomes of a registry when the constraint of a tag is set (`Registry.setConstraint_setting`): the
constraint is dropped, nothing happens, or one is compiled and installed. All else about setting constraints
follows from these three cases.
-/

namespace TagRules

namespace Registry

/-- A constraint is set, with texts that have no blanks at their ends any more. -/
inductive Setting (r : Registry) (tag : TagId) (text options : String) (enabled : Bool) :
    Option Constraint × Registry → Prop
  | dropped (blank : text.isEmpty = true) :
    Setting r tag text options enabled (none, { r with constraints := r.constraints.erase tag })
  /-- The definition is the one that is installed. -/
  | same {c} (given : text.isEmpty = false) (registered : r.constraint? tag = some c)
    (definition : c.hasDefinition text options enabled = true) :
    Setting r tag text options enabled (none, r)
  | installed {built l} (given : text.isEmpty = false)
    (new : ∀ c, r.constraint? tag = some c → c.hasDefinition text options enabled = false)
    (made : Constraint.build r.store r.nextSerial tag text options enabled = built)
    (services : l.services = r.ledger.services.mapStore fun _ => built.2)
    (history : l.history = r.ledger.history) :
    Setting r tag text options enabled (some built.1, { r with
      constraints := r.constraints.insert tag built.1
      nextSerial := r.nextSerial + 1
      ledger := l })

theorem setConstraint_setting (r : Registry) (w : World) (tag : TagId) (text options : String)
    (enabled : Bool) : r.Setting tag (Text.trimmed text) (Text.trimmed options) enabled
      (r.setConstraint w tag text options enabled) := by
  unfold setConstraint
  generalize Text.trimmed text = text
  generalize Text.trimmed options = options
  dsimp only
  split
  · next blank => exact .dropped blank
  · next given =>
    have given : text.isEmpty = false := by simpa using given
    split
    · next known =>
      cases registered : r.constraint? tag with
      | none => simp [registered] at known
      | some c => exact .same given registered (by simpa [registered] using known)
    · next unknown =>
      have new (c : Constraint) (registered : r.constraint? tag = some c) :
          c.hasDefinition text options enabled = false := by simpa [registered] using unknown
      generalize made : Constraint.build r.store r.nextSerial tag text options enabled = built
      exact .installed given new made rfl rfl

/-! ### What is installed -/

theorem hasDefinition_eq_true {c : Constraint} {text options : String} {enabled : Bool} :
    c.hasDefinition text options enabled = true ↔
      c.text = text ∧ c.optionsText = options ∧ c.enabled = enabled := by
  simp only [Constraint.hasDefinition, Bool.and_eq_true, beq_iff_eq, and_assoc]

theorem build_hasDefinition (store : TagStore) (serial : Nat) (tag : TagId) (text options : String)
    (enabled : Bool) : (Constraint.build store serial tag text options enabled).1.hasDefinition text
      options enabled = true :=
  hasDefinition_eq_true.2 ⟨rfl, rfl, rfl⟩

theorem build_identity (store : TagStore) (serial : Nat) (tag : TagId) (text options : String)
    (enabled : Bool) : (Constraint.build store serial tag text options enabled).1.ref =
      ⟨tag, serial⟩ := by
  simp only [Constraint.build, Constraint.ref]

theorem build_rolls (store : TagStore) (serial : Nat) (tag : TagId) (text options : String)
    (enabled : Bool) : (Constraint.build store serial tag text options enabled).2.rolls =
      store.rolls := by
  unfold Constraint.build
  simp only []
  split <;> simp only [TagStore.rolls_setDiagnostic]

theorem build_log (store : TagStore) (serial : Nat) (tag : TagId) (text options : String)
    (enabled : Bool) : (Constraint.build store serial tag text options enabled).2.log =
      store.log := by
  unfold Constraint.build
  simp only []
  split <;> simp only [TagStore.log_setDiagnostic]

end Registry

end TagRules

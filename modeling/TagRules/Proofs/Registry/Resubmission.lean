import TagRules.Proofs.Expr.Outside
import TagRules.Proofs.Registry.Diagnostics

/-!
# Setting a constraint once more

Setting the constraint of a tag to the definition that it has already changes nothing, and requests that
wait for it stay valid. A definition is compared by its texts, without the blanks at their ends. Options
texts that are read alike but spelled otherwise are different: the constraint is replaced by one that does
the same, and what was held back for it is dropped (`Registry.setConstraint_again`,
`Registry.respelled_drops`).
-/

namespace TagRules

/-! ### Texts without the blanks at their ends -/

@[simp] theorem Text.trimmed_trimmed (s : String) : trimmed (trimmed s) = trimmed s := by
  rw [trimmed, trimmed, String.toList_ofList, (tight_trim s.toList).trim_eq_self]

/-- A word without blanks occurs in a text if it does between the blanks at the ends. -/
theorem Text.occursIn_trim {part : List Char} (some : part ≠ [])
    (solid : ∀ c ∈ part, isBlank c = false) (s : List Char) :
    occursIn part (trim s) = occursIn part s := by
  have infixes (s : List Char) : occursIn part s = true ↔ part <:+: s := by
    rw [occursIn_iff]
    exact exists_congr fun before => exists_congr fun after => eq_comm
  obtain ⟨front, back, -, -, form⟩ := exists_trim s
  refine Bool.eq_iff_iff.2 ?_
  rw [infixes, infixes]
  refine ⟨fun inside => ?_, fun inside => (sheds_trim s).holds_word some solid inside⟩
  have part' : trim s <:+: s := ⟨front, back, form.symm⟩
  exact inside.trans part'

/-- The blanks at the ends of an options text do not matter. -/
theorem Options.parse_trimmed (text : String) : parse (Text.trimmed text) = parse text := by
  have word {part : List Char} (some : part ≠ []) (solid : ∀ c ∈ part, Text.isBlank c = false) :
      Text.occursIn part (Text.trimmed text).toList = Text.occursIn part text.toList := by
    rw [Text.trimmed, String.toList_ofList, Text.occursIn_trim some solid]
  unfold parse
  rw [word (by decide) (by decide), word (by decide) (by decide)]

/-! ### Registered constraints -/

/-- The constraint of a tag as it was installed, with a serial number that is used up. -/
structure Constraint.Installed (tag : TagId) (next : Nat) (c : Constraint) : Prop where
  tag : c.tag = tag
  serial : c.serial < next
  text : Text.trimmed c.text = c.text
  given : c.text.isEmpty = false
  options : Text.trimmed c.optionsText = c.optionsText

namespace Registry

/-- The registries that operations, changes of what evaluations share, stops and news of tags lead to. -/
inductive Reached : Registry → Prop
  | unused {r} (unused : r.Unused) : Reached r
  | perform {r} (reached : Reached r) (w : World) (op : Operation) : Reached (r.perform w op).2
  /-- Settings are read again, subjects are forgotten, or somebody else changes tags or members. -/
  | mapServices {r} (reached : Reached r) (f : Services → Services) : Reached (r.mapServices f)
  | tagMetadataChanged {r} (reached : Reached r) (tag : TagId) : Reached (r.tagMetadataChanged tag)
  | clearHistory {r} (reached : Reached r) : Reached r.clearHistory
  | stop {r} (reached : Reached r) : Reached r.stop

/-- Every constraint of a registry is as it was installed. -/
def Kempt (r : Registry) : Prop :=
  ∀ tag c, r.constraint? tag = some c → c.Installed tag r.nextSerial

variable {r r' : Registry} {w : World} {tag : TagId} {c : Constraint} {text options : String}

theorem Kempt.of_eq (h : r.Kempt) (constraints : r'.constraints = r.constraints)
    (serial : r'.nextSerial = r.nextSerial) : r'.Kempt := by
  unfold Kempt constraint?
  rw [constraints, serial]
  exact h

theorem Kempt.erase (h : r.Kempt) (tag : TagId) :
    Kempt { r with constraints := r.constraints.erase tag } := by
  intro u c found
  have found : (r.constraints.erase tag).get? u = some c := found
  rw [Dict.get?_erase] at found
  split at found
  · cases found
  · exact h u c found

theorem Kempt.setConstraint (h : r.Kempt) (w : World) (tag : TagId) (text options : String)
    (enabled : Bool) : (r.setConstraint w tag text options enabled).2.Kempt := by
  have setting := setConstraint_setting r w tag text options enabled
  generalize r.setConstraint w tag text options enabled = result at setting ⊢
  cases setting with
  | dropped => exact h.erase tag
  | same => exact h
  | @installed built l given _ made =>
    have identity := made ▸ build_identity ..
    obtain ⟨text, options, -⟩ := hasDefinition_eq_true.1 (made ▸ build_hasDefinition ..)
    have serial : built.1.serial = r.nextSerial := congrArg ConstraintRef.serial identity
    intro u c found
    have found : (r.constraints.insert tag built.1).get? u = some c := found
    rw [Dict.get?_insert] at found
    split at found
    · next own =>
      rw [← Option.some.inj found]
      exact {
        tag := (congrArg ConstraintRef.tag identity).trans own
        serial := Nat.lt_succ_of_le (Nat.le_of_eq serial)
        text := by rw [text, Text.trimmed_trimmed]
        given := by rw [text, given]
        options := by rw [options, Text.trimmed_trimmed] }
    · have kept := h u c found
      exact { kept with serial := Nat.lt_succ_of_lt kept.serial }

/-- One operation. -/
theorem Kempt.perform (h : r.Kempt) (w : World) (op : Operation) : (r.perform w op).2.Kempt := by
  cases applies : op.applies with
  | true =>
    obtain ⟨done, same⟩ := perform_eq_serve r w applies
    obtain ⟨constraints, serial⟩ := serve_definitions r w (r.asks op)
    rw [same]
    exact h.of_eq constraints serial
  | false =>
    cases op with
    | setProcessing enabled =>
      cases enabled with
      | false => exact h.of_eq rfl rfl
      | true =>
        obtain ⟨l, rest⟩ := runHeld_rest { r with gate := r.gate.resume.2 } w r.gate.resume.1
        simp only [Registry.perform, setProcessing, resume, if_true, rest]
        exact h.of_eq rfl rfl
    | setConstraint tag text options enabled =>
      simp only [Registry.perform]
      exact h.setConstraint w tag text options enabled
    | removeConstraint tag => exact h.erase tag
    | _ => cases applies

theorem Kempt.tagMetadataChanged (h : r.Kempt) (tag : TagId) : (r.tagMetadataChanged tag).Kempt := by
  intro u c found
  have found : (r.constraints.modify tag (·.refresh r.store)).get? u = some c := found
  rw [Dict.get?_modify] at found
  split at found
  · obtain ⟨d, old, rfl⟩ := Option.map_eq_some_iff.1 found
    exact ⟨(h u d old).tag, (h u d old).serial, (h u d old).text, (h u d old).given,
      (h u d old).options⟩
  · exact h u c found

/-- Whatever is done to a registry. -/
theorem Reached.kempt (reached : r.Reached) : r.Kempt := by
  induction reached with
  | unused unused =>
    intro tag c found
    rw [constraint?, unused.constraints] at found
    cases found
  | perform _ w op ih => exact ih.perform w op
  | mapServices _ _ ih => exact ih.of_eq rfl rfl
  | tagMetadataChanged _ tag ih => exact ih.tagMetadataChanged tag
  | clearHistory _ ih => exact ih.of_eq rfl rfl
  | stop _ ih => exact ih.of_eq rfl rfl

/-! ### Once more -/

/-- The constraint of a tag is set once more: to a text with other blanks at its ends, and to options that
are read as before. If the options text is the one that was installed, but for the blanks at its ends, then
nothing is installed and nothing changes, and requests for the constraint stay valid. If it is spelled
otherwise, a constraint is installed that has the same text and the same switches, and requests for the one
before are not valid any more. -/
theorem setConstraint_again (reached : r.Reached) (registered : r.constraint? tag = some c)
    (w : World) (sameText : Text.trimmed text = Text.trimmed c.text)
    (sameSwitches : Options.parse options = c.options) :
    let result := r.setConstraint w tag text options c.enabled
    (Text.trimmed options = Text.trimmed c.optionsText →
      result = (none, r) ∧ result.2.current? c.ref = some c) ∧
    (Text.trimmed options ≠ Text.trimmed c.optionsText →
      result.2.isRegistered c.ref = false ∧
      ∃ d, result.1 = some d ∧ result.2.current? d.ref = some d ∧
        d.text = c.text ∧ d.options = c.options ∧ d.enabled = c.enabled) := by
  have kept := reached.kempt tag c registered
  have current : r.current? c.ref = some c :=
    current?_eq_some.2 ⟨by rw [Constraint.ref, kept.tag]; exact registered, rfl⟩
  have given : (Text.trimmed text).isEmpty = false := by rw [sameText, kept.text, kept.given]
  have definition : c.hasDefinition (Text.trimmed text) (Text.trimmed options) c.enabled = true ↔
      Text.trimmed options = Text.trimmed c.optionsText := by
    rw [hasDefinition_eq_true, sameText, kept.text, kept.options]
    exact ⟨fun same => same.2.1.symm, fun same => ⟨rfl, same.symm, rfl⟩⟩
  have setting := setConstraint_setting r w tag text options c.enabled
  generalize r.setConstraint w tag text options c.enabled = result at setting ⊢
  cases setting with
  | dropped blank => cases given.symm.trans blank
  | same _ found same =>
    cases registered.symm.trans found
    exact ⟨fun _ => ⟨rfl, current⟩, fun respelled => absurd (definition.1 same) respelled⟩
  | @installed built l _ new made =>
    have differs := new c registered
    have identity := made ▸ build_identity ..
    obtain ⟨textOf, optionsOf, enabledOf⟩ := hasDefinition_eq_true.1 (made ▸ build_hasDefinition ..)
    have own : built.1.tag = tag := congrArg ConstraintRef.tag identity
    have number : built.1.serial = r.nextSerial := congrArg ConstraintRef.serial identity
    refine ⟨fun same => absurd (definition.2 same) (by simp [differs]), fun _ => ?_⟩
    refine ⟨?_, built.1, rfl, current?_eq_some.2 ⟨?_, rfl⟩, ?_, ?_, enabledOf⟩
    · -- The number of the constraint before was used up when this one was made.
      have used := kept.serial
      have fresh : built.1.serial ≠ c.serial := by omega
      simp [isRegistered, current?, constraint?, Constraint.ref, kept.tag, fresh]
    · rw [Constraint.ref, own]
      exact Dict.get?_insert_self ..
    · rw [textOf, sameText, kept.text]
    · rw [Constraint.options, optionsOf, Options.parse_trimmed, sameSwitches]

/-- A constraint of the first tag with a remark in its options. -/
def remarked : Constraint :=
  (Constraint.build beginning.store 0 ⟨1⟩ "true" "am=1; by hand" true).1

/-- The registry that has it. -/
def remarkedOnly : Registry :=
  beginning.after [(largeWorld, .setConstraint ⟨1⟩ " true" "am=1; by hand " true)]

theorem remarked_again :
    (remarkedOnly.Reached ∧ remarkedOnly.constraint? ⟨1⟩ = some remarked ∧
      Text.trimmed "\ttrue" = Text.trimmed remarked.text ∧
      Options.parse "  am=1; by hand" = remarked.options ∧
      Text.trimmed "  am=1; by hand" = Text.trimmed remarked.optionsText) ∧
    remarkedOnly.setConstraint largeWorld ⟨1⟩ "\ttrue" "  am=1; by hand" remarked.enabled =
      (none, remarkedOnly) := by
  have reached : remarkedOnly.Reached := .perform (.unused ⟨rfl, rfl, rfl⟩) largeWorld
    (.setConstraint ⟨1⟩ " true" "am=1; by hand " true)
  have registered : remarkedOnly.constraint? ⟨1⟩ = some remarked := rfl
  have text : Text.trimmed "\ttrue" = Text.trimmed remarked.text := by decide +kernel
  have switches : Options.parse "  am=1; by hand" = remarked.options := by decide +kernel
  have options : Text.trimmed "  am=1; by hand" = Text.trimmed remarked.optionsText := by
    decide +kernel
  exact ⟨⟨reached, registered, text, switches, options⟩,
    ((setConstraint_again reached registered largeWorld text switches).1 options).1⟩

/-- A subject waits for the end of a pause, in which the constraint is set once more. -/
def repeating (options : String) : Session :=
  [(largeWorld, .setConstraint ⟨1⟩ "isGT(size, 10)" "" true), (largeWorld, .setProcessing false),
    (largeWorld, .applyToOne ⟨7⟩), (largeWorld, .setConstraint ⟨1⟩ "isGT(size, 10)" options true),
    (largeWorld, .setProcessing true)]

/-- Other options that are read alike replace the constraint, and the subject waits in vain. -/
theorem respelled_drops :
    Options.parse "am=0;" = Options.parse "" ∧
    (beginning.after (repeating " ")).store.isTagged ⟨1⟩ ⟨7⟩ = true ∧
    ((beginning.after ((repeating "").take 3)).setConstraint largeWorld ⟨1⟩ "isGT(size, 10)" "am=0;"
      true).1.isSome = true ∧
    (beginning.after (repeating "am=0;")).store.isTagged ⟨1⟩ ⟨7⟩ = false := by
  decide +kernel

end Registry

end TagRules

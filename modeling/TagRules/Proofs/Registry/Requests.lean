import TagRules.Proofs.Registry.Justified
import TagRules.Proofs.Registry.Snapshot

/-!
# Requests to a registry

A request names subjects, and a registry serves it by passes over constraints or holds it back.
`Registry.Serves` says what all ways of serving have in common: the changes are justified for
subjects that were asked for, the subjects reported as touched are such subjects, and the registry
stays sound. Sound means that a request that was held back can be told from requests for a newer
constraint of the same tag.
-/

namespace TagRules

/-- Constraints are filed by tag, serial numbers are not given twice, and what is held back is for
constraints that can be applied. -/
structure Registry.Sound (r : Registry) : Prop where
  filed : Constraint.Filed r.constraints
  serials : ∀ tag c, r.constraints.get? tag = some c → c.serial < r.nextSerial
  held : ∀ request ∈ r.gate.held, request.constraint.serial < r.nextSerial
  ready : ∀ request ∈ r.gate.held, ∀ c, r.current? request.constraint = some c → c.isReady = true

/-- A request for some subjects turns a registry into another one and reports touched subjects. -/
structure Registry.Serves (w : World) (asked : SubjectId → Prop) (r : Registry)
    (result : List SubjectId × Registry) : Prop where
  progress : ∃ l, Progress w.now (Change.Justified w r.constraints asked) r.ledger.services l
    result.2.ledger.services
  touched : ∀ id ∈ result.1, w.Found asked id
  constraints : result.2.constraints = r.constraints
  sound : result.2.Sound

theorem World.Found.imp {w : World} {asked asked' : SubjectId → Prop}
    (weaker : ∀ id, asked id → asked' id) {id : SubjectId} (h : w.Found asked id) :
    w.Found asked' id := by
  obtain ⟨other, subject, ask, found⟩ := h
  exact ⟨other, subject, weaker other ask, found⟩

namespace Registry

variable {w : World} {asked asked' : SubjectId → Prop} {r r' r'' : Registry} {c : Constraint}
  {ids more : List SubjectId}

namespace Serves

theorem refl (sound : r.Sound) : r.Serves w asked ([], r) :=
  ⟨⟨[], .refl _⟩, fun _ h => absurd h List.not_mem_nil, rfl, sound⟩

/-- Two requests in turn. -/
theorem trans (first : r.Serves w asked (ids, r')) (second : r'.Serves w asked (more, r'')) :
    r.Serves w asked (ids ++ more, r'') where
  progress := by
    obtain ⟨l, first'⟩ := first.progress
    obtain ⟨m, second'⟩ := second.progress
    rw [first.constraints] at second'
    exact ⟨m ++ l, first'.trans second'⟩
  touched id mem := (List.mem_append.1 mem).elim (first.touched id) (second.touched id)
  constraints := second.constraints.trans first.constraints
  sound := second.sound

theorem imp (weaker : ∀ id, asked id → asked' id) {result : List SubjectId × Registry}
    (h : r.Serves w asked result) : r.Serves w asked' result where
  progress := by
    obtain ⟨l, progress⟩ := h.progress
    exact ⟨l, progress.imp fun _ _ => .imp weaker⟩
  touched id mem := (h.touched id mem).imp weaker
  constraints := h.constraints
  sound := h.sound

/-- What was touched is not reported. -/
theorem silent (h : r.Serves w asked (ids, r')) : r.Serves w asked ([], r') :=
  ⟨h.progress, fun _ h => absurd h List.not_mem_nil, h.constraints, h.sound⟩

end Serves

theorem current?_eq_some {ref : ConstraintRef} :
    r.current? ref = some c ↔ r.constraints.get? ref.tag = some c ∧ c.serial = ref.serial := by
  simp [current?, constraint?, Option.filter_eq_some_iff]

theorem current?_congr (constraints : r'.constraints = r.constraints) (ref : ConstraintRef) :
    r'.current? ref = r.current? ref := by
  simp only [current?, constraint?, constraints]

/-- Soundness does not depend on the ledger. -/
theorem Sound.of_eq (sound : r.Sound) (constraints : r'.constraints = r.constraints)
    (serial : r'.nextSerial = r.nextSerial) (gate : r'.gate.held = r.gate.held) : r'.Sound where
  filed := constraints ▸ sound.filed
  serials := by simpa only [constraints, serial] using sound.serials
  held := by simpa only [gate, serial] using sound.held
  ready := by simpa only [gate, current?_congr constraints] using sound.ready

theorem Sound.hold (sound : r.Sound) (registered : r.constraints.get? c.tag = some c)
    (ready : c.isReady = true) (ids : List SubjectId) (check : Bool) :
    Registry.Sound { r with gate := r.gate.hold ⟨c.ref, ids, check⟩ } where
  filed := sound.filed
  serials := sound.serials
  held request mem := by
    rcases List.mem_append.1 mem with mem | mem
    · exact sound.held request mem
    · rw [List.mem_singleton.1 mem]
      exact sound.serials c.tag c registered
  ready request mem d current := by
    rcases List.mem_append.1 mem with mem | mem
    · exact sound.ready request mem d current
    · rw [List.mem_singleton.1 mem] at current
      have same := (current?_eq_some.1 current).1
      exact Option.some.inj (registered.symm.trans same) ▸ ready

/-- A pass over the subjects of a request. -/
theorem runPass_serves (sound : r.Sound) (governs : c.Governs r.constraints) (check : Bool)
    (ids : List SubjectId) :
    r.Serves w (· ∈ ids) (r.runPass (Pass.decideEach w r.rulebook c check ids)) := by
  have runs := Pass.decidedEach_runs w r.rulebook sound.filed governs check ids { ledger := r.ledger }
  unfold runPass
  rw [Pass.decideEach_run]
  exact ⟨runs.progress, fun id mem => (runs.touched id (List.mem_reverse.1 mem)).resolve_left
    (List.not_mem_nil), rfl, sound.of_eq rfl rfl rfl⟩

/-- One constraint for several subjects, now or later. -/
theorem apply_serves (sound : r.Sound) {tag : TagId} (found : r.constraints.get? tag = some c)
    (check : Bool) (ids : List SubjectId) : r.Serves w (· ∈ ids) (r.apply w c check ids) := by
  unfold apply
  split
  · exact .refl sound
  · next h =>
    have ready : c.isReady = true := by
      cases hc : c.isReady with
      | true => rfl
      | false => simp [hc] at h
    split
    · exact runPass_serves sound ⟨sound.filed.registered found, ready⟩ check ids
    · refine ⟨⟨[], .refl _⟩, fun _ h => absurd h List.not_mem_nil, rfl, ?_⟩
      exact sound.hold (sound.filed.registered found) ready ids check

/-- Several constraints in turn. -/
theorem applyEach_serves (check : Bool) (ids : List SubjectId) (cs : List Constraint)
    (sound : r.Sound) (found : ∀ c ∈ cs, ∃ tag, r.constraints.get? tag = some c) :
    r.Serves w (· ∈ ids) (r.applyEach w check ids cs) := by
  induction cs generalizing r with
  | nil => exact .refl sound
  | cons c cs ih =>
    obtain ⟨tag, registered⟩ := found c List.mem_cons_self
    have first := apply_serves (w := w) sound registered check ids
    have rest := ih first.sound fun d mem => by
      rw [first.constraints]
      exact found d (List.mem_cons_of_mem _ mem)
    exact first.trans rest

theorem applyToOne_serves (sound : r.Sound) (id : SubjectId) :
    r.Serves w (· = id) (r.applyToOne w id) :=
  (applyEach_serves true [id] r.snapshot sound fun _ => registered_of_mem_snapshot).imp
    fun _ mem => List.mem_singleton.1 mem

theorem applyToMany_serves (sound : r.Sound) (initial : Bool) (ids : List SubjectId) :
    r.Serves w (· ∈ ids) (r.applyToMany w initial ids) := by
  have first := applyEach_serves (w := w) (!initial) ids r.snapshot sound
    fun _ => registered_of_mem_snapshot
  unfold applyToMany
  cases initial with
  | false => exact first
  | true =>
    have done : r.Serves w (· ∈ ids) ((r.applyEach w (!true) ids r.snapshot).1,
        { (r.applyEach w (!true) ids r.snapshot).2 with initialDone := true }) :=
      ⟨first.progress, first.touched, first.constraints, first.sound.of_eq rfl rfl rfl⟩
    have second := applyEach_serves (w := w) true ids r.snapshot done.sound fun c mem => by
      rw [done.constraints]
      exact registered_of_mem_snapshot mem
    exact done.trans second

/-- One constraint, if it is still the one of its tag. -/
theorem applyConstraint_serves (sound : r.Sound) {ref : ConstraintRef}
    (current : r.current? ref = some c) (ids : List SubjectId) :
    r.Serves w (· ∈ ids) (r.applyConstraint w c ids) :=
  apply_serves sound (current?_eq_some.1 current).1 true ids

/-- A step with the constraint that a reference stands for, if that is current. -/
def withCurrent (r : Registry) (ref : ConstraintRef)
    (step : Constraint → List SubjectId × Registry) : List SubjectId × Registry :=
  match r.current? ref with
  | none => ([], r)
  | some c => step c

theorem withCurrent_serves {ref : ConstraintRef} {step : Constraint → List SubjectId × Registry}
    (sound : r.Sound) (each : ∀ c, r.current? ref = some c → r.Serves w asked (step c)) :
    r.Serves w asked (r.withCurrent ref step) := by
  unfold withCurrent
  cases current : r.current? ref with
  | none => exact .refl sound
  | some c => exact each c current

/-- Requests that were held back. What was a request for the constraint of a tag is one for a
constraint that can be applied, as long as that constraint is current. -/
theorem runHeld_serves (requests : List Request) (sound : r.Sound)
    (ready : ∀ request ∈ requests, ∀ c, r.current? request.constraint = some c →
      c.isReady = true) :
    r.Serves w (fun id => ∃ request ∈ requests, id ∈ request.subjects) (r.runHeld w requests) := by
  induction requests generalizing r with
  | nil => exact .refl sound
  | cons request requests ih =>
    have first : r.Serves w (· ∈ request.subjects) (r.withCurrent request.constraint fun c =>
        r.runPass (Pass.decideEach w r.rulebook c request.checkDependencies request.subjects)) := by
      refine withCurrent_serves sound fun c current => ?_
      have governs : c.Governs r.constraints :=
        ⟨sound.filed.registered (current?_eq_some.1 current).1,
          ready request List.mem_cons_self c current⟩
      exact runPass_serves sound governs _ _
    have rest := ih first.sound fun other mem d current =>
      ready other (List.mem_cons_of_mem _ mem) d
        ((current?_congr first.constraints other.constraint).symm.trans current)
    refine (first.imp fun id mem => ⟨request, List.mem_cons_self, mem⟩).trans
      (rest.imp fun id later => ?_)
    obtain ⟨other, mem, asked⟩ := later
    exact ⟨other, List.mem_cons_of_mem _ mem, asked⟩

theorem Sound.of_resume (sound : r.Sound) : Registry.Sound { r with gate := r.gate.resume.2 } := by
  refine ⟨sound.filed, sound.serials, fun request mem => sound.held request ?_,
    fun request mem => sound.ready request ?_⟩ <;>
  · unfold Gate.resume at mem
    split at mem
    · exact mem
    · cases mem
    · exact mem

theorem mem_held_of_mem_resume {g : Gate} {request : Request} (h : request ∈ g.resume.1) :
    request ∈ g.held := by
  unfold Gate.resume at h
  split at h
  · cases h
  · exact h
  · cases h

theorem setProcessing_serves (sound : r.Sound) (enabled : Bool) :
    r.Serves w (fun id => enabled = true ∧ ∃ request ∈ r.gate.held, id ∈ request.subjects)
      (r.setProcessing w enabled) := by
  cases enabled with
  | false => exact ⟨⟨[], .refl _⟩, fun _ h => absurd h List.not_mem_nil, rfl, sound.of_eq rfl rfl rfl⟩
  | true =>
    have served := runHeld_serves (w := w) r.gate.resume.1 sound.of_resume
      fun request mem c current => sound.ready request (mem_held_of_mem_resume mem) c current
    have weaker (id : SubjectId) (h : ∃ request ∈ r.gate.resume.1, id ∈ request.subjects) :
        true = true ∧ ∃ request ∈ r.gate.held, id ∈ request.subjects := by
      obtain ⟨request, mem, asked⟩ := h
      exact ⟨rfl, request, mem_held_of_mem_resume mem, asked⟩
    exact ⟨(served.imp weaker).progress, (served.imp weaker).touched, served.constraints,
      served.sound⟩

end Registry

end TagRules

import TagRules.Proofs.Registry.Moves

/-!
# How long a diagnostic stays

A tag gets a diagnostic when its constraint is compiled and whenever this is evaluated, and the next
constraint of the tag begins without one. Taking a constraint out does not clear the diagnostic
(`Registry.dropped_diagnostic`). So a tag without constraint carries a diagnostic only where one was left
behind: where constraints go without a diagnostic, and callers hand in none that is gone
(`Registry.Tidies`), a tag has no diagnostic when it has no constraint (`Registry.diagnostic_gone`).
-/

namespace TagRules

/-- Compiling a constraint leaves the diagnostics of other tags. -/
theorem Constraint.diagnostic?_build (store : TagStore) (serial : Nat) {tag u : TagId}
    (other : tag ≠ u) (text options : String) (enabled : Bool) :
    (Constraint.build store serial tag text options enabled).2.diagnostic? u = store.diagnostic? u := by
  have cleared : (store.setDiagnostic tag none).diagnostic? u = store.diagnostic? u :=
    (TagStore.diagnostic?_setDiagnostic ..).trans (if_neg other)
  unfold Constraint.build
  dsimp only
  cases Constraint.diagnostic? (compile (some (store.setDiagnostic tag none)) text) with
  | none => exact cleared
  | some message =>
    exact ((TagStore.diagnostic?_setDiagnostic ..).trans (if_neg other)).trans cleared

namespace Registry

variable {r : Registry} {w : World} {op : Operation} {ops : Session} {tag : TagId}

/-- The operation takes out the constraint of a tag, if it has one. -/
def Operation.drops (tag : TagId) : Operation → Bool
  | .removeConstraint u => u == tag
  | .setConstraint u text _ _ => u == tag && (Text.trimmed text).isEmpty
  | _ => false

/-- A tag without constraint has no diagnostic. -/
def Clean (r : Registry) (tag : TagId) : Prop :=
  r.constraint? tag = none → r.store.diagnostic? tag = none

/-- An operation leaves no diagnostic behind: a constraint of the tag is taken out only when the tag has
no diagnostic, and one is handed in only while the tag has a constraint. -/
structure Tidies (r : Registry) (tag : TagId) (op : Operation) : Prop where
  drops : op.drops tag = true → (r.constraint? tag).isSome = true → r.store.diagnostic? tag = none
  hands : ∀ c ids, op = .applyConstraint c ids → c.tag = tag → (r.constraint? tag).isSome = true

/-- Each operation of a session leaves no diagnostic behind. -/
def AlwaysTidies (r : Registry) (tag : TagId) : Session → Prop
  | [] => True
  | (w, op) :: ops => r.Tidies tag op ∧ (r.perform w op).2.AlwaysTidies tag ops

/-- Where no constraint of a tag is in play, deciding leaves its diagnostic. -/
theorem perform_diagnostic? (r : Registry) (w : World) (decides : op.decides = true)
    (others : ∀ c, r.InPlay op c → c.tag ≠ tag) :
    (r.perform w op).2.store.diagnostic? tag = r.store.diagnostic? tag := by
  obtain ⟨moves, made⟩ := perform_moves r w decides
  exact made.ledger.diagnostic? fun c q due => others c due.1

/-- Setting the constraint of a tag is about no other tag. -/
theorem setConstraint_elsewhere (r : Registry) (w : World) {u : TagId} (other : u ≠ tag)
    (text options : String) (enabled : Bool) :
    (r.setConstraint w u text options enabled).2.constraint? tag = r.constraint? tag ∧
      (r.setConstraint w u text options enabled).2.store.diagnostic? tag =
        r.store.diagnostic? tag := by
  have setting := setConstraint_setting r w u text options enabled
  generalize r.setConstraint w u text options enabled = result at setting ⊢
  cases setting with
  | dropped => exact ⟨Dict.get?_erase_of_ne _ other, rfl⟩
  | same => exact ⟨rfl, rfl⟩
  | installed _ _ made services =>
    have kept := made ▸ Constraint.diagnostic?_build r.store r.nextSerial other _ _ _
    refine ⟨Dict.get?_insert_of_ne _ other _, ?_⟩
    simp only [store, services]
    exact kept

/-- A tag is without constraint after one was set only if that was to drop it, which leaves the store. -/
theorem setConstraint_dropped {text options : String} {enabled : Bool}
    (gone : (r.setConstraint w tag text options enabled).2.constraint? tag = none) :
    (Text.trimmed text).isEmpty = true ∧
      (r.setConstraint w tag text options enabled).2.store = r.store := by
  have setting := setConstraint_setting r w tag text options enabled
  generalize r.setConstraint w tag text options enabled = result at setting gone ⊢
  cases setting with
  | dropped blank => exact ⟨blank, rfl⟩
  | same _ registered => cases registered.symm.trans gone
  | installed =>
    simp only [constraint?, Dict.get?_insert_self] at gone
    cases gone

/-- Taking a constraint out leaves no diagnostic if the tag has none then. -/
theorem Clean.of_dropped (clean : r.Clean tag) (tidies : r.Tidies tag op)
    (drops : op.drops tag = true) : r.store.diagnostic? tag = none := by
  cases registered : r.constraint? tag with
  | none => exact clean registered
  | some c => exact tidies.drops drops (by rw [registered]; rfl)

/-- What one operation does to a tag without constraint. -/
theorem Clean.perform (clean : r.Clean tag) (filed : Constraint.Filed r.constraints) (w : World)
    (tidies : r.Tidies tag op) : (r.perform w op).2.Clean tag := by
  cases decides : op.decides with
  | true =>
    intro gone
    obtain ⟨moves, made⟩ := perform_moves r w decides
    have unregistered : r.constraint? tag = none := by
      rw [← gone]
      exact congrArg (fun book : Rulebook => book.constraints.get? tag) made.rulebook.symm
    have others (c : Constraint) (inPlay : r.InPlay op c) : c.tag ≠ tag := by
      rintro rfl
      rcases inPlay with ⟨u, found⟩ | ⟨ids, handed⟩
      · rw [constraint?, filed.registered found] at unregistered
        cases unregistered
      · have registered := tidies.hands c ids handed rfl
        rw [unregistered] at registered
        cases registered
    exact (perform_diagnostic? r w decides others).trans (clean unregistered)
  | false =>
    cases op with
    | setConstraint u text options enabled =>
      simp only [Registry.perform]
      by_cases same : u = tag
      · subst same
        intro gone
        obtain ⟨blank, store⟩ := setConstraint_dropped gone
        have drops : (Operation.setConstraint u text options enabled).drops u = true := by
          simp [Operation.drops, blank]
        rw [store]
        exact clean.of_dropped tidies drops
      · obtain ⟨constraint, diagnostic⟩ := setConstraint_elsewhere r w same text options enabled
        unfold Clean
        rw [constraint, diagnostic]
        exact clean
    | removeConstraint u =>
      intro gone
      by_cases same : u = tag
      · subst same
        exact clean.of_dropped tidies (by simp [Operation.drops])
      · exact clean ((Dict.get?_erase_of_ne _ same).symm.trans gone)
    | _ => cases decides

theorem Issued.filed {cs : List Constraint} (h : r.Issued cs) : Constraint.Filed r.constraints :=
  fun tag c found => (h.registered tag c found).2

/-- What a session leaves. The induction is on the session, with the constraints that are known. -/
theorem Clean.after {cs : List Constraint} (clean : r.Clean tag) (issued : r.Issued cs)
    (tidies : r.AlwaysTidies tag ops) : (r.after ops).Clean tag := by
  induction ops generalizing r cs with
  | nil => exact clean
  | cons op ops ih =>
    obtain ⟨now, later⟩ := tidies
    exact ih (clean.perform issued.filed op.1 now) (issued.perform op.1 op.2) later

/-- A tag without constraint carries no diagnostic, whatever was asked of a registry that began without
any, if no diagnostic of the tag was left behind on the way. -/
theorem diagnostic_gone (unused : r.Unused) (blank : ∀ u, r.store.diagnostic? u = none)
    (tidies : r.AlwaysTidies tag ops) (unregistered : (r.after ops).constraint? tag = none) :
    (r.after ops).store.diagnostic? tag = none :=
  Clean.after (fun _ => blank tag) unused.issued tidies unregistered

/-- A registry of which nothing was asked, with a tag. -/
def beginning : Registry :=
  Registry.mapStore {} (·.insertTag { id := ⟨1⟩, name := "Large" })

/-- A constraint that is refused is put right, applied and taken out. -/
def repair : Session :=
  [(largeWorld, .setConstraint ⟨1⟩ "isGT(size" "" true),
    (largeWorld, .setConstraint ⟨1⟩ "isGT(size, 10)" "" true), (largeWorld, .applyToOne ⟨7⟩),
    (largeWorld, .removeConstraint ⟨1⟩)]

theorem repair_gone :
    (beginning.Unused ∧ (∀ u, beginning.store.diagnostic? u = none) ∧
      beginning.AlwaysTidies ⟨1⟩ repair ∧ (beginning.after repair).constraint? ⟨1⟩ = none) ∧
    ((beginning.after (repair.take 1)).store.diagnostic? ⟨1⟩).isSome = true ∧
    (beginning.after (repair.take 3)).store.isTagged ⟨1⟩ ⟨7⟩ = true ∧
    (beginning.after repair).store.diagnostic? ⟨1⟩ = none := by
  have unused : beginning.Unused := ⟨rfl, rfl, rfl⟩
  have blank (u : TagId) : beginning.store.diagnostic? u = none := rfl
  have tidies : beginning.AlwaysTidies ⟨1⟩ repair := by
    refine ⟨⟨?_, ?_⟩, ⟨?_, ?_⟩, ⟨?_, ?_⟩, ⟨?_, ?_⟩, trivial⟩
    case refine_7 => exact fun _ _ => by decide +kernel
    case refine_1 | refine_3 | refine_5 => exact fun drops => absurd drops (by decide)
    all_goals exact fun _ _ handed => by cases handed
  have unregistered : (beginning.after repair).constraint? ⟨1⟩ = none := by
    have gone : ((beginning.after repair).constraint? ⟨1⟩).isSome = false := by decide +kernel
    exact Option.isNone_iff_eq_none.1 (Option.isSome_eq_false_iff.1 gone)
  exact ⟨⟨unused, blank, tidies, unregistered⟩, by decide +kernel, by decide +kernel,
    diagnostic_gone unused blank tidies unregistered⟩

/-- The reason why a constraint was refused stays when it is removed, and what was reported when a
constraint was evaluated stays when an empty text drops it. -/
theorem dropped_diagnostic :
    let refused := beginning.after [(largeWorld, .setConstraint ⟨1⟩ "isBogus()" "" true),
      (largeWorld, .removeConstraint ⟨1⟩)]
    let reported := beginning.after [(largeWorld, .setConstraint ⟨1⟩ "speed > 1" "" true),
      (largeWorld, .applyToOne ⟨7⟩), (largeWorld, .setConstraint ⟨1⟩ "" "" true)]
    beginning.Unused ∧ (∀ u, beginning.store.diagnostic? u = none) ∧
    (refused.constraint? ⟨1⟩).isSome = false ∧
      refused.store.diagnostic? ⟨1⟩ = some "Invalid constraint: Unsupported function 'isBogus'" ∧
    (reported.constraint? ⟨1⟩).isSome = false ∧
      reported.store.diagnostic? ⟨1⟩ = some "Invalid constraint keyword: speed" := by
  refine ⟨⟨rfl, rfl, rfl⟩, fun _ => rfl, ?_⟩
  decide +kernel

end Registry

end TagRules

import Mathlib.Data.List.Induction
import TagRules.Proofs.Engine.Justified
import TagRules.Proofs.Registry.OnePass

/-!
# Paused processing

While processing is paused, a registry changes no membership: what it is asked for is held back, and
the call that lifts the last pause runs it. `Registry.asks` are the requests that an operation makes,
each for one constraint as an object, and `Registry.serve` runs such requests one after the other. An
operation serves what it asks for (`perform_eq_serve`), now or later; how late is counted by
`outstanding`, which knows of pauses only.
-/

namespace TagRules

/-- A request to decide a constraint for some subjects. Other than a request that is held back, it
has the constraint itself. -/
structure Ask where
  constraint : Constraint
  subjects : List SubjectId
  /-- Settle the constraints that this one depends on first. -/
  check : Bool

/-- The request as it is held back. -/
def Ask.request (a : Ask) : Request :=
  ⟨a.constraint.ref, a.subjects, a.check⟩

namespace Registry

/-- What can be asked of a registry. -/
inductive Operation where
  /-- Pause processing or lift a pause. -/
  | setProcessing (enabled : Bool)
  | applyToOne (subject : SubjectId)
  /-- Apply all constraints to several subjects, the first time or again. -/
  | applyToMany (initial : Bool) (subjects : List SubjectId)
  /-- Apply a constraint, which the registry may have replaced in the meantime or never had. -/
  | applyConstraint (c : Constraint) (subjects : List SubjectId)
  | setConstraint (tag : TagId) (text options : String) (enabled : Bool)
  | removeConstraint (tag : TagId)

/-- Operations one after the other, each with the world as it is then. -/
abbrev Session := List (World × Operation)

/-- The number of pauses after an operation. Lifting a pause where there is none has no effect. -/
def Operation.count (n : Nat) : Operation → Nat
  | .setProcessing false => n + 1
  | .setProcessing true => n - 1
  | _ => n

/-- The number of pauses that are outstanding after some operations, if there were some before. -/
def outstanding (n : Nat) (ops : Session) : Nat :=
  ops.foldl (fun n op => op.2.count n) n

/-- The requests of a sweep: those constraints of several that can be applied. -/
def sweep (cs : List Constraint) (check : Bool) (ids : List SubjectId) : List Ask :=
  (cs.filter (·.isReady)).map fun c => ⟨c, ids, check⟩

/-- The requests that an operation makes, in order. -/
def asks (r : Registry) : Operation → List Ask
  | .applyToOne id => sweep r.snapshot true [id]
  | .applyToMany false ids => sweep r.snapshot true ids
  | .applyToMany true ids => sweep r.snapshot false ids ++ sweep r.snapshot true ids
  | .applyConstraint c ids => sweep [c] true ids
  | _ => []

/-- Run an operation and return the subjects that were touched. -/
def perform (r : Registry) (w : World) : Operation → List SubjectId × Registry
  | .setProcessing enabled => r.setProcessing w enabled
  | .applyToOne id => r.applyToOne w id
  | .applyToMany initial ids => r.applyToMany w initial ids
  | .applyConstraint c ids => r.applyConstraint w c ids
  | .setConstraint tag text options enabled =>
    ([], (r.setConstraint w tag text options enabled).2)
  | .removeConstraint tag => ([], (r.removeConstraint tag).2)

/-- The constraint that an operation installs. -/
def installs (r : Registry) (w : World) : Operation → List Constraint
  | .setConstraint tag text options enabled =>
    (r.setConstraint w tag text options enabled).1.toList
  | _ => []

/-- The registry after some operations. -/
def after (r : Registry) : Session → Registry
  | [] => r
  | (w, op) :: ops => (r.perform w op).2.after ops

/-- The requests that some operations make, in order. -/
def asked (r : Registry) : Session → List Ask
  | [] => []
  | (w, op) :: ops => r.asks op ++ (r.perform w op).2.asked ops

/-- The constraints that some operations install, in order. -/
def installed (r : Registry) : Session → List Constraint
  | [] => []
  | (w, op) :: ops => r.installs w op ++ (r.perform w op).2.installed ops

/-- Run requests one after the other. -/
def serve (r : Registry) (w : World) : List Ask → List SubjectId × Registry
  | [] => ([], r)
  | a :: as =>
    let (first, r) := r.apply w a.constraint a.check a.subjects
    let (rest, r) := r.serve w as
    (first ++ rest, r)

/-- An operation touches no subject and changes neither memberships nor when subjects were added. -/
structure Silent (r : Registry) (result : List SubjectId × Registry) : Prop where
  touched : result.1 = []
  rolls : result.2.store.rolls = r.store.rolls
  log : result.2.store.log = r.store.log
  history : result.2.ledger.history = r.ledger.history

/-- A registry of which nothing was asked yet. -/
structure Unused (r : Registry) : Prop where
  constraints : r.constraints = {}
  gate : r.gate = {}
  running : r.stopping = false

variable {w : World} {r r' : Registry} {c : Constraint} {ids : List SubjectId} {op : Operation}
  {ops : Session}

/-! ### Serving -/

theorem serve_append (r : Registry) (w : World) (first second : List Ask) :
    r.serve w (first ++ second) =
      ((r.serve w first).1 ++ ((r.serve w first).2.serve w second).1,
        ((r.serve w first).2.serve w second).2) := by
  induction first generalizing r with
  | nil => rfl
  | cons a first ih => simp only [List.cons_append, serve, ih, List.append_assoc]

/-- Applying constraints in turn serves the requests for those that can be applied. -/
theorem applyEach_eq_serve (r : Registry) (w : World) (check : Bool) (ids : List SubjectId)
    (cs : List Constraint) : r.applyEach w check ids cs = r.serve w (sweep cs check ids) := by
  induction cs generalizing r with
  | nil => rfl
  | cons c cs ih =>
    cases ready : c.isReady with
    | true => simp only [applyEach, sweep, List.filter_cons, ready, if_true, List.map_cons, serve, ih]
    | false =>
      simp only [applyEach, sweep, List.filter_cons, ready, apply_of_not_isReady ready, ih]
      rfl

/-- That the first assignment is done does not matter to requests. -/
theorem serve_initialDone (r : Registry) (w : World) (as : List Ask) (done : Bool) :
    Registry.serve { r with initialDone := done } w as =
      ((r.serve w as).1, { (r.serve w as).2 with initialDone := done }) := by
  induction as generalizing r with
  | nil => rfl
  | cons a as ih =>
    have first : Registry.apply { r with initialDone := done } w a.constraint a.check a.subjects =
        ((r.apply w a.constraint a.check a.subjects).1,
          { (r.apply w a.constraint a.check a.subjects).2 with initialDone := done }) := by
      simp only [apply]
      split
      · rfl
      · split <;> rfl
    simp only [serve, first, ih]

/-- The operation applies constraints. -/
def Operation.applies : Operation → Bool
  | .applyToOne _ => true
  | .applyToMany _ _ => true
  | .applyConstraint _ _ => true
  | _ => false

theorem applyToOne_eq_serve (r : Registry) (w : World) (id : SubjectId) :
    r.applyToOne w id = r.serve w (r.asks (.applyToOne id)) :=
  applyEach_eq_serve r w true [id] r.snapshot

theorem applyConstraint_eq_serve (r : Registry) (w : World) (c : Constraint)
    (ids : List SubjectId) :
    r.applyConstraint w c ids = r.serve w (r.asks (.applyConstraint c ids)) := by
  simp only [applyConstraint, asks, ← applyEach_eq_serve, applyEach, List.append_nil]

/-- Applying all constraints again is one sweep. -/
theorem applyToMany_again_eq_serve (r : Registry) (w : World) (ids : List SubjectId) :
    r.applyToMany w false ids = r.serve w (r.asks (.applyToMany false ids)) := by
  simp only [applyToMany, applyEach_eq_serve, asks, Bool.not_false]
  rfl

/-- Applying all constraints the first time is two sweeps. -/
theorem applyToMany_first_eq_serve (r : Registry) (w : World) (ids : List SubjectId) :
    r.applyToMany w true ids =
      ((r.serve w (r.asks (.applyToMany true ids))).1,
        { (r.serve w (r.asks (.applyToMany true ids))).2 with initialDone := true }) := by
  simp only [applyToMany, applyEach_eq_serve, asks, Bool.not_true, serve_append,
    serve_initialDone, if_true]

/-- An operation that applies constraints serves the requests that it makes. -/
theorem perform_eq_serve (r : Registry) (w : World) (applies : op.applies = true) :
    ∃ done, r.perform w op =
      ((r.serve w (r.asks op)).1, { (r.serve w (r.asks op)).2 with initialDone := done }) := by
  cases op with
  | applyToOne id => exact ⟨_, applyToOne_eq_serve r w id⟩
  | applyToMany initial ids =>
    cases initial with
    | false => exact ⟨_, applyToMany_again_eq_serve r w ids⟩
    | true => exact ⟨true, applyToMany_first_eq_serve r w ids⟩
  | applyConstraint c ids => exact ⟨_, applyConstraint_eq_serve r w c ids⟩
  | setProcessing enabled => cases applies
  | setConstraint tag text options enabled => cases applies
  | removeConstraint tag => cases applies

/-- While processing is paused, requests for constraints that can be applied are held back. -/
theorem serve_of_paused (running : r.stopping = false) (paused : r.gate.isOpen = false)
    {as : List Ask} (ready : ∀ a ∈ as, a.constraint.isReady = true) :
    r.serve w as =
      ([], { r with gate.held := r.gate.held ++ as.map Ask.request }) := by
  induction as generalizing r with
  | nil => simp only [serve, List.map_nil, List.append_nil]
  | cons a as ih =>
    have first : r.apply w a.constraint a.check a.subjects =
        ([], { r with gate := r.gate.hold a.request }) := by
      have able := ready a List.mem_cons_self
      simp only [apply, able, running, paused]
      rfl
    have rest := ih (r := { r with gate := r.gate.hold a.request }) running paused
      fun b mem => ready b (List.mem_cons_of_mem _ mem)
    simp only [serve, first, rest]
    simp only [Gate.hold, List.map_cons, List.append_assoc, List.cons_append, List.nil_append]

/-- While processing is not paused, requests change the ledger only. -/
theorem serve_of_open (opened : r.gate.isOpen = true) (as : List Ask) :
    ∃ l, (r.serve w as).2 = { r with ledger := l } := by
  induction as generalizing r with
  | nil => exact ⟨r.ledger, rfl⟩
  | cons a as ih =>
    have first : ∃ l, (r.apply w a.constraint a.check a.subjects).2 = { r with ledger := l } := by
      unfold apply
      split
      · exact ⟨r.ledger, rfl⟩
      · exact ⟨_, rfl⟩
    obtain ⟨l, first⟩ := first
    obtain ⟨l', rest⟩ := ih (r := { r with ledger := l }) opened
    refine ⟨l', ?_⟩
    simp only [serve, first]
    exact rest

/-- What is asked for is the constraint of some tag, or one that the caller has. -/
theorem registered_of_mem_asks {a : Ask} (mem : a ∈ r.asks op) :
    (∃ tag, r.constraints.get? tag = some a.constraint) ∨
      ∃ ids, op = .applyConstraint a.constraint ids := by
  have swept {check : Bool} {ids : List SubjectId} (mem : a ∈ sweep r.snapshot check ids) :
      ∃ tag, r.constraints.get? tag = some a.constraint := by
    obtain ⟨c, among, rfl⟩ := List.mem_map.1 mem
    exact registered_of_mem_snapshot (List.mem_filter.1 among).1
  cases op with
  | applyToOne id => exact .inl (swept mem)
  | applyToMany initial ids =>
    cases initial with
    | false => exact .inl (swept mem)
    | true => exact .inl ((List.mem_append.1 mem).elim swept swept)
  | applyConstraint c ids =>
    obtain ⟨d, among, rfl⟩ := List.mem_map.1 mem
    cases List.mem_singleton.1 (List.mem_filter.1 among).1
    exact .inr ⟨ids, rfl⟩
  | _ => cases mem

/-- Only constraints that can be applied are asked for. -/
theorem ready_of_mem_asks {a : Ask} (mem : a ∈ r.asks op) : a.constraint.isReady = true := by
  have swept {cs : List Constraint} {check : Bool} {ids : List SubjectId}
      (mem : a ∈ sweep cs check ids) : a.constraint.isReady = true := by
    obtain ⟨c, among, rfl⟩ := List.mem_map.1 mem
    exact (List.mem_filter.1 among).2
  unfold asks at mem
  split at mem
  · exact swept mem
  · exact swept mem
  · exact (List.mem_append.1 mem).elim swept swept
  · exact swept mem
  · cases mem

/-- The requests among several that were held back whose constraints are still registered. -/
def revived (r : Registry) (requests : List Request) : List Ask :=
  requests.filterMap fun request =>
    (r.current? request.constraint).map (⟨·, request.subjects, request.checkDependencies⟩)

/-- Running what was held back serves what is revived of it. -/
theorem runHeld_eq_serve (running : r.stopping = false) (opened : r.gate.isOpen = true)
    {requests : List Request} (ready : ∀ request ∈ requests, ∀ c,
      r.current? request.constraint = some c → c.isReady = true) :
    r.runHeld w requests = r.serve w (r.revived requests) := by
  induction requests generalizing r with
  | nil => rfl
  | cons request requests ih =>
    have ready' (other : Request) (mem : other ∈ requests) :=
      ready other (List.mem_cons_of_mem _ mem)
    cases current : r.current? request.constraint with
    | none =>
      simp only [runHeld, revived, List.filterMap_cons, current, Option.map_none, List.nil_append]
      exact ih running opened ready'
    | some c =>
      have able := ready request List.mem_cons_self c current
      have first : r.apply w c request.checkDependencies request.subjects = r.runPass
          (Pass.decideEach w r.rulebook c request.checkDependencies request.subjects) := by
        simp only [apply, able, running, opened]
        rfl
      have rest := ih (r := (r.runPass
        (Pass.decideEach w r.rulebook c request.checkDependencies request.subjects)).2) running
        opened ready'
      simp only [runHeld, revived, List.filterMap_cons, current, Option.map_some, serve, first]
      exact congrArg (fun result : List SubjectId × Registry => (_ ++ result.1, result.2)) rest

/-- Requests whose constraints are known by their references are revived if these are registered. -/
theorem revived_map_request {as : List Ask}
    (named : ∀ a ∈ as, ∀ c, r.current? a.constraint.ref = some c → c = a.constraint) :
    r.revived (as.map Ask.request) = as.filter fun a => r.isRegistered a.constraint.ref := by
  induction as with
  | nil => rfl
  | cons a as ih =>
    have rest := ih fun b mem => named b (List.mem_cons_of_mem _ mem)
    simp only [revived] at rest
    cases current : r.current? a.constraint.ref with
    | none =>
      simpa [revived, Ask.request, List.filter_cons, isRegistered, current] using rest
    | some c =>
      cases named a List.mem_cons_self c current
      simpa [revived, Ask.request, List.filter_cons, isRegistered, current] using rest

/-! ### Installing constraints -/

/-- What becomes of a registry when a constraint is set. -/
inductive Installation (r : Registry) (tag : TagId) : Option Constraint × Registry → Prop
  /-- The definition is the one that is installed. -/
  | same : Installation r tag (none, r)
  | dropped : Installation r tag (none, { r with constraints := r.constraints.erase tag })
  | installed {c l} (identity : c.ref = ⟨tag, r.nextSerial⟩)
    (rolls : l.services.store.rolls = r.store.rolls) (log : l.services.store.log = r.store.log)
    (history : l.history = r.ledger.history) :
    Installation r tag (some c, { r with
      constraints := r.constraints.insert tag c
      nextSerial := r.nextSerial + 1
      ledger := l })

theorem setConstraint_installation (r : Registry) (w : World) (tag : TagId) (text options : String)
    (enabled : Bool) : r.Installation tag (r.setConstraint w tag text options enabled) := by
  have setting := setConstraint_setting r w tag text options enabled
  generalize r.setConstraint w tag text options enabled = result at setting ⊢
  cases setting with
  | dropped => exact .dropped
  | same => exact .same
  | installed _ _ made services history =>
    have identity := made ▸ build_identity ..
    have rolls := made ▸ build_rolls ..
    have log := made ▸ build_log ..
    refine .installed identity ?_ ?_ history
    · rw [services]
      exact rolls
    · rw [services]
      exact log

/-- Nothing is stopping, and there is a number of pauses. -/
structure Paused (n : Nat) (r : Registry) : Prop where
  running : r.stopping = false
  pauses : r.gate.pauses = n
  /-- Nothing is held back without a pause. -/
  empty : n = 0 → r.gate.held = []

theorem Paused.isOpen {n : Nat} (h : r.Paused n) : r.gate.isOpen = decide (n = 0) := by
  simp only [Gate.isOpen, h.pauses]

theorem Paused.gate_eq (h : r.Paused 0) : r.gate = {} := by
  obtain ⟨-, pauses, empty⟩ := h
  cases gate : r.gate with | mk pauses held => simp_all

theorem Paused.of_eq {n : Nat} (h : r.Paused n) (running : r'.stopping = r.stopping)
    (gate : r'.gate = r.gate) : r'.Paused n where
  running := running.trans h.running
  pauses := (congrArg Gate.pauses gate).trans h.pauses
  empty none := (congrArg Gate.held gate).trans (h.empty none)

theorem runHeld_rest (r : Registry) (w : World) (requests : List Request) :
    ∃ l, (r.runHeld w requests).2 = { r with ledger := l } := by
  induction requests generalizing r with
  | nil => exact ⟨r.ledger, rfl⟩
  | cons request requests ih =>
    simp only [runHeld]
    split
    · exact ih r
    · obtain ⟨l, rest⟩ := ih (r.runPass _).2
      exact ⟨l, rest⟩

/-- The gate counts pauses, and forgets what it held when there is none. -/
theorem Paused.perform {n : Nat} (h : r.Paused n) (w : World) (op : Operation) :
    (r.perform w op).2.Paused (op.count n) := by
  cases applies : op.applies with
  | true =>
    obtain ⟨done, same⟩ := perform_eq_serve r w applies
    rw [same]
    have count : op.count n = n := by cases op <;> first | rfl | cases applies
    rw [count]
    cases n with
    | zero =>
      obtain ⟨l, rest⟩ := serve_of_open (w := w) h.isOpen (r.asks op)
      rw [rest]
      exact h.of_eq rfl rfl
    | succ n =>
      rw [serve_of_paused h.running h.isOpen fun a => ready_of_mem_asks]
      exact ⟨h.running, h.pauses, fun none => by cases none⟩
  | false =>
    cases op with
    | setProcessing enabled =>
      cases enabled with
      | false =>
        exact ⟨h.running, congrArg (· + 1) h.pauses, fun none => by cases none⟩
      | true =>
        simp only [Registry.perform, setProcessing, resume, if_true]
        obtain ⟨l, rest⟩ := runHeld_rest { r with gate := r.gate.resume.2 } w r.gate.resume.1
        rw [rest]
        rcases n with _ | _ | n
        · refine .of_eq (r := r) h rfl ?_
          simp only [Gate.resume, h.pauses]
        · refine ⟨h.running, ?_, fun _ => ?_⟩ <;> simp only [Gate.resume, h.pauses]; rfl
        · refine ⟨h.running, ?_, fun none => by cases none⟩
          simp only [Gate.resume, h.pauses]
          rfl
    | setConstraint tag text options enabled =>
      simp only [Registry.perform]
      have installation := setConstraint_installation r w tag text options enabled
      generalize r.setConstraint w tag text options enabled = result at installation ⊢
      cases installation with
      | same => exact h
      | dropped => exact h.of_eq rfl rfl
      | installed => exact h.of_eq rfl rfl
    | removeConstraint tag => exact h.of_eq rfl rfl
    | _ => cases applies

/-- An operation that leaves a pause changes no membership, and what it asks for is held back. -/
theorem Paused.defers {n : Nat} (h : r.Paused n) (w : World) (still : 0 < op.count n) :
    r.Silent (r.perform w op) ∧
      (r.perform w op).2.gate.held = r.gate.held ++ (r.asks op).map Ask.request := by
  cases applies : op.applies with
  | true =>
    obtain ⟨done, same⟩ := perform_eq_serve r w applies
    have count : op.count n = n := by cases op <;> first | rfl | cases applies
    have paused : r.gate.isOpen = false := by
      rw [h.isOpen]
      exact decide_eq_false (by omega)
    rw [same, serve_of_paused h.running paused fun a => ready_of_mem_asks]
    exact ⟨⟨rfl, rfl, rfl, rfl⟩, rfl⟩
  | false =>
    cases op with
    | setProcessing enabled =>
      simp only [asks, List.map_nil, List.append_nil]
      cases enabled with
      | false => exact ⟨⟨rfl, rfl, rfl, rfl⟩, rfl⟩
      | true =>
        match n, h, still with
        | n + 2, h, _ =>
          simp only [Registry.perform, setProcessing, resume, Gate.resume, h.pauses, if_true]
          exact ⟨⟨rfl, rfl, rfl, rfl⟩, rfl⟩
    | setConstraint tag text options enabled =>
      simp only [asks, List.map_nil, List.append_nil, Registry.perform]
      have installation := setConstraint_installation r w tag text options enabled
      generalize r.setConstraint w tag text options enabled = result at installation ⊢
      cases installation with
      | same => exact ⟨⟨rfl, rfl, rfl, rfl⟩, rfl⟩
      | dropped => exact ⟨⟨rfl, rfl, rfl, rfl⟩, rfl⟩
      | installed _ rolls log history => exact ⟨⟨rfl, rolls, log, history⟩, rfl⟩
    | removeConstraint tag =>
      simp only [asks, List.map_nil, List.append_nil]
      exact ⟨⟨rfl, rfl, rfl, rfl⟩, rfl⟩
    | _ => cases applies

/-! ### Sessions -/

theorem after_append (r : Registry) (first second : Session) :
    r.after (first ++ second) = (r.after first).after second := by
  induction first generalizing r with
  | nil => rfl
  | cons op first ih => exact ih _

theorem installed_append (r : Registry) (first second : Session) :
    r.installed (first ++ second) = r.installed first ++ (r.after first).installed second := by
  induction first generalizing r with
  | nil => rfl
  | cons op first ih =>
    rw [List.cons_append, installed, installed, ih, List.append_assoc]
    rfl

theorem outstanding_append (n : Nat) (first second : Session) :
    outstanding n (first ++ second) = outstanding (outstanding n first) second := by
  unfold outstanding
  rw [List.foldl_append]

theorem Paused.after {n : Nat} (h : r.Paused n) (ops : Session) :
    (r.after ops).Paused (outstanding n ops) := by
  induction ops generalizing r n with
  | nil => exact h
  | cons op ops ih => exact ih (h.perform op.1 op.2)

/-- As long as there is a pause, all requests are held back in order. -/
theorem Paused.held_after {n : Nat} (h : r.Paused n)
    (paused : ∀ part, part <+: ops → 0 < outstanding n part) :
    (r.after ops).gate.held = r.gate.held ++ (r.asked ops).map Ask.request := by
  induction ops generalizing r n with
  | nil => simp only [Registry.after, asked, List.map_nil, List.append_nil]
  | cons op ops ih =>
    have still : 0 < op.2.count n := paused [op] ⟨ops, rfl⟩
    have rest := ih (h.perform op.1 op.2) fun part first =>
      paused (op :: part) (List.prefix_cons_inj op |>.2 first)
    simp only [Registry.after, asked, rest, (h.defers op.1 still).2, List.map_append,
      List.append_assoc]

/-- The constraints that a registry has are among several that can be told by their numbers. -/
structure Issued (r : Registry) (cs : List Constraint) : Prop where
  registered : ∀ tag c, r.constraints.get? tag = some c → c ∈ cs ∧ c.tag = tag
  numbered : ∀ c ∈ cs, c.serial < r.nextSerial
  distinct : ∀ c ∈ cs, ∀ d ∈ cs, c.serial = d.serial → c = d

theorem Issued.of_eq {cs : List Constraint} (h : r.Issued cs)
    (constraints : r'.constraints = r.constraints) (serial : r'.nextSerial = r.nextSerial) :
    r'.Issued cs where
  registered := by simpa only [constraints] using h.registered
  numbered := by simpa only [serial] using h.numbered
  distinct := h.distinct

theorem serve_definitions (r : Registry) (w : World) (as : List Ask) :
    (r.serve w as).2.constraints = r.constraints ∧ (r.serve w as).2.nextSerial = r.nextSerial := by
  induction as generalizing r with
  | nil => exact ⟨rfl, rfl⟩
  | cons a as ih =>
    obtain ⟨constraints, serial⟩ := ih (r.apply w a.constraint a.check a.subjects).2
    have first : (r.apply w a.constraint a.check a.subjects).2.constraints = r.constraints ∧
        (r.apply w a.constraint a.check a.subjects).2.nextSerial = r.nextSerial := by
      unfold apply
      split
      · exact ⟨rfl, rfl⟩
      · split <;> exact ⟨rfl, rfl⟩
    exact ⟨constraints.trans first.1, serial.trans first.2⟩

theorem Issued.erase {cs : List Constraint} (h : r.Issued cs) (tag : TagId) :
    Issued { r with constraints := r.constraints.erase tag } cs where
  registered other c found := by
    rw [Dict.get?_erase] at found
    split at found
    · cases found
    · exact h.registered other c found
  numbered := h.numbered
  distinct := h.distinct

/-- A new constraint has a number that no other has. -/
theorem Issued.insert {cs : List Constraint} (h : r.Issued cs) {tag : TagId} {c : Constraint}
    (identity : c.ref = ⟨tag, r.nextSerial⟩) (l : Ledger) :
    Issued { r with
      constraints := r.constraints.insert tag c
      nextSerial := r.nextSerial + 1
      ledger := l } (cs ++ [c]) where
  registered other d found := by
    rw [Dict.get?_insert] at found
    split at found
    · next same =>
      cases found
      exact ⟨List.mem_append.2 (.inr List.mem_cons_self),
        (congrArg ConstraintRef.tag identity).trans same⟩
    · obtain ⟨mem, filed⟩ := h.registered other d found
      exact ⟨List.mem_append.2 (.inl mem), filed⟩
  numbered d mem := by
    have new : c.serial = r.nextSerial := congrArg ConstraintRef.serial identity
    rcases List.mem_append.1 mem with mem | mem
    · exact Nat.lt_succ_of_lt (h.numbered d mem)
    · rw [List.mem_singleton.1 mem, new]
      exact Nat.lt_succ_self _
  distinct d mem e mem' same := by
    have new : c.serial = r.nextSerial := congrArg ConstraintRef.serial identity
    rcases List.mem_append.1 mem with old | mem
    · have := h.numbered d old
      rcases List.mem_append.1 mem' with old' | mem'
      · exact h.distinct d old e old' same
      · rw [List.mem_singleton.1 mem'] at same
        omega
    · cases List.mem_singleton.1 mem
      rcases List.mem_append.1 mem' with old' | mem'
      · have := h.numbered e old'
        omega
      · exact (List.mem_singleton.1 mem').symm

theorem Issued.perform {cs : List Constraint} (h : r.Issued cs) (w : World) (op : Operation) :
    (r.perform w op).2.Issued (cs ++ r.installs w op) := by
  cases applies : op.applies with
  | true =>
    obtain ⟨done, same⟩ := perform_eq_serve r w applies
    obtain ⟨constraints, serial⟩ := serve_definitions r w (r.asks op)
    have none : r.installs w op = [] := by cases op <;> first | rfl | cases applies
    rw [same, none, List.append_nil]
    exact h.of_eq constraints serial
  | false =>
    cases op with
    | setProcessing enabled =>
      simp only [installs, List.append_nil]
      cases enabled with
      | false => exact h.of_eq rfl rfl
      | true =>
        obtain ⟨l, rest⟩ := runHeld_rest { r with gate := r.gate.resume.2 } w r.gate.resume.1
        simp only [Registry.perform, setProcessing, resume, if_true, rest]
        exact h.of_eq rfl rfl
    | setConstraint tag text options enabled =>
      simp only [Registry.perform, installs]
      have installation := setConstraint_installation r w tag text options enabled
      generalize r.setConstraint w tag text options enabled = result at installation ⊢
      cases installation with
      | same => simpa using h
      | dropped => simpa using h.erase tag
      | installed identity => exact h.insert identity _
    | removeConstraint tag =>
      simp only [installs, List.append_nil]
      exact h.erase tag
    | _ => cases applies

/-- The constraints of a registry are known throughout a session. -/
theorem Issued.after {cs : List Constraint} (h : r.Issued cs) (ops : Session) :
    (r.after ops).Issued (cs ++ r.installed ops) := by
  induction ops generalizing r cs with
  | nil => simpa [installed, Registry.after] using h
  | cons op ops ih =>
    rw [installed, ← List.append_assoc]
    exact ih (h.perform op.1 op.2)

/-- What is asked for is a constraint that the registry has or that the caller has. -/
theorem mem_asks {cs : List Constraint} (h : r.Issued cs) {a : Ask} (mem : a ∈ r.asks op) :
    a.constraint ∈ cs ∨ ∃ ids, op = .applyConstraint a.constraint ids := by
  rcases registered_of_mem_asks mem with ⟨tag, found⟩ | given
  · exact .inl (h.registered tag _ found).1
  · exact .inr given

theorem mem_asked {cs : List Constraint} (h : r.Issued cs) {a : Ask} (mem : a ∈ r.asked ops) :
    a.constraint.isReady = true ∧ (a.constraint ∈ cs ++ r.installed ops ∨
      ∃ w ids, (w, .applyConstraint a.constraint ids) ∈ ops) := by
  induction ops generalizing r cs with
  | nil => cases mem
  | cons op ops ih =>
    obtain ⟨w, op⟩ := op
    rcases List.mem_append.1 mem with mem | mem
    · refine ⟨ready_of_mem_asks mem, ?_⟩
      rcases mem_asks h mem with known | ⟨ids, rfl⟩
      · exact .inl (List.mem_append_left _ known)
      · exact .inr ⟨w, ids, List.mem_cons_self⟩
    · obtain ⟨ready, known⟩ := ih (h.perform w op) mem
      refine ⟨ready, ?_⟩
      rcases known with known | ⟨w', ids, among⟩
      · rw [installed, ← List.append_assoc]
        exact .inl known
      · exact .inr ⟨w', ids, List.mem_cons_of_mem _ among⟩

/-- The first of the pauses that are outstanding at the end of a session began between two parts of
it. -/
structure Since (ops before during : Session) : Prop where
  split : ∃ w, ops = before ++ (w, .setProcessing false) :: during
  before : outstanding 0 before = 0
  during : ∀ part, part <+: during → 0 < outstanding 1 part

/-- Where a pause is outstanding, there is the moment when it began. -/
theorem exists_since (paused : 0 < outstanding 0 ops) : ∃ before during, Since ops before during := by
  induction ops using List.reverseRecOn with
  | nil => cases paused
  | append_singleton ops op ih =>
    obtain ⟨w, op⟩ := op
    have last : outstanding 0 (ops ++ [(w, op)]) = op.count (outstanding 0 ops) :=
      outstanding_append 0 ops [(w, op)]
    by_cases none : outstanding 0 ops = 0
    · rw [last, none] at paused
      cases op with
      | setProcessing enabled =>
        cases enabled with
        | false =>
          refine ⟨ops, [], ⟨w, rfl⟩, none, fun part first => ?_⟩
          rw [List.prefix_nil.1 first]
          exact Nat.one_pos
        | true => cases paused
      | _ => cases paused
    · obtain ⟨before, during, ⟨w₀, rfl⟩, unpaused, still⟩ := ih (Nat.pos_of_ne_zero none)
      have all : outstanding 1 (during ++ [(w, op)]) =
          outstanding 0 (before ++ (w₀, .setProcessing false) :: during ++ [(w, op)]) := by
        rw [List.append_assoc, outstanding_append 0 before, unpaused]
        rfl
      refine ⟨before, during ++ [(w, op)], ⟨w₀, List.append_assoc ..⟩, unpaused, fun part first => ?_⟩
      rcases List.prefix_concat_iff.1 first with rfl | first
      · rwa [all]
      · exact still part first

/-- What pausing does in a session. -/
structure Defers (r : Registry) (ops : Session) : Prop where
  /-- Nothing is held back without a pause. -/
  empty : outstanding 0 ops = 0 → (r.after ops).gate.held = []
  /-- Lifting a pause where there is none does nothing. -/
  unmatched : outstanding 0 ops = 0 → ∀ w,
    (r.after ops).perform w (.setProcessing true) = ([], r.after ops)
  /-- As long as a pause is outstanding, no membership changes. -/
  silent : ∀ w op, 0 < outstanding 0 (ops ++ [(w, op)]) →
    (r.after ops).Silent ((r.after ops).perform w op)
  /-- What is asked for is what an operation runs. -/
  asks : ∀ w op, op.applies = true →
    ((r.after ops).perform w op).1 = ((r.after ops).serve w ((r.after ops).asks op)).1 ∧
    ((r.after ops).perform w op).2.ledger = ((r.after ops).serve w ((r.after ops).asks op)).2.ledger
  /-- What was asked for since the first pause is held back, in order. -/
  held : ∀ before during, Since ops before during →
    (r.after ops).gate.held = ((r.after before).pause.asked during).map Ask.request
  /-- A request refers to the constraint that was asked for. -/
  refers : ∀ before during, Since ops before during → ∀ a ∈ (r.after before).pause.asked during,
    (r.after ops).isRegistered a.constraint.ref = true ↔
      (r.after ops).constraint? a.constraint.tag = some a.constraint
  /-- Lifting the last pause serves what was asked for since the first one, in order and without
  pause, where the constraint is still the one of its tag. -/
  resumed : ∀ before during, Since ops before during → outstanding 0 ops = 1 → ∀ w,
    (r.after ops).perform w (.setProcessing true) =
      Registry.serve { r.after ops with gate := {} } w
        (((r.after before).pause.asked during).filter
          fun a => (r.after ops).isRegistered a.constraint.ref)

theorem Unused.paused (unused : r.Unused) : r.Paused 0 :=
  ⟨unused.running, congrArg Gate.pauses unused.gate, fun _ => congrArg Gate.held unused.gate⟩

theorem Unused.issued (unused : r.Unused) : r.Issued [] := by
  refine ⟨fun tag c found => ?_, fun c mem => ?_, fun c mem => ?_⟩
  · rw [unused.constraints] at found
    cases found
  · cases mem
  · cases mem

namespace Since

variable {before during : Session} (since : Since ops before during) (unused : r.Unused)
include since unused

/-- What was asked for since the first pause can be applied; it was installed, or the caller has it. -/
theorem mem_asked {a : Ask} (mem : a ∈ (r.after before).pause.asked during) :
    a.constraint.isReady = true ∧ (a.constraint ∈ r.installed ops ∨
      ∃ w ids, (w, .applyConstraint a.constraint ids) ∈ ops) := by
  obtain ⟨w, rfl⟩ := since.split
  obtain ⟨ready, known⟩ := Registry.mem_asked
    ((unused.issued.after before).perform w (.setProcessing false)) mem
  refine ⟨ready, known.imp (fun own => ?_) fun ⟨w', ids, passed⟩ => ⟨w', ids, ?_⟩⟩
  · rw [installed_append, installed, ← List.append_assoc]
    exact own
  · exact List.mem_append_right _ (List.mem_cons_of_mem _ passed)

/-- What was asked for since the first pause is held back. -/
theorem held : (r.after ops).gate.held = ((r.after before).pause.asked during).map Ask.request := by
  obtain ⟨w, rfl⟩ := since.split
  have empty := (unused.paused.after before).empty since.before
  have paused := (unused.paused.after before).perform w (.setProcessing false)
  rw [since.before] at paused
  rw [after_append]
  have later := paused.held_after since.during
  refine later.trans ?_
  change (r.after before).gate.held ++ _ = _
  rw [empty, List.nil_append]
  rfl

variable (named : ∀ w c ids, (w, .applyConstraint c ids) ∈ ops →
  ∀ d ∈ r.installed ops, d.ref = c.ref → d = c)
include named

/-- What a request refers to is what was asked for. -/
theorem eq_of_current? {a : Ask} (mem : a ∈ (r.after before).pause.asked during) {c : Constraint}
    (current : (r.after ops).current? a.constraint.ref = some c) : c = a.constraint := by
  have issued : (r.after ops).Issued (r.installed ops) := unused.issued.after ops
  obtain ⟨found, serial⟩ := current?_eq_some.1 current
  obtain ⟨known, filed⟩ := issued.registered _ c found
  obtain ⟨-, own | ⟨w, ids, passed⟩⟩ := since.mem_asked unused mem
  · exact issued.distinct c known a.constraint own serial
  · refine named w a.constraint ids passed c known ?_
    simp only [Constraint.ref, filed, serial]

theorem isRegistered_iff {a : Ask} (mem : a ∈ (r.after before).pause.asked during) :
    (r.after ops).isRegistered a.constraint.ref = true ↔
      (r.after ops).constraint? a.constraint.tag = some a.constraint := by
  constructor
  · intro registered
    obtain ⟨c, found⟩ := Option.isSome_iff_exists.1 registered
    cases since.eq_of_current? unused named mem found
    exact (current?_eq_some.1 found).1
  · intro found
    have registered : (r.after ops).current? a.constraint.ref = some a.constraint :=
      current?_eq_some.2 ⟨found, rfl⟩
    rw [isRegistered, registered]
    rfl

/-- Lifting the last pause serves what is held back. -/
theorem perform_resume (one : outstanding 0 ops = 1) (w : World) :
    (r.after ops).perform w (.setProcessing true) =
      Registry.serve { r.after ops with gate := {} } w
        (((r.after before).pause.asked during).filter
          fun a => (r.after ops).isRegistered a.constraint.ref) := by
  have now := unused.paused.after ops
  have pauses := now.pauses.trans one
  simp only [perform, setProcessing, resume, Gate.resume, pauses, if_true, since.held unused]
  have revived := revived_map_request (r := { r.after ops with gate := {} })
    fun a mem c found => since.eq_of_current? unused named mem found
  refine (runHeld_eq_serve (r := { r.after ops with gate := {} }) now.running rfl ?_).trans ?_
  · intro request mem c found
    obtain ⟨a, asked, rfl⟩ := List.mem_map.1 mem
    rw [since.eq_of_current? unused named asked found]
    exact (since.mem_asked unused asked).1
  · rw [revived]
    rfl

end Since

/-- Whatever is asked of a registry, pauses defer it and lose nothing. Where a caller has a constraint
of its own, this is told from the ones that were installed. -/
theorem pause_defers (unused : r.Unused) (ops : Session)
    (named : ∀ w c ids, (w, .applyConstraint c ids) ∈ ops →
      ∀ d ∈ r.installed ops, d.ref = c.ref → d = c) : r.Defers ops := by
  have now := unused.paused.after ops
  refine ⟨now.empty, fun unpaused w => ?_, fun w op paused => ?_, fun w op applies => ?_,
    fun before during since => since.held unused,
    fun before during since a mem => since.isRegistered_iff unused named mem,
    fun before during since one w => since.perform_resume unused named one w⟩
  · have gate : (r.after ops).gate = {} := Paused.gate_eq (unpaused ▸ now)
    simp only [perform, setProcessing, resume, gate, Gate.resume, if_true]
    rw [← gate]
    rfl
  · rw [outstanding_append] at paused
    exact (now.defers w paused).1
  · obtain ⟨done, same⟩ := perform_eq_serve (r.after ops) w applies
    rw [same]
    exact ⟨rfl, rfl⟩

/-- A constraint of the first tag, as it is installed before any other. -/
def early : Constraint :=
  (Constraint.build {} 0 ⟨1⟩ "true" "" true).1

/-- The constraint of the first tag is replaced in a pause, before and after it was asked for. -/
def replacement : Session :=
  [({}, .setConstraint ⟨1⟩ "true" "" true), ({}, .setProcessing false), ({}, .applyToOne ⟨7⟩),
    ({}, .setConstraint ⟨1⟩ "!isPaused()" "" true), ({}, .applyConstraint early [⟨7⟩]),
    ({}, .applyToOne ⟨7⟩)]

theorem replacement_defers : Unused {} ∧ Defers {} replacement := by
  have unused : Unused {} := ⟨rfl, rfl, rfl⟩
  refine ⟨unused, pause_defers unused replacement fun w c ids mem => ?_⟩
  have passed : c = early := by
    simp only [replacement, List.mem_cons, Prod.mk.injEq, List.not_mem_nil, or_false,
      Operation.applyConstraint.injEq, reduceCtorEq, and_false, false_or] at mem
    exact mem.2.1
  obtain ⟨late, all, serial⟩ : ∃ late, installed {} replacement = [early, late] ∧ late.serial = 1 :=
    ⟨_, rfl, rfl⟩
  rw [all]
  intro d mem' same
  rcases List.mem_cons.1 mem' with rfl | mem'
  · exact passed.symm
  · rw [List.mem_singleton.1 mem', passed] at same
    have number : late.serial = early.serial := congrArg ConstraintRef.serial same
    rw [serial] at number
    cases number

end Registry

end TagRules

import TagRules.Proofs.Registry.Deferral
import TagRules.Proofs.Registry.Steps

/-!
# Moves and the constraints that make them

A pass asks the store to change a membership, notes an addition in the history, and notes the subject as
touched. It does all three without waiting for an answer of the store. Such a request is a move
(`Ledger.Move`), made for a constraint and a subject whether the store heeds it or not. `Ledger.Moves`
are the moves of a run, from which the rest is read: the history and the subjects touched follow from all
moves, the log from the moves about tags that are in the store (`Registry.Moves`). A constraint that is
not in play for an operation makes no move, and its tag keeps its diagnostic.
-/

namespace TagRules

/-- Note a move in the history. Only additions are noted. -/
def AddHistory.move (ticks : Nat) (h : AddHistory) : Change → AddHistory
  | .added tag subject => h.note tag subject ticks
  | .removed _ _ => h

theorem Pass.isRecent_eq_true {w : World} {book : Rulebook} {c : Constraint} {id : SubjectId}
    {h : AddHistory} : Pass.isRecent w book c id h = true ↔
      ∃ last, h.last? c.tag id = some last ∧ w.ticks - last < book.cooldown := by
  unfold Pass.isRecent
  cases h.last? c.tag id with
  | none => simp
  | some last => simp

/-- The tag of a change is in the store. -/
def TagStore.heeds (s : TagStore) (change : Change) : Bool :=
  (s.tag? change.tag).isSome

namespace TagStore

/-- An addition leaves diagnostics alone. -/
theorem diagnostic?_add (s : TagStore) (now : Instant) (tag : TagId) (id : SubjectId) (u : TagId) :
    (s.add now tag id).diagnostic? u = s.diagnostic? u := by
  unfold add
  split
  · rfl
  · split <;> rfl

/-- A removal leaves diagnostics alone. -/
theorem diagnostic?_remove (s : TagStore) (tag : TagId) (id : SubjectId) (u : TagId) :
    (s.remove tag id).diagnostic? u = s.diagnostic? u := by
  unfold remove
  split
  · rfl
  · split <;> rfl

end TagStore

namespace Ledger

/-- A step for a constraint and a subject, with the move that is made, if any. -/
inductive Move (w : World) (book : Rulebook) (c : Constraint) (r : SubjectRecord) (l : Ledger) :
    List Change → Ledger → Prop
  | test : Move w book c r l [] (l.tested w c r)
  /-- The subject is in the tag, and the constraint does not hold. -/
  | leave (running : book.stopping = false) (allowed : c.options.autoRemove = true)
    (truth : c.truth w r l.services = false)
    (member : l.services.store.isTagged c.tag r.id = true) :
    Move w book c r l [.removed c.tag r.id] (l.left c.tag r.id)
  /-- The subject is not in the tag, the constraint holds, and it did not add the subject too
  recently. -/
  | join (running : book.stopping = false) (allowed : c.options.autoAdd = true)
    (truth : c.truth w r l.services = true)
    (absent : l.services.store.isTagged c.tag r.id = false)
    (rested : Pass.isRecent w book c r.id l.history = false) :
    Move w book c r l [.added c.tag r.id] (l.joined w c.tag r.id)

/-- Steps one after the other for some constraints and subjects, with their moves, oldest first. -/
inductive Moves (w : World) (book : Rulebook) (among : Constraint → SubjectRecord → Prop)
    (l : Ledger) : List Change → Ledger → Prop
  | refl : Moves w book among l [] l
  | step {moves more m l' c r} (before : Moves w book among l moves m) (due : among c r)
    (last : m.Move w book c r more l') : Moves w book among l (moves ++ more) l'

variable {w : World} {book : Rulebook} {c : Constraint} {r : SubjectRecord}
  {among among' : Constraint → SubjectRecord → Prop} {l l' l'' : Ledger} {moves more : List Change}

/-- A test reports to the tag of the constraint, if at all. -/
theorem tested_diagnostic? (l : Ledger) (w : World) (c : Constraint) (r : SubjectRecord) {tag : TagId}
    (other : tag ≠ c.tag) :
    (l.tested w c r).services.store.diagnostic? tag = l.services.store.diagnostic? tag := by
  unfold tested Pass.tested Pass.test
  cases c.expr? with
  | none => rfl
  | some e =>
    have kept := (e.holds_reads ⟨w, c.tag, r, l.services.store.tagsOf r.id⟩).keeps
      { services := l.services }
    exact kept.diagnostics tag other

namespace Move

/-- A step moves the subject into or out of the tag of the constraint. -/
theorem mem (h : l.Move w book c r moves l') {m : Change} (mem : m ∈ moves) :
    moves = [m] ∧ m.tag = c.tag ∧ m.subject = r.id := by
  cases h with
  | test => cases mem
  | leave | join =>
    cases List.mem_singleton.1 mem
    exact ⟨rfl, rfl, rfl⟩

theorem tag? (h : l.Move w book c r moves l') (tag : TagId) :
    l'.services.store.tag? tag = l.services.store.tag? tag := by
  cases h with
  | test => exact TagStore.tag?_congr (tested_rolls ..)
  | leave => exact TagStore.tag?_remove ..
  | join => exact TagStore.tag?_add ..

theorem history (h : l.Move w book c r moves l') :
    l'.history = moves.foldl (.move w.ticks) l.history := by
  cases h with
  | test => exact tested_history ..
  | leave => rfl
  | join => rfl

/-- The store heeds a move if its tag is there, since a subject that leaves is a member and one that
joins is not. -/
theorem log (h : l.Move w book c r moves l') :
    l'.services.store.log = moves.filter l.services.store.heeds ++ l.services.store.log := by
  cases h with
  | test => exact tested_log ..
  | leave running allowed truth member =>
    have there : l.services.store.heeds (.removed c.tag r.id) = true := by
      rw [TagStore.isTagged_eq] at member
      unfold TagStore.heeds TagStore.tag? Change.tag
      cases found : l.services.store.rolls.get? c.tag with
      | none => rw [found] at member; cases member
      | some roll => rfl
    rw [List.filter_cons_of_pos there, List.filter_nil]
    exact TagStore.remove_of_isTagged member
  | join running allowed truth absent =>
    have new : (l.services.store.addedTime? c.tag r.id).isNone = true := by
      rw [TagStore.isTagged] at absent
      rw [Option.isNone_iff_eq_none, ← Option.not_isSome_iff_eq_none, absent]
      exact Bool.false_ne_true
    refine (TagStore.log_add ..).trans ?_
    cases there : (l.services.store.tag? c.tag).isSome with
    | true => simp [TagStore.heeds, Change.tag, there, new]
    | false => simp [TagStore.heeds, Change.tag, there]

theorem diagnostic? (h : l.Move w book c r moves l') {tag : TagId} (other : tag ≠ c.tag) :
    l'.services.store.diagnostic? tag = l.services.store.diagnostic? tag := by
  cases h with
  | test => exact tested_diagnostic? l w c r other
  | leave => exact TagStore.diagnostic?_remove ..
  | join => exact TagStore.diagnostic?_add ..

end Move

namespace Moves

theorem single (due : among c r) (h : l.Move w book c r moves l') : l.Moves w book among moves l' := by
  have one := Moves.refl.step due h
  rwa [List.nil_append] at one

theorem trans (first : l.Moves w book among moves l') (second : l'.Moves w book among more l'') :
    l.Moves w book among (moves ++ more) l'' := by
  induction second with
  | refl => rwa [List.append_nil]
  | step _ due last ih =>
    rw [← List.append_assoc]
    exact ih.step due last

theorem imp (weaker : ∀ c r, among c r → among' c r) (h : l.Moves w book among moves l') :
    l.Moves w book among' moves l' := by
  induction h with
  | refl => exact .refl
  | step _ due last ih => exact ih.step (weaker _ _ due) last

theorem tag? (h : l.Moves w book among moves l') (tag : TagId) :
    l'.services.store.tag? tag = l.services.store.tag? tag := by
  induction h with
  | refl => rfl
  | step _ _ last ih => exact (last.tag? tag).trans ih

/-- Descriptors stay, so it is known from the start which moves the store heeds. -/
theorem heeds (h : l.Moves w book among moves l') :
    l'.services.store.heeds = l.services.store.heeds :=
  funext fun change => congrArg Option.isSome (h.tag? change.tag)

theorem history (h : l.Moves w book among moves l') :
    l'.history = moves.foldl (.move w.ticks) l.history := by
  induction h with
  | refl => rfl
  | step _ _ last ih => rw [List.foldl_append, ← ih, last.history]

theorem log (h : l.Moves w book among moves l') : l'.services.store.log =
    (moves.filter l.services.store.heeds).reverse ++ l.services.store.log := by
  induction h with
  | refl => rfl
  | @step moves more m l' c r before _ last ih =>
    have one : more.reverse = more := by cases last <;> rfl
    rw [last.log, ih, before.heeds, List.filter_append, List.reverse_append, List.append_assoc,
      ← List.filter_reverse (l := more), one]

/-- The diagnostic of a tag stays if no constraint of that tag is tested. -/
theorem diagnostic? (h : l.Moves w book among moves l') {tag : TagId}
    (others : ∀ c r, among c r → c.tag ≠ tag) :
    l'.services.store.diagnostic? tag = l.services.store.diagnostic? tag := by
  induction h with
  | refl => rfl
  | step _ due last ih => exact (last.diagnostic? (others _ _ due).symm).trans ih

/-- What was added too recently stays so: an addition that is noted is more recent still. -/
theorem isRecent (h : l.Moves w book among moves l') {id : SubjectId}
    (recent : Pass.isRecent w book c id l.history = true) :
    Pass.isRecent w book c id l'.history = true := by
  induction h with
  | refl => exact recent
  | @step _ _ m l' d r _ _ last ih =>
    obtain ⟨since, found, short⟩ := Pass.isRecent_eq_true.1 ih
    rw [Pass.isRecent_eq_true]
    cases last with
    | test => exact ⟨since, by rwa [tested_history], short⟩
    | leave => exact ⟨since, found, short⟩
    | join =>
      by_cases same : d.tag = c.tag ∧ r.id = id
      · obtain ⟨tag, rfl⟩ := same
        exact ⟨w.ticks, tag ▸ AddHistory.last?_note_self .., by omega⟩
      · exact ⟨since, (AddHistory.last?_note _ _ _ _ same).trans found, short⟩

end Moves

end Ledger

/-- From one state of a pass to another by moves for some constraints and subjects. -/
def PassState.Moves (w : World) (book : Rulebook) (among : Constraint → SubjectRecord → Prop)
    (s t : PassState) : Prop :=
  ∃ moves, s.ledger.Moves w book among moves t.ledger ∧
    t.touched = (moves.map (·.subject)).reverse ++ s.touched

namespace PassState.Moves

variable {w : World} {book : Rulebook} {among among' : Constraint → SubjectRecord → Prop}
  {s t u : PassState}

theorem of_eq (ledger : t.ledger = s.ledger) (touched : t.touched = s.touched) :
    s.Moves w book among t :=
  ⟨[], ledger ▸ .refl, touched⟩

theorem trans (first : s.Moves w book among t) (second : t.Moves w book among u) :
    s.Moves w book among u := by
  obtain ⟨moves, first, touched⟩ := first
  obtain ⟨more, second, touched'⟩ := second
  refine ⟨moves ++ more, first.trans second, ?_⟩
  rw [touched', touched, List.map_append, List.reverse_append, List.append_assoc]

theorem imp (weaker : ∀ c r, among c r → among' c r) (h : s.Moves w book among t) :
    s.Moves w book among' t := by
  obtain ⟨moves, made, touched⟩ := h
  exact ⟨moves, made.imp weaker, touched⟩

theorem foldl {f : PassState → α → PassState} (as : List α)
    (h : ∀ a ∈ as, ∀ s, PassState.Moves w book among s (f s a)) (s : PassState) :
    s.Moves w book among (as.foldl f s) :=
  List.foldlRecOn as f (motive := s.Moves w book among) (.of_eq rfl rfl)
    fun t moves a mem => moves.trans (h a mem t)

end PassState.Moves

/-- The constraints that are decided with a constraint: itself, and those of the rulebook. -/
def Rulebook.Decides (book : Rulebook) (root c : Constraint) : Prop :=
  c = root ∨ ∃ tag, book.constraints.get? tag = some c

/-- A dependency is decided with constraints of the rulebook only. -/
theorem Rulebook.Decides.of_registered {book : Rulebook} {root dep c : Constraint} {tag : TagId}
    (found : book.constraints.get? tag = some dep) (h : book.Decides dep c) : book.Decides root c := by
  rcases h with rfl | registered
  · exact .inr ⟨tag, found⟩
  · exact .inr registered

namespace Pass

variable {w : World} {book : Rulebook} {c : Constraint} {r : SubjectRecord}

theorem tested_moves (w : World) (book : Rulebook) (c : Constraint) (r : SubjectRecord)
    (s : PassState) : s.Moves w book (fun d q => book.Decides c d ∧ q = r) (tested w c r s) := by
  rw [tested_eq]
  exact ⟨[], .single ⟨.inl rfl, rfl⟩ .test, rfl⟩

theorem removed_moves {s : PassState} (truth : c.truth w r s.ledger.services = false) :
    s.Moves w book (fun d q => book.Decides c d ∧ q = r) (removed book c r.id s) := by
  unfold removed
  split
  · next h =>
    simp only [Bool.and_eq_true, Bool.not_eq_true'] at h
    obtain ⟨⟨allowed, member⟩, running⟩ := h
    exact ⟨_, .single ⟨.inl rfl, rfl⟩ (.leave running allowed truth member), rfl⟩
  · exact .of_eq rfl rfl

theorem added_moves {s : PassState} (truth : c.truth w r s.ledger.services = true)
    (allowed : c.options.autoAdd = true)
    (absent : s.ledger.services.store.isTagged c.tag r.id = false) :
    s.Moves w book (fun d q => book.Decides c d ∧ q = r) (added w book c r.id s) := by
  unfold added
  split
  · exact .of_eq rfl rfl
  · next h =>
    simp only [Bool.or_eq_true, not_or, Bool.not_eq_true] at h
    obtain ⟨running, rested⟩ := h
    exact ⟨_, .single ⟨.inl rfl, rfl⟩ (.join running allowed truth absent rested), rfl⟩

/-- Deciding makes moves for the constraint and those of the rulebook. The induction is on the depth of
the dependencies. -/
theorem decided_moves (w : World) (book : Rulebook) (r : SubjectRecord) (depth : Nat) (check : Bool)
    (c : Constraint) (s : PassState) : s.Moves w book (fun d q => book.Decides c d ∧ q = r)
      (decided w book r depth check c s) := by
  induction depth using Nat.strongRecOn generalizing check c s with
  | ind depth ih =>
    have first := tested_moves w book c r s
    have kept := tested_untouched w c r s
    have decision := decision w book r depth check c s
    generalize decided w book r depth check c s = t at decision ⊢
    cases decision with
    | skip => exact .of_eq rfl rfl
    | leave truth => exact first.trans (removed_moves ((truth_tested w c r s).trans truth))
    | stay => exact first
    | join truth allowed absent =>
      exact first.trans (added_moves ((truth_tested w c r s).trans truth) allowed
        ((kept.isTagged c.tag r.id).trans absent))
    | @defer deeper _ _ _ depth_eq =>
      have lt : deeper < depth := by omega
      have marked : s.Moves w book (fun d q => book.Decides c d ∧ q = r)
          { tested w c r s with visited := c.tag :: s.visited } := first.trans (.of_eq rfl rfl)
      have before := marked.trans (.foldl (firsts book check c) (fun dep mem s => by
        obtain ⟨tag, -, found, -⟩ := of_mem_firsts mem
        exact (ih deeper lt true dep s).imp fun d q due => ⟨.of_registered found due.1, due.2⟩) _)
      exact before.trans (ih deeper lt false c _)

theorem decidedEach_moves (w : World) (book : Rulebook) (c : Constraint) (check : Bool)
    (ids : List SubjectId) (s : PassState) :
    s.Moves w book (fun d q => book.Decides c d ∧ w.Recorded (· ∈ ids) q)
      (ids.foldl (decidedFor w book c check) s) := by
  refine .foldl ids (fun id mem s => ?_) s
  unfold decidedFor
  cases found : w.subjects.get? id with
  | none => exact .of_eq rfl rfl
  | some subject =>
    dsimp only
    split
    · exact .of_eq rfl rfl
    · have clean : s.Moves w book (fun d q => book.Decides c d ∧ q = subject.record)
          { s with visited := [] } := .of_eq rfl rfl
      refine (clean.trans (decided_moves ..)).imp fun d q due => ?_
      exact ⟨due.1, id, subject, mem, found, due.2.symm⟩

end Pass

/-- A request makes some moves: it reports their subjects as touched, and changes nothing that passes
read. -/
structure Registry.Moves (w : World) (among : Constraint → SubjectRecord → Prop) (r : Registry)
    (moves : List Change) (result : List SubjectId × Registry) : Prop where
  ledger : r.ledger.Moves w r.rulebook among moves result.2.ledger
  touched : result.1 = moves.map (·.subject)
  rulebook : result.2.rulebook = r.rulebook

namespace Registry

variable {w : World} {among among' : Constraint → SubjectRecord → Prop} {r r' r'' : Registry}
  {moves made : List Change} {ids more : List SubjectId} {op : Operation}

namespace Moves

theorem refl (r : Registry) : r.Moves w among [] ([], r) :=
  ⟨.refl, rfl, rfl⟩

theorem trans (first : r.Moves w among moves (ids, r')) (second : r'.Moves w among made (more, r'')) :
    r.Moves w among (moves ++ made) (ids ++ more, r'') where
  ledger := by
    have later := second.ledger
    rw [first.rulebook] at later
    exact first.ledger.trans later
  touched := by rw [List.map_append, ← first.touched, ← second.touched]
  rulebook := second.rulebook.trans first.rulebook

theorem imp (weaker : ∀ c q, among c q → among' c q) {result : List SubjectId × Registry}
    (h : r.Moves w among moves result) : r.Moves w among' moves result :=
  ⟨h.ledger.imp weaker, h.touched, h.rulebook⟩

end Moves

/-- A constraint of the registry, or one that the caller hands in. -/
def InPlay (r : Registry) (op : Operation) (c : Constraint) : Prop :=
  (∃ tag, r.constraints.get? tag = some c) ∨ ∃ ids, op = .applyConstraint c ids

/-- The subjects that an operation is about, those of requests that were held back included. -/
def Concerns (r : Registry) : Operation → SubjectId → Prop
  | .applyToOne one, id => id = one
  | .applyToMany _ ids, id => id ∈ ids
  | .applyConstraint _ ids, id => id ∈ ids
  | .setProcessing _, id => ∃ request ∈ r.gate.held, id ∈ request.subjects
  | _, _ => False

/-- The operation decides constraints, or lets decide those that were held back. -/
def Operation.decides : Operation → Bool
  | .setConstraint .. => false
  | .removeConstraint _ => false
  | _ => true

theorem runPass_moves (w : World) (r : Registry) (c : Constraint) (check : Bool)
    (ids : List SubjectId) : ∃ moves,
      r.Moves w (fun d q => r.rulebook.Decides c d ∧ w.Recorded (· ∈ ids) q) moves
        (r.runPass (Pass.decideEach w r.rulebook c check ids)) := by
  obtain ⟨moves, made, touched⟩ :=
    Pass.decidedEach_moves w r.rulebook c check ids { ledger := r.ledger }
  refine ⟨moves, ?_⟩
  unfold runPass
  rw [Pass.decideEach_run]
  refine ⟨made, ?_, rfl⟩
  dsimp only
  rw [touched, List.append_nil, List.reverse_reverse]

theorem apply_moves (w : World) (r : Registry) (c : Constraint) (check : Bool)
    (ids : List SubjectId) : ∃ moves,
      r.Moves w (fun d q => r.rulebook.Decides c d ∧ w.Recorded (· ∈ ids) q) moves
        (r.apply w c check ids) := by
  unfold apply
  split
  · exact ⟨[], .refl r⟩
  · split
    · exact runPass_moves w r c check ids
    · exact ⟨[], .refl, rfl, rfl⟩

/-- Requests one after the other, for constraints that are registered or among some others. -/
theorem serve_moves (w : World) (as : List Ask)
    (due : ∀ a ∈ as, ∀ d q, r.rulebook.Decides a.constraint d ∧ w.Recorded (· ∈ a.subjects) q →
      among d q) : ∃ moves, r.Moves w among moves (r.serve w as) := by
  induction as generalizing r with
  | nil => exact ⟨[], .refl r⟩
  | cons a as ih =>
    obtain ⟨moves, first⟩ := apply_moves w r a.constraint a.check a.subjects
    have first := first.imp (due a List.mem_cons_self)
    obtain ⟨more, rest⟩ := ih (r := (r.apply w a.constraint a.check a.subjects).2) fun b mem => by
      rw [first.rulebook]
      exact due b (List.mem_cons_of_mem _ mem)
    exact ⟨moves ++ more, first.trans rest⟩

/-- A request that was held back is run for the constraint that is registered now. -/
theorem runHeld_moves (r : Registry) (w : World) (requests : List Request)
    (due : ∀ request ∈ requests, ∀ d q, (∃ tag, r.constraints.get? tag = some d) →
      w.Recorded (· ∈ request.subjects) q → among d q) :
    ∃ moves, r.Moves w among moves (r.runHeld w requests) := by
  induction requests generalizing r with
  | nil => exact ⟨[], .refl r⟩
  | cons request requests ih =>
    have later (other : Request) (mem : other ∈ requests) := due other (List.mem_cons_of_mem _ mem)
    cases current : r.current? request.constraint with
    | none =>
      simp only [runHeld, current]
      obtain ⟨moves, rest⟩ := ih r later
      exact ⟨[] ++ moves, (Moves.refl r).trans rest⟩
    | some c =>
      simp only [runHeld, current]
      have found := (current?_eq_some.1 current).1
      obtain ⟨moves, first⟩ := runPass_moves w r c request.checkDependencies request.subjects
      have first : r.Moves w among moves _ := first.imp fun d q h =>
        due request List.mem_cons_self d q (h.1.elim (fun own => own ▸ ⟨_, found⟩) id) h.2
      have kept : (r.runPass (Pass.decideEach w r.rulebook c request.checkDependencies
          request.subjects)).2.constraints = r.constraints :=
        congrArg Rulebook.constraints first.rulebook
      obtain ⟨more, rest⟩ := ih _ (by rwa [kept])
      exact ⟨moves ++ more, first.trans rest⟩

/-- What is asked for is about the subjects that the operation concerns. -/
theorem concerns_of_mem_asks {a : Ask} (mem : a ∈ r.asks op) {id : SubjectId}
    (about : id ∈ a.subjects) : r.Concerns op id := by
  have swept {cs : List Constraint} {check : Bool} {ids : List SubjectId}
      (mem : a ∈ sweep cs check ids) : id ∈ ids := by
    obtain ⟨c, -, rfl⟩ := List.mem_map.1 mem
    exact about
  cases op with
  | applyToOne one => exact List.mem_singleton.1 (swept mem)
  | applyToMany initial ids =>
    cases initial with
    | false => exact swept mem
    | true => exact (List.mem_append.1 mem).elim swept swept
  | applyConstraint c ids => exact swept mem
  | _ => cases mem

/-- An operation makes moves for constraints in play and for the subjects that it concerns. -/
theorem perform_moves (r : Registry) (w : World) (decides : op.decides = true) : ∃ moves,
    r.Moves w (fun c q => r.InPlay op c ∧ w.Recorded (r.Concerns op) q) moves (r.perform w op) := by
  cases applies : op.applies with
  | true =>
    obtain ⟨done, same⟩ := perform_eq_serve r w applies
    rw [same]
    have due (a : Ask) (mem : a ∈ r.asks op) (d : Constraint) (q : SubjectRecord)
        (h : r.rulebook.Decides a.constraint d ∧ w.Recorded (· ∈ a.subjects) q) :
        r.InPlay op d ∧ w.Recorded (r.Concerns op) q := by
      refine ⟨?_, h.2.imp fun id about => concerns_of_mem_asks mem about⟩
      rcases h.1 with rfl | registered
      · exact registered_of_mem_asks mem
      · exact .inl registered
    obtain ⟨moves, served⟩ := serve_moves w (r.asks op) due
    exact ⟨moves, served.ledger, served.touched, served.rulebook⟩
  | false =>
    cases op with
    | setProcessing enabled =>
      cases enabled with
      | false => exact ⟨[], .refl, rfl, rfl⟩
      | true =>
        have among : ∀ request ∈ r.gate.resume.1, request ∈ r.gate.held := by
          intro request mem
          unfold Gate.resume at mem
          split at mem
          · cases mem
          · exact mem
          · cases mem
        have due (request : Request) (mem : request ∈ r.gate.resume.1) (d : Constraint)
            (q : SubjectRecord) (found : ∃ tag, r.constraints.get? tag = some d)
            (h : w.Recorded (· ∈ request.subjects) q) :
            r.InPlay (.setProcessing true) d ∧ w.Recorded (r.Concerns (.setProcessing true)) q :=
          ⟨.inl found, h.imp fun id about => ⟨request, among request mem, about⟩⟩
        obtain ⟨moves, held⟩ :=
          runHeld_moves { r with gate := r.gate.resume.2 } w r.gate.resume.1 due
        exact ⟨moves, held.ledger, held.touched, held.rulebook⟩
    | setConstraint tag text options enabled => cases decides
    | removeConstraint tag => cases decides
    | _ => cases applies

end Registry

end TagRules

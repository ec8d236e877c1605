import TagRules.Proofs.Engine.Steps

/-!
# Additions keep their distance

A subject that was added to a tag is not added to it again before the cooldown is over, whatever
happens in between, unless the registry forgets when subjects were added. The chronicle of a run lists
its automatic changes with their times, and counts how often the registry has forgotten before
(`Engine.Dated`). `Engine.Paced` ties it to what the registry keeps: since the last time that was
forgotten, it knows of every addition, or of a later one for the same subject and tag. Every step keeps
this, and so every run keeps its additions apart (`Engine.additions_apart`).
-/

namespace TagRules

namespace Engine

/-- What can be done to an engine or, past it, to its registry. -/
inductive Act where
  | event (event : Event)
  | operation (op : Registry.Operation)
  | clearHistory
  | stopRegistry

/-- An automatic change of membership, the time of its world, and how often it was forgotten before
when subjects were added. -/
structure Dated where
  era : Nat
  ticks : Nat
  change : Change
deriving DecidableEq, Repr

/-- The act comes from outside and changes the tag store directly. -/
def Act.isOutside : Act → Bool
  | .event e => e.isOutside
  | _ => false

/-- The engine after an act. -/
def act (e : Engine) (w : World) : Act → Engine
  | .event event => e.perform w event
  | .operation op => { e with registry := (e.registry.perform w op).2 }
  | .clearHistory => { e with registry := e.registry.clearHistory }
  | .stopRegistry => { e with registry := e.registry.stop }

/-- It is forgotten when subjects were added: this is asked for, the periodic pass runs, or the engine
becomes idle. -/
def forgets (e : Engine) (w : World) : Act → Bool
  | .clearHistory => true
  | .event .work => e.queue.head? = some .reapply
  | .event .stop => false
  | .event event => e.active && !(e.perform w event).active
  | _ => false

/-- The automatic changes of an act, oldest first: what the log gains, unless somebody else changes tags
or members. -/
def changes (e : Engine) (w : World) (a : Act) : List Change :=
  if a.isOutside then []
  else
    let log := (e.act w a).registry.store.log
    (log.take (log.length - e.registry.store.log.length)).reverse

/-- The automatic changes of a run, oldest first. -/
def chronicle (e : Engine) (era : Nat) : List (World × Act) → List Dated
  | [] => []
  | (w, a) :: acts =>
    let era := if e.forgets w a then era + 1 else era
    (e.changes w a).map (⟨era, w.ticks, ·⟩) ++ (e.act w a).chronicle era acts

/-- Two changes are not two additions of one subject to one tag, or it was forgotten in between, or the
cooldown is over. -/
def Dated.Apart (cooldown : Nat) (x y : Dated) : Prop :=
  ∀ tag id, x.change = .added tag id → y.change = .added tag id → x.era = y.era →
    x.ticks + cooldown ≤ y.ticks

/-- Past changes are apart, and of the additions that were not forgotten, the history knows these or
later ones. -/
structure Paced (cooldown now era : Nat) (history : AddHistory) (past : List Dated) : Prop where
  apart : past.Pairwise (Dated.Apart cooldown)
  eras : ∀ x ∈ past, x.era ≤ era
  known : ∀ x ∈ past, x.era = era → ∀ tag id, x.change = .added tag id →
    ∃ last, history.last? tag id = some last ∧ x.ticks ≤ last ∧ last ≤ now

namespace Paced

variable {cooldown now later era : Nat} {history : AddHistory} {past : List Dated} {tag : TagId}
  {id : SubjectId}

theorem nil (cooldown now era : Nat) (history : AddHistory) : Paced cooldown now era history [] :=
  ⟨.nil, fun _ mem => (nomatch mem), fun _ mem => (nomatch mem)⟩

/-- Time passes. -/
theorem wait (h : Paced cooldown now era history past) (passes : now ≤ later) :
    Paced cooldown later era history past where
  apart := h.apart
  eras := h.eras
  known x mem same tag id added := by
    obtain ⟨last, found, after, before⟩ := h.known x mem same tag id added
    exact ⟨last, found, after, Nat.le_trans before passes⟩

/-- What was forgotten need not be known. -/
theorem forget (h : Paced cooldown now era history past) (other : AddHistory) :
    Paced cooldown now (era + 1) other past where
  apart := h.apart
  eras x mem := Nat.le_trans (h.eras x mem) (Nat.le_succ era)
  known x mem same := by
    have old := h.eras x mem
    omega

/-- A change belongs to the present era. -/
theorem eras_snoc (h : Paced cooldown now era history past) (change : Change) :
    ∀ x ∈ past ++ [⟨era, now, change⟩], x.era ≤ era := by
  intro x mem
  rcases List.mem_append.1 mem with old | new
  · exact h.eras x old
  · cases List.mem_singleton.1 new
    exact Nat.le_refl era

/-- A subject leaves a tag. -/
theorem remove (h : Paced cooldown now era history past) (tag : TagId) (id : SubjectId) :
    Paced cooldown now era history (past ++ [⟨era, now, .removed tag id⟩]) where
  apart := by
    refine List.pairwise_append.2 ⟨h.apart, List.pairwise_singleton _ _, fun x _ y mem => ?_⟩
    cases List.mem_singleton.1 mem
    exact fun _ _ _ removed => nomatch removed
  eras := h.eras_snoc _
  known x mem same u other added := by
    rcases List.mem_append.1 mem with old | new
    · exact h.known x old same u other added
    · cases List.mem_singleton.1 new
      cases added

/-- An addition is noted. -/
theorem note (h : Paced cooldown now era history past) (tag : TagId) (id : SubjectId) :
    Paced cooldown now era (history.note tag id now) past where
  apart := h.apart
  eras := h.eras
  known x mem same u other added := by
    obtain ⟨last, found, after, before⟩ := h.known x mem same u other added
    by_cases this : tag = u ∧ id = other
    · obtain ⟨rfl, rfl⟩ := this
      exact ⟨now, history.last?_note_self tag id now, Nat.le_trans after before, Nat.le_refl now⟩
    · exact ⟨last, (history.last?_note tag id now this).trans found, after, before⟩

/-- A subject that was not added too recently joins a tag, which is noted. -/
theorem add (h : Paced cooldown now era history past)
    (rested : ∀ last, history.last? tag id = some last → ¬now - last < cooldown) :
    Paced cooldown now era (history.note tag id now) (past ++ [⟨era, now, .added tag id⟩]) where
  apart := by
    refine List.pairwise_append.2 ⟨h.apart, List.pairwise_singleton _ _, fun x old y mem => ?_⟩
    cases List.mem_singleton.1 mem
    intro u other added this same
    cases this
    obtain ⟨last, found, after, before⟩ := h.known x old same tag id added
    have ended := rested last found
    dsimp only
    omega
  eras := h.eras_snoc _
  known x mem same u other added := by
    rcases List.mem_append.1 mem with old | new
    · exact (h.note tag id).known x old same u other added
    · cases List.mem_singleton.1 new
      cases added
      exact ⟨now, history.last?_note_self tag id now, Nat.le_refl now, Nat.le_refl now⟩

variable {w : World} {book : Rulebook} {who : SubjectRecord → Prop} {r : SubjectRecord}
  {l l' : Ledger} {ids : List SubjectId}

/-- What a step adds to the log is apart from what was there. -/
theorem step (h : Paced book.cooldown w.ticks era l.history past) (step : l.Step w book r ids l') :
    ∃ made : List Change, l'.services.store.log = made.reverse ++ l.services.store.log ∧
      Paced book.cooldown w.ticks era l'.history (past ++ made.map (⟨era, w.ticks, ·⟩)) := by
  cases step with
  | test c =>
    refine ⟨[], l.tested_log w c r, ?_⟩
    rw [List.map_nil, List.append_nil, l.tested_history]
    exact h
  | leave c _ _ _ member => exact ⟨[_], TagStore.remove_of_isTagged member, h.remove c.tag r.id⟩
  | join c _ _ _ absent rested =>
    have ended (last : Nat) (found : l.history.last? c.tag r.id = some last) :
        ¬w.ticks - last < book.cooldown := by
      unfold Pass.isRecent at rested
      rw [found] at rested
      exact of_decide_eq_false rested
    rcases TagStore.add_of_not_isTagged w.now absent with ⟨-, same⟩ | logged
    · refine ⟨[], congrArg TagStore.log same, ?_⟩
      rw [List.map_nil, List.append_nil]
      exact h.note c.tag r.id
    · exact ⟨[_], logged, h.add ended⟩

/-- What several steps add to the log is apart. -/
theorem steps (h : Paced book.cooldown w.ticks era l.history past)
    (steps : l.Steps w book who ids l') :
    ∃ made : List Change, l'.services.store.log = made.reverse ++ l.services.store.log ∧
      Paced book.cooldown w.ticks era l'.history (past ++ made.map (⟨era, w.ticks, ·⟩)) := by
  induction steps with
  | refl =>
    refine ⟨[], rfl, ?_⟩
    rwa [List.map_nil, List.append_nil]
  | step _ _ last ih =>
    obtain ⟨made, log, paced⟩ := ih
    obtain ⟨more, log', paced'⟩ := paced.step last
    refine ⟨made ++ more, ?_, ?_⟩
    · rw [log', log, List.reverse_append, List.append_assoc]
    · rwa [List.map_append, ← List.append_assoc]

end Paced

variable {e : Engine} {w : World} {a : Act} {era : Nat} {past : List Dated}

/-- The changes of an act are what the log gains. -/
theorem changes_of_log (inside : a.isOutside = false) {made : List Change}
    (log : (e.act w a).registry.store.log = made.reverse ++ e.registry.store.log) :
    e.changes w a = made := by
  unfold changes
  rw [if_neg (by simp [inside])]
  dsimp only
  rw [log, List.length_append, Nat.add_sub_cancel, List.take_left, List.reverse_reverse]

theorem changes_eq_nil (inside : a.isOutside = false)
    (log : (e.act w a).registry.store.log = e.registry.store.log) : e.changes w a = [] :=
  changes_of_log inside (log.trans (List.nil_append _).symm)

/-- An act keeps additions apart, and does not change the cooldown. -/
structure Act.Keeps (a : Act) (e : Engine) (w : World) (era : Nat) (past : List Dated) : Prop where
  cooldown : (e.act w a).registry.cooldown = e.registry.cooldown
  paced : Paced e.registry.cooldown w.ticks (if e.forgets w a then era + 1 else era)
    (e.act w a).registry.ledger.history
    (past ++ (e.changes w a).map (⟨if e.forgets w a then era + 1 else era, w.ticks, ·⟩))

namespace Act.Keeps

/-- An act that takes steps. -/
theorem of_steps {who : SubjectRecord → Prop} {ids : List SubjectId} {r : Registry}
    (inside : a.isOutside = false) (start : r.store.log = e.registry.store.log)
    (cooldown : r.cooldown = e.registry.cooldown)
    (steps : r.Steps w who (ids, (e.act w a).registry))
    (paced : Paced e.registry.cooldown w.ticks (if e.forgets w a then era + 1 else era)
      r.ledger.history past) : a.Keeps e w era past := by
  have same : r.rulebook.cooldown = e.registry.cooldown := cooldown
  rw [← same] at paced
  obtain ⟨made, log, paced⟩ := paced.steps steps.ledger
  rw [same] at paced
  refine ⟨(congrArg Rulebook.cooldown steps.rulebook).trans cooldown, ?_⟩
  rwa [changes_of_log inside (log.trans (congrArg (made.reverse ++ ·) start))]

/-- An act that changes neither the log nor what is kept of additions, unless this is forgotten. -/
theorem of_same (made : e.changes w a = [])
    (cooldown : (e.act w a).registry.cooldown = e.registry.cooldown)
    (history : e.forgets w a = false →
      (e.act w a).registry.ledger.history = e.registry.ledger.history)
    (paced : Paced e.registry.cooldown w.ticks era e.registry.ledger.history past) :
    a.Keeps e w era past := by
  refine ⟨cooldown, ?_⟩
  rw [made, List.map_nil, List.append_nil]
  cases forgets : e.forgets w a with
  | true => exact paced.forget _
  | false =>
    rw [history forgets]
    exact paced

end Act.Keeps

theorem event_keeps (event : Event)
    (paced : Paced e.registry.cooldown w.ticks era e.registry.ledger.history past) :
    (Act.event event).Keeps e w era past := by
  by_cases work : event = .work
  · subst work
    cases queued : e.queue with
    | nil =>
      have idle : e.act w (.event .work) = e := by simp only [act, perform, runNext, queued]
      refine .of_same (changes_eq_nil rfl ?_) ?_ (fun _ => ?_) paced <;> rw [idle]
    | cons job queue =>
      have ran : (e.act w (.event .work)).registry = Engine.work w e.registry job := by
        simp only [act, perform, runNext, queued]
      obtain ⟨ids, steps⟩ := work_steps w e.registry job
      rw [← ran] at steps
      by_cases again : job = .reapply
      · subst again
        have forgets : e.forgets w (.event .work) = true := by simp [forgets, queued]
        refine .of_steps (r := e.registry.clearHistory) rfl rfl rfl steps ?_
        rw [forgets]
        exact paced.forget _
      · have forgets : e.forgets w (.event .work) = false := by simp [forgets, queued, again]
        have prepared : (job.prepared e.registry).ledger = e.registry.ledger ∧
            (job.prepared e.registry).cooldown = e.registry.cooldown := by
          cases job with
          | reapply => contradiction
          | setProcessing enabled => cases enabled <;> exact ⟨rfl, rfl⟩
          | _ => exact ⟨rfl, rfl⟩
        have log : (job.prepared e.registry).store.log = e.registry.store.log :=
          congrArg (fun s : Services => s.store.log) (prepared_services ..)
        refine .of_steps rfl log prepared.2 steps ?_
        rw [forgets, prepared.1]
        exact paced
  · cases inside : event.isOutside with
    | true =>
      cases event with
      | outside f => exact .of_same rfl rfl (fun _ => rfl) paced
      | _ => cases inside
    | false =>
      have leaves := perform_leaves e w work inside
      refine .of_same (changes_eq_nil (a := .event event) inside leaves.log) leaves.cooldown
        (fun remembers => ?_) paced
      by_cases stop : event = .stop
      · subst stop
        rfl
      · refine leaves.history fun active => ?_
        have same : e.forgets w (.event event) = (e.active && !(e.perform w event).active) := by
          cases event <;> first | rfl | contradiction
        rw [same, active] at remembers
        simpa using remembers

theorem operation_keeps (op : Registry.Operation)
    (paced : Paced e.registry.cooldown w.ticks era e.registry.ledger.history past) :
    (Act.operation op).Keeps e w era past := by
  cases op with
  | setProcessing enabled =>
    exact .of_steps rfl rfl rfl (e.registry.setProcessing_steps w enabled) paced
  | applyToOne id => exact .of_steps rfl rfl rfl (e.registry.applyToOne_steps w id) paced
  | applyToMany initial ids =>
    exact .of_steps rfl rfl rfl (e.registry.applyToMany_steps w initial ids) paced
  | applyConstraint c ids =>
    exact .of_steps rfl rfl rfl (e.registry.apply_steps w c true ids) paced
  | setConstraint tag text options enabled =>
    have installation := e.registry.setConstraint_installation w tag text options enabled
    have set : (e.act w (.operation (.setConstraint tag text options enabled))).registry =
        (e.registry.setConstraint w tag text options enabled).2 := by
      simp only [act, Registry.perform]
    generalize e.registry.setConstraint w tag text options enabled = result at installation set
    have same : result.2.store.log = e.registry.store.log ∧
        result.2.cooldown = e.registry.cooldown ∧
        result.2.ledger.history = e.registry.ledger.history := by
      cases installation with
      | same => exact ⟨rfl, rfl, rfl⟩
      | dropped => exact ⟨rfl, rfl, rfl⟩
      | installed _ _ log history => exact ⟨log, rfl, history⟩
    rw [← set] at same
    exact .of_same (changes_eq_nil rfl same.1) same.2.1 (fun _ => same.2.2) paced
  | removeConstraint tag => exact .of_same (changes_eq_nil rfl rfl) rfl (fun _ => rfl) paced

/-- Whatever is done keeps additions apart. -/
theorem act_keeps (a : Act)
    (paced : Paced e.registry.cooldown w.ticks era e.registry.ledger.history past) :
    a.Keeps e w era past := by
  cases a with
  | event event => exact event_keeps event paced
  | operation op => exact operation_keeps op paced
  | clearHistory => exact .of_same (changes_eq_nil rfl rfl) rfl (fun kept => nomatch kept) paced
  | stopRegistry => exact .of_same (changes_eq_nil rfl rfl) rfl (fun _ => rfl) paced

/-- A run keeps additions apart from each other and from those before it. -/
theorem Paced.run {now : Nat}
    (paced : Paced e.registry.cooldown now era e.registry.ledger.history past)
    (acts : List (World × Act)) (clock : (now :: acts.map (·.1.ticks)).Pairwise (· ≤ ·)) :
    (past ++ e.chronicle era acts).Pairwise (Dated.Apart e.registry.cooldown) := by
  induction acts generalizing e now era past with
  | nil =>
    rw [chronicle, List.append_nil]
    exact paced.apart
  | cons step acts ih =>
    obtain ⟨w, a⟩ := step
    obtain ⟨passes, clock⟩ := List.pairwise_cons.1 clock
    have keeps := act_keeps a (paced.wait (passes w.ticks List.mem_cons_self))
    have next := keeps.paced
    rw [← keeps.cooldown] at next
    have rest := ih next clock
    rwa [keeps.cooldown, List.append_assoc] at rest

/-- While the clock does not run backwards, two automatic additions of one subject to one tag are at
least the cooldown apart, unless it was forgotten in between when subjects were added. An addition
that comes too early does nothing at all. -/
theorem additions_apart (e : Engine) (acts : List (World × Act))
    (clock : (acts.map (·.1.ticks)).Pairwise (· ≤ ·)) :
    (e.chronicle 0 acts).Pairwise (Dated.Apart e.registry.cooldown) ∧
    ∀ (w : World) (book : Rulebook) (c : Constraint) (id : SubjectId) (s : PassState) (last : Nat),
      s.ledger.history.last? c.tag id = some last → w.ticks - last < book.cooldown →
      (Pass.add w book c id).run s = ((), s) := by
  refine ⟨?_, fun w book c id s last found early => ?_⟩
  · have run := (Paced.nil e.registry.cooldown 0 0 e.registry.ledger.history).run acts
      (List.pairwise_cons.2 ⟨fun _ _ => Nat.zero_le _, clock⟩)
    rwa [List.nil_append] at run
  · have recent : Pass.isRecent w book c id s.ledger.history = true := by
      unfold Pass.isRecent
      rw [found]
      exact decide_eq_true early
    rw [Pass.add_run, Pass.added, recent, Bool.or_true, if_pos rfl]

/-- An engine whose only constraint is for a tag that it forbids, and a cooldown of five. -/
def reluctant : Engine where
  registry :=
    let tagged := Registry.mapStore { cooldown := 5 } (·.insertTag { id := ⟨1⟩, name := "Odd" })
    (tagged.setConstraint loneSubject ⟨1⟩ "!hasTag(\"Odd\")" "" true).2

/-- The subject is decided several times. Then somebody else removes it, and it is decided again after
the additions were forgotten. -/
def decidedOften : List (World × Act) :=
  [0, 2, 3, 5].map (fun ticks => ({ loneSubject with ticks }, .operation (.applyToOne ⟨7⟩))) ++
    [({ loneSubject with ticks := 6 }, .event (.outside (·.remove ⟨1⟩ ⟨7⟩))),
      ({ loneSubject with ticks := 6 }, .clearHistory),
      ({ loneSubject with ticks := 7 }, .operation (.applyToOne ⟨7⟩))]

/-- The second addition waits until the cooldown is over, the third one need not. -/
theorem reluctant_apart :
    (decidedOften.map (·.1.ticks)).Pairwise (· ≤ ·) ∧
    reluctant.chronicle 0 decidedOften = [⟨0, 0, .added ⟨1⟩ ⟨7⟩⟩, ⟨0, 2, .removed ⟨1⟩ ⟨7⟩⟩,
      ⟨0, 5, .added ⟨1⟩ ⟨7⟩⟩, ⟨1, 7, .added ⟨1⟩ ⟨7⟩⟩] ∧
    (reluctant.chronicle 0 decidedOften).Pairwise (Dated.Apart reluctant.registry.cooldown) ∧
    ∃ c : Constraint, c.tag = ⟨1⟩ ∧
      let s : PassState := { ledger := { history := AddHistory.note {} ⟨1⟩ ⟨7⟩ 0 } }
      s.ledger.history.last? c.tag ⟨7⟩ = some 0 ∧
      (Pass.add { loneSubject with ticks := 3 } { cooldown := 5 } c ⟨7⟩).run s = ((), s) := by
  have clock : (decidedOften.map (·.1.ticks)).Pairwise (· ≤ ·) := by decide
  obtain ⟨apart, early⟩ := additions_apart reluctant decidedOften clock
  refine ⟨clock, by decide +kernel, apart, (Constraint.build {} 0 ⟨1⟩ "" "" true).1, rfl, rfl, ?_⟩
  exact early _ _ _ _ _ 0 rfl (by decide)

end Engine

end TagRules

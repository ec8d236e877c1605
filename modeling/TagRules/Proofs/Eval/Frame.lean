import TagRules.Proofs.Eval.View

/-!
# What an evaluation does to the tag store

All that an evaluation writes to the tag store is the diagnostic of the owner. Each report goes to two
places, to the store and to the list that the evaluator keeps, and no step goes to one of them alone.
After any number of steps the two agree: the list is longer by the messages reported since, and the
owner carries the newest of these, or what it carried before if there is none (`Told`). Tags,
members, the times when they joined, the log and the diagnostics of other tags stay
(`Expr.evaluation_reported`).
-/

namespace TagRules

namespace Eval

/-- Between two states nothing happened to the tag store but that messages, newest first, were reported
for the owner. -/
structure Told (sc : Scene) (messages : List String) (before after : EvalState) : Prop where
  /-- The evaluator's own list is longer by the messages. -/
  listed : after.diagnostics = messages ++ before.diagnostics
  /-- Tags are the same, with their members and the times when these joined. -/
  rolls : after.services.store.rolls = before.services.store.rolls
  log : after.services.store.log = before.services.store.log
  others : ∀ tag, tag ≠ sc.owner →
    after.services.store.diagnostic? tag = before.services.store.diagnostic? tag
  /-- The owner carries the newest message. -/
  owner : after.services.store.diagnostic? sc.owner =
    messages.head?.or (before.services.store.diagnostic? sc.owner)

/-- Whatever state a step starts in, it does no more to the tag store than report for the owner. -/
def Reporting (sc : Scene) (m : Eval α) : Prop :=
  ∀ s, ∃ messages, Told sc messages s (m.run s).2

namespace Told

variable {sc : Scene} {s t u : EvalState}

theorem of_store (store : t.services.store = s.services.store)
    (listed : t.diagnostics = s.diagnostics) : Told sc [] s t where
  listed := listed
  rolls := by rw [store]
  log := by rw [store]
  others _ _ := by rw [store]
  owner := by rw [store]; rfl

/-- Messages reported later are newer. -/
theorem trans {earlier later : List String} (first : Told sc earlier s t)
    (second : Told sc later t u) : Told sc (later ++ earlier) s u where
  listed := by rw [second.listed, first.listed, List.append_assoc]
  rolls := second.rolls.trans first.rolls
  log := second.log.trans first.log
  others tag other := (second.others tag other).trans (first.others tag other)
  owner := by rw [second.owner, first.owner, List.head?_append, Option.or_assoc]

theorem report (sc : Scene) (message : String) (s : EvalState) :
    Told sc [message] s ((Eval.report sc message).run s).2 where
  listed := rfl
  rolls := TagStore.rolls_setDiagnostic ..
  log := TagStore.log_setDiagnostic ..
  others _ other := (TagStore.diagnostic?_setDiagnostic ..).trans (if_neg (Ne.symm other))
  owner := (TagStore.diagnostic?_setDiagnostic ..).trans (if_pos rfl)

end Told

variable {sc : Scene}

namespace Reporting

/-- A step that leaves the store and the list alone reports nothing. -/
theorem of_kept {m : Eval α} (store : ∀ s, (m.run s).2.services.store = s.services.store)
    (listed : ∀ s, (m.run s).2.diagnostics = s.diagnostics) : Reporting sc m :=
  fun s => ⟨[], .of_store (store s) (listed s)⟩

theorem pure (a : α) : Reporting sc (pure a) :=
  .of_kept (fun _ => rfl) fun _ => rfl

theorem bind {m : Eval α} {k : α → Eval β} (first : Reporting sc m)
    (second : ∀ a, Reporting sc (k a)) : Reporting sc (m >>= k) := by
  intro s
  obtain ⟨earlier, before⟩ := first s
  obtain ⟨later, after⟩ := second (m.run s).1 (m.run s).2
  exact ⟨later ++ earlier, before.trans after⟩

theorem ite {c : Prop} [Decidable c] {m n : Eval α} (yes : Reporting sc m) (no : Reporting sc n) :
    Reporting sc (if c then m else n) := by
  by_cases h : c
  · simpa only [if_pos h] using yes
  · simpa only [if_neg h] using no

/-- Report a problem and go on with a value in place of what is missing. -/
theorem report_then (message : String) (a : α) :
    Reporting sc (do report sc message; return a) :=
  bind (fun s => ⟨[message], .report sc message s⟩) fun _ => .pure a

end Reporting

theorem condition_reporting (e : Expr) (v : Value) : Reporting sc (condition sc e v) := by
  cases v with
  | bool b => exact .pure b
  | number n => exact .report_then _ false

theorem string_reporting (a : Operand) : Reporting sc (string sc a) := by
  unfold string
  split
  · exact .pure _
  · exact .pure _
  · exact .report_then _ ""

theorem store_readFileNames (s : Services) (r : SubjectRecord) :
    (s.readFileNames r).2.store = s.store := by
  unfold Services.readFileNames
  split <;> rfl

theorem fileNames_reporting : Reporting sc (fileNames sc) :=
  .of_kept (fun s => store_readFileNames s.services sc.subject) fun _ => rfl

theorem strings_reporting (a : Operand) : Reporting sc (strings sc a) := by
  unfold strings
  split
  · exact fileNames_reporting.bind fun names => .pure names.names
  · exact (string_reporting _).bind fun s => .pure [s]

theorem matching_reporting (p : Pattern) (a : Operand) : Reporting sc (matching sc p a) := by
  by_cases files : a = .keyword .fileNames
  · subst files
    intro s
    -- the outcome is found or remembered: either way the store is the one after the reading
    have read := store_readFileNames s.services sc.subject
    rcases matching_fileNames_run sc p s with h | h <;> rw [h]
    · exact ⟨[], .of_store read rfl⟩
    · exact ⟨[], .of_store read rfl⟩
  · unfold matching
    split
    · contradiction
    · exact (string_reporting _).bind fun s => .pure (p.search s)

theorem setting_reporting (key : String) : Reporting sc (setting sc key) := by
  intro s
  have read : Told sc [] s { s with services.settings :=
      (s.services.settings.get sc.world.config sc.world.ticks key).2 } := .of_store rfl rfl
  rw [setting_run]
  cases (s.services.settings.get sc.world.config sc.world.ticks key).1 with
  | ok value => exact ⟨[], read⟩
  | error e => exact ⟨[e.message], read.trans (.report sc e.message _)⟩

theorem countTag_reporting (name : String) : Reporting sc (countTag sc name) := by
  intro s
  rw [countTag_run]
  cases (s.services.store.tagsByName name).head? with
  | some tag => exact Reporting.pure _ s
  | none => exact Reporting.report_then _ Double.zero s

theorem script_reporting (source : String) : Reporting sc (script sc source) := by
  unfold script
  cases sc.world.script with
  | none => exact .report_then _ false
  | some hook =>
    refine .bind (.of_kept (fun _ => rfl) fun _ => rfl) fun _ => ?_
    generalize hook _ sc.subject = answer
    cases answer with
    | bool b => exact .pure b
    | other => exact .pure false
    | failed message => exact .report_then message false

theorem plainCall_reporting (f : Builtin) (args : List Operand) (p : Option Pattern) :
    Reporting sc (plainCall sc f args p) := by
  unfold plainCall
  split
  · exact (countTag_reporting _).bind fun n => .pure (Value.number n)
  · exact (setting_reporting _).bind fun n => .pure (Value.number n)
  · exact (script_reporting _).bind fun b => .pure (Value.bool b)
  · exact (strings_reporting _).bind fun texts => (string_reporting _).bind fun part => .pure _
  · cases p with
    | none => exact .pure _
    | some p => exact (matching_reporting p _).bind fun b => .pure (Value.bool b)
  · exact .pure _

end Eval

open Eval

variable {sc : Scene}

/-- A call does no more than report if its numeric arguments do no more. -/
theorem Expr.call_reporting {args : List Operand} (amounts : ∀ a ∈ args, Reporting sc (a.amount sc))
    (f : Builtin) (name : String) (p : Option Pattern) :
    Reporting sc (Expr.value sc (.call f name args p)) := by
  unfold Expr.value
  split
  · cases args with
    | nil => exact .pure _
    | cons a rest =>
      cases rest with
      | nil => exact .pure _
      | cons b rest =>
        exact (amounts a (by simp)).bind fun x => (amounts b (by simp)).bind fun y => .pure _
  · cases args with
    | nil => exact .pure _
    | cons a rest => exact (amounts a (by simp)).bind fun x => .pure _
  · exact plainCall_reporting f args p

mutual

/-- Evaluation does no more to the tag store than report. The induction is on the expression with its
operands and its arguments. -/
theorem Expr.value_reporting : ∀ e : Expr, Reporting sc (e.value sc)
  | .literal v => by
    simp only [Expr.value]
    exact .pure v
  | .not e => by
    simp only [Expr.value]
    exact e.value_reporting.bind fun v => (condition_reporting e v).bind fun b => .pure _
  | .or es => by
    simp only [Expr.value]
    exact (anyHolds_reporting es).bind fun b => .pure _
  | .and es => by
    simp only [Expr.value]
    exact (allHold_reporting es).bind fun b => .pure _
  | .xor es => by
    simp only [Expr.value]
    exact .ite (.report_then _ _) ((oddHold_reporting es).bind fun b => .pure _)
  | .call f name args p => Expr.call_reporting (amounts_reporting args) f name p

theorem anyHolds_reporting : ∀ es : List Expr, Reporting sc (anyHolds sc es)
  | [] => by
    simp only [anyHolds]
    exact .pure false
  | e :: es => by
    simp only [anyHolds]
    exact e.value_reporting.bind fun v => (condition_reporting e v).bind fun b =>
      .ite (.pure true) (anyHolds_reporting es)

theorem allHold_reporting : ∀ es : List Expr, Reporting sc (allHold sc es)
  | [] => by
    simp only [allHold]
    exact .pure true
  | e :: es => by
    simp only [allHold]
    exact e.value_reporting.bind fun v => (condition_reporting e v).bind fun b =>
      .ite (allHold_reporting es) (.pure false)

theorem oddHold_reporting : ∀ es : List Expr, Reporting sc (oddHold sc es)
  | [] => by
    simp only [oddHold]
    exact .pure false
  | e :: es => by
    simp only [oddHold]
    exact e.value_reporting.bind fun v => (condition_reporting e v).bind fun b =>
      (oddHold_reporting es).bind fun rest => .pure _

theorem Operand.amount_reporting : ∀ a : Operand, Reporting sc (a.amount sc)
  | .number n => by
    simp only [Operand.amount]
    exact .pure n
  | .expr e => by
    simp only [Operand.amount]
    refine e.value_reporting.bind fun v => ?_
    cases v with
    | number n => exact .pure n
    | bool b => exact .report_then _ _
  | .keyword k => by
    simp only [Operand.amount]
    exact .ite (.report_then _ _) (.of_kept (fun _ => rfl) fun _ => rfl)
  | .bare word => by
    simp only [Operand.amount]
    exact .report_then _ _
  | .text s => by
    simp only [Operand.amount]
    exact .report_then _ _

theorem amounts_reporting : ∀ args : List Operand, ∀ a ∈ args, Reporting sc (a.amount sc)
  | [] => fun _ mem => nomatch mem
  | a :: args => List.forall_mem_cons.2 ⟨a.amount_reporting, amounts_reporting args⟩

end

/-- Evaluating an expression, for its value or as a condition, changes nothing of the tag store but the
diagnostic of the owner. This becomes the last message that the evaluator put on its list, and it stays
if the evaluator put none there. -/
theorem Expr.evaluation_reported (sc : Scene) (e : Expr) (s : EvalState) :
    (∃ messages, Told sc messages s ((e.value sc).run s).2) ∧
      ∃ messages, Told sc messages s ((e.holds sc).run s).2 :=
  ⟨e.value_reporting s, (e.value_reporting.bind fun v => condition_reporting e v) s⟩

/-- Both operands report, and the owner carries what the second one had to say. -/
example : ((Expr.holds { world := {}, owner := ⟨1⟩, subject := { id := ⟨7⟩ }, tags := [] }
      (.or [.call .isGT "isGT" [.bare "speed", .number .zero] none,
        .call .countTag "countTag" [.text "gone"] none])).run { services := {} }).2.diagnostics =
    ["'countTag(\"gone\")' does not yield a boolean", "Tag 'gone' not found",
      "Invalid constraint keyword: speed"] := by
  decide +kernel

end TagRules

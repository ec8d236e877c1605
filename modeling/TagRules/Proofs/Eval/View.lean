import Mathlib.Logic.Relation
import TagRules.Eval.Evaluate
import TagRules.Proofs.Eval.Caches

/-!
# What an evaluation reads

An evaluation runs over services that it may change: it reports diagnostics, fills three caches and
counts calls of scripts. None of this can be seen by another evaluation for the same subject at the
same time. `View` is what such an evaluation can see of the services, `Expr.reading` is the value
of an expression as a function of that view alone, and `Expr.value_reads` says that the running
evaluator yields this value and leaves the view, the log and the diagnostics of other tags as they
were. All that it does to the services are steps of a few kinds (`Eval.Step`).
-/

namespace TagRules

/-- What the evaluations for one subject at one time can see of the services. -/
structure View where
  /-- Tags and members. -/
  rolls : Dict TagId Roll
  /-- The answer for the key of a setting. -/
  setting : String → Except SettingError Double
  /-- The file names of the subject. -/
  fileNames : List String
  /-- The outcome of a pattern on these file names. -/
  matching : Pattern → Bool

/-- What the evaluations for a subject can see of the services. -/
def Services.view (s : Services) (w : World) (r : SubjectRecord) : View where
  rolls := s.store.rolls
  setting key := (s.settings.get w.config w.ticks key).1
  fileNames := (s.readFileNames r).1.names
  matching p := s.outcome r.id (s.readFileNames r).1 p

/-- The text that an argument stands for. -/
def Scene.text (sc : Scene) : Operand → String
  | .text s => s
  | .keyword .name => sc.subject.name
  | _ => ""

/-- The answer of a script. -/
def Scene.answer (sc : Scene) (source : String) : Bool :=
  match sc.world.script with
  | none => false
  | some hook =>
    match hook ⟨sc.owner, "javascript( " ++ source ++ ")", sc.subject.id, "inTag"⟩ sc.subject with
    | .bool b => b
    | _ => false

namespace View

/-- All texts that an argument stands for. -/
def texts (v : View) (sc : Scene) : Operand → List String
  | .keyword .fileNames => v.fileNames
  | a => [sc.text a]

/-- A pattern matches one of the texts of an argument. -/
def isMatch (v : View) (sc : Scene) (p : Pattern) : Operand → Bool
  | .keyword .fileNames => v.matching p
  | a => p.search (sc.text a)

theorem texts_of_ne (v : View) {sc : Scene} {a : Operand} (other : a ≠ .keyword .fileNames) :
    v.texts sc a = [sc.text a] := by
  unfold texts
  split
  · contradiction
  · rfl

theorem isMatch_of_ne (v : View) {sc : Scene} {p : Pattern} {a : Operand}
    (other : a ≠ .keyword .fileNames) : v.isMatch sc p a = p.search (sc.text a) := by
  unfold isMatch
  split
  · contradiction
  · rfl

/-- The number of a setting, zero if it cannot be read. -/
def number (v : View) (key : String) : Double :=
  match v.setting key with
  | .ok value => value
  | .error _ => .zero

/-- The number of members of the first tag of a name. -/
def count (v : View) (name : String) : Double :=
  match (TagStore.tagsByName { rolls := v.rolls } name).head? with
  | some tag => .ofNat (TagStore.memberCount { rolls := v.rolls } tag.id)
  | none => .zero

end View

/-- What an evaluation does to the services in one step. -/
inductive Eval.Step (sc : Scene) (s : Services) : Services → Prop
  /-- A problem is reported as the diagnostic of the owner. -/
  | report (message : String) : Step sc s (s.mapStore (·.setDiagnostic sc.owner (some message)))
  /-- The file names of the subject are read. -/
  | names : Step sc s (s.readFileNames sc.subject).2
  /-- The file names of the subject are read, and the outcome of a pattern on them is remembered. -/
  | outcome (p : Pattern) (matched : Bool) : Step sc s ((s.readFileNames sc.subject).2.rememberOutcome
      sc.subject.id ⟨p, (s.readFileNames sc.subject).1.stamp, matched⟩)
  /-- The script hook is called. -/
  | script (call : ScriptCall) : Step sc s { s with scriptCalls := call :: s.scriptCalls }
  /-- A setting is read. -/
  | setting (key : String) :
    Step sc s { s with settings := (s.settings.get sc.world.config sc.world.ticks key).2 }

/-- What an evaluation leaves as it was: the view of its own subject, the log of changes, and the
diagnostics of all tags but the owner. Caches that are truthful stay so. -/
structure Eval.Keeps (sc : Scene) (s t : Services) : Prop where
  view : t.view sc.world sc.subject = s.view sc.world sc.subject
  log : t.store.log = s.store.log
  diagnostics : ∀ tag, tag ≠ sc.owner → t.store.diagnostic? tag = s.store.diagnostic? tag
  truthful : sc.world.Knows sc.subject → s.Truthful sc.world → t.Truthful sc.world
  steps : Relation.ReflTransGen (Step sc) s t

/-- A step of evaluation yields a function of the view and keeps what it has to keep. -/
structure Eval.Reads (sc : Scene) (m : Eval α) (f : View → α) : Prop where
  result : ∀ s, (m.run s).1 = f (s.services.view sc.world sc.subject)
  keeps : ∀ s, Keeps sc s.services (m.run s).2.services

namespace Services

/-- Of the services, tags with their members, settings, file names and outcomes are seen. -/
theorem view_congr {s t : Services} (w : World) (r : SubjectRecord)
    (rolls : s.store.rolls = t.store.rolls) (settings : s.settings = t.settings)
    (names : s.fileNames = t.fileNames) (stamp : s.nextStamp = t.nextStamp)
    (outcomes : s.outcomes = t.outcomes) : s.view w r = t.view w r := by
  simp only [view, outcome, outcome?, rolls, settings, outcomes,
    readFileNames_fst_congr r names stamp]

theorem view_readFileNames (s : Services) (w : World) (r : SubjectRecord) :
    (s.readFileNames r).2.view w r = s.view w r := by
  have names := s.readFileNames_readFileNames r
  have rest : (s.readFileNames r).2.store = s.store ∧ (s.readFileNames r).2.settings = s.settings ∧
      (s.readFileNames r).2.outcomes = s.outcomes := by
    unfold readFileNames
    split <;> exact ⟨rfl, rfl, rfl⟩
  simp only [view, names, outcome, outcome?, rest]

/-- The outcome remembered for a pattern is the one that is seen. -/
theorem view_rememberOutcome (s : Services) (w : World) (r : SubjectRecord) (p : Pattern) :
    (s.rememberOutcome r.id ⟨p, (s.readFileNames r).1.stamp,
      s.outcome r.id (s.readFileNames r).1 p⟩).view w r = s.view w r := by
  have names := readFileNames_fst_congr (t := s)
    (s := s.rememberOutcome r.id ⟨p, (s.readFileNames r).1.stamp,
      s.outcome r.id (s.readFileNames r).1 p⟩) r rfl rfl
  simp only [view, names, s.outcome_rememberOutcome]
  rfl

namespace Truthful

variable {w : World} {s t : Services} {r : SubjectRecord}

/-- What is seen of truthful services besides tags and members is what there is. -/
theorem view_eq (truthful : s.Truthful w) (known : w.Knows r) :
    s.view w r = { ({} : Services).view w r with rolls := s.store.rolls } := by
  simp only [view, truthful.get_setting, truthful.names_eq known, truthful.outcome_eq known]
  rfl

theorem view_congr (first : s.Truthful w) (second : t.Truthful w) (known : w.Knows r)
    (rolls : s.store.rolls = t.store.rolls) : s.view w r = t.view w r := by
  rw [first.view_eq known, second.view_eq known, rolls]

end Truthful

end Services

namespace Eval

variable {sc : Scene}

@[refl] theorem Keeps.refl (s : Services) : Keeps sc s s :=
  ⟨rfl, rfl, fun _ _ => rfl, fun _ h => h, .refl⟩

theorem Keeps.trans {s t u : Services} (first : Keeps sc s t) (second : Keeps sc t u) :
    Keeps sc s u where
  view := second.view.trans first.view
  log := second.log.trans first.log
  diagnostics tag h := (second.diagnostics tag h).trans (first.diagnostics tag h)
  truthful known h := second.truthful known (first.truthful known h)
  steps := first.steps.trans second.steps

namespace Reads

theorem pure (a : α) : Reads sc (pure a) (fun _ => a) :=
  ⟨fun _ => rfl, fun _ => .refl _⟩

/-- Steps in sequence. The second step sees the same view as the first one. -/
theorem bind {m : Eval α} {k : α → Eval β} {f : View → α} {g : α → View → β}
    (first : Reads sc m f) (second : ∀ a, Reads sc (k a) (g a)) :
    Reads sc (m >>= k) (fun v => g (f v) v) where
  result s := by
    have h := (second (m.run s).1).result (m.run s).2
    rw [(first.keeps s).view, first.result s] at h
    rw [← h, ← first.result s]
    rfl
  keeps s := (first.keeps s).trans ((second (m.run s).1).keeps (m.run s).2)

theorem ite {c : Prop} [Decidable c] {m n : Eval α} {f g : View → α}
    (yes : Reads sc m f) (no : Reads sc n g) :
    Reads sc (if c then m else n) (fun v => if c then f v else g v) := by
  by_cases h : c
  · simpa only [if_pos h] using yes
  · simpa only [if_neg h] using no

theorem congr {m : Eval α} {f g : View → α} (h : Reads sc m f) (eq : ∀ v, f v = g v) :
    Reads sc m g :=
  (funext eq : f = g) ▸ h

/-- A step after one that yields nothing. -/
theorem after {m : Eval Unit} {k : Unit → Eval α} {g : View → α}
    (first : Reads sc m fun _ => ()) (second : Reads sc (k ()) g) : Reads sc (m >>= k) g :=
  first.bind fun _ => second

/-- A step that goes on, in services with the same view, as another step which reads. -/
theorem of_run {m : Eval α} {f : View → α}
    (h : ∀ s, ∃ n g t, m.run s = StateT.run n t ∧ Keeps sc s.services t.services ∧
      Reads sc n g ∧ g (s.services.view sc.world sc.subject) =
        f (s.services.view sc.world sc.subject)) : Reads sc m f where
  result s := by
    obtain ⟨n, g, t, run, kept, reads, same⟩ := h s
    rw [run, reads.result t, kept.view, same]
  keeps s := by
    obtain ⟨n, g, t, run, kept, reads, -⟩ := h s
    rw [run]
    exact kept.trans (reads.keeps t)

end Reads

theorem report_reads (sc : Scene) (message : String) :
    Reads sc (report sc message) (fun _ => ()) where
  result _ := rfl
  keeps s := by
    refine ⟨Services.view_congr _ _ (TagStore.rolls_setDiagnostic ..) rfl rfl rfl rfl,
      TagStore.log_setDiagnostic .., fun tag other => ?_, fun _ h => h.congr rfl rfl rfl,
      .single (.report message)⟩
    exact (TagStore.diagnostic?_setDiagnostic ..).trans (if_neg (Ne.symm other))

/-- Report a problem and go on with a value in place of what is missing. -/
theorem report_then (sc : Scene) (message : String) (a : α) :
    Reads sc (do report sc message; return a) (fun _ => a) :=
  (report_reads sc message).bind fun _ => .pure a

theorem string_reads (sc : Scene) (a : Operand) :
    Reads sc (string sc a) fun _ => sc.text a := by
  unfold string
  split
  · exact .pure _
  · exact .pure _
  · refine (report_then sc _ "").congr fun _ => ?_
    unfold Scene.text
    split <;> simp_all

theorem keeps_readFileNames (sc : Scene) (s : Services) :
    Keeps sc s (s.readFileNames sc.subject).2 where
  view := s.view_readFileNames sc.world sc.subject
  log := by unfold Services.readFileNames; split <;> rfl
  diagnostics tag _ := by unfold Services.readFileNames; split <;> rfl
  truthful known h := h.readFileNames known
  steps := .single .names

theorem strings_reads (sc : Scene) (a : Operand) :
    Reads sc (strings sc a) fun v => v.texts sc a := by
  by_cases files : a = .keyword .fileNames
  · subst files
    exact ⟨fun s => rfl, fun s => keeps_readFileNames sc s.services⟩
  · have other : strings sc a = do let s ← string sc a; return [s] := by
      unfold strings
      split
      · contradiction
      · rfl
    rw [other]
    exact ((string_reads sc a).bind fun s => .pure [s]).congr fun v => (v.texts_of_ne files).symm

theorem keeps_rememberOutcome (sc : Scene) (s : Services) (p : Pattern) :
    let names := (s.readFileNames sc.subject).1
    let read := (s.readFileNames sc.subject).2
    Keeps sc s (read.rememberOutcome sc.subject.id
      ⟨p, names.stamp, read.outcome sc.subject.id names p⟩) := by
  have kept := keeps_readFileNames sc s
  -- names that are known are read again as they are
  rw [← s.readFileNames_readFileNames sc.subject]
  refine ⟨(Services.view_rememberOutcome ..).trans kept.view, kept.log, kept.diagnostics,
    fun known h => ?_, ?_⟩
  · have read := h.readFileNames known
    rw [read.outcome_eq known p]
    exact read.rememberOutcome known p _
  · rw [s.readFileNames_readFileNames sc.subject]
    exact .single (.outcome p _)

/-- Looking for a pattern in the file names reads them, then takes the remembered outcome or
remembers a new one. -/
theorem matching_fileNames_run (sc : Scene) (p : Pattern) (s : EvalState) :
    let names := (s.services.readFileNames sc.subject).1
    let services := (s.services.readFileNames sc.subject).2
    let matched := services.outcome sc.subject.id names p
    (matching sc p (.keyword .fileNames)).run s = (matched, { s with services := services }) ∨
      (matching sc p (.keyword .fileNames)).run s = (matched, { s with
        services := services.rememberOutcome sc.subject.id ⟨p, names.stamp, matched⟩ }) := by
  intro names services matched
  cases h : services.outcome? sc.subject.id p names.stamp with
  | some found =>
    have : matched = found := by simp only [matched, Services.outcome, h, Option.getD_some]
    rw [this]
    refine .inl ?_
    simp only [matching, fileNames, StateT.run_bind, StateT.run_get, StateT.run_set,
      StateT.run_pure, pure_bind]
    simp only [services, names] at h
    rw [h]
    rfl
  | none =>
    have : matched = names.names.any p.search := by
      simp only [matched, Services.outcome, h, Option.getD_none]
    rw [this]
    refine .inr ?_
    simp only [matching, fileNames, StateT.run_bind, StateT.run_get, StateT.run_set,
      StateT.run_pure, pure_bind]
    simp only [services, names] at h
    rw [h]
    rfl

theorem matching_reads (sc : Scene) (p : Pattern) (a : Operand) :
    Reads sc (matching sc p a) fun v => v.isMatch sc p a := by
  by_cases files : a = .keyword .fileNames
  · subst files
    constructor
    · intro s
      have seen := congrArg (·.matching p) (s.services.view_readFileNames sc.world sc.subject)
      simp only [Services.view, s.services.readFileNames_readFileNames sc.subject] at seen
      rcases matching_fileNames_run sc p s with h | h <;> rw [h] <;> exact seen
    · intro s
      rcases matching_fileNames_run sc p s with h | h <;> rw [h]
      · exact keeps_readFileNames sc s.services
      · exact keeps_rememberOutcome sc s.services p
  · have other : matching sc p a = do let s ← string sc a; return p.search s := by
      unfold matching
      split
      · contradiction
      · rfl
    rw [other]
    exact ((string_reads sc a).bind fun s => .pure (p.search s)).congr
      fun v => (v.isMatch_of_ne files).symm

/-- Counting a call of the script hook is not seen. -/
theorem scriptCall_reads (sc : Scene) (call : ScriptCall) :
    Reads sc (modify fun s => { s with services.scriptCalls := call :: s.services.scriptCalls })
      fun _ => () :=
  ⟨fun _ => rfl, fun _ => ⟨Services.view_congr _ _ rfl rfl rfl rfl rfl, rfl, fun _ _ => rfl,
    fun _ h => h.congr rfl rfl rfl, .single (.script call)⟩⟩

theorem script_reads (sc : Scene) (source : String) :
    Reads sc (script sc source) fun _ => sc.answer source := by
  unfold script Scene.answer
  cases hs : sc.world.script with
  | none => exact report_then sc _ false
  | some hook =>
    simp only []
    apply Reads.after (scriptCall_reads sc _)
    generalize hook _ sc.subject = answer
    cases answer with
    | bool b => exact .pure b
    | other => exact .pure false
    | failed message => exact report_then sc message false

theorem keeps_get_settings (sc : Scene) (s : Services) (key : String) :
    Keeps sc s { s with settings := (s.settings.get sc.world.config sc.world.ticks key).2 } where
  view := by
    have names := Services.readFileNames_fst_congr (t := s)
      (s := { s with settings := (s.settings.get sc.world.config sc.world.ticks key).2 })
      sc.subject rfl rfl
    simp only [Services.view, SettingsCache.get_get, names]
    rfl
  log := rfl
  diagnostics _ _ := rfl
  truthful _ h := h.get_settings key
  steps := .single (.setting key)

theorem setting_run (sc : Scene) (key : String) (s : EvalState) :
    (setting sc key).run s = StateT.run
      (match (s.services.settings.get sc.world.config sc.world.ticks key).1 with
        | .ok value => pure value
        | .error e => do report sc e.message; return .zero)
      { s with services.settings :=
          (s.services.settings.get sc.world.config sc.world.ticks key).2 } :=
  rfl

theorem setting_reads (sc : Scene) (key : String) :
    Reads sc (setting sc key) fun v => v.number key := by
  refine .of_run fun s => ?_
  have read := keeps_get_settings sc s.services key
  cases h : (s.services.settings.get sc.world.config sc.world.ticks key).1 with
  | ok value =>
    refine ⟨pure value, _, _, (setting_run ..).trans (by rw [h]), read, .pure value, ?_⟩
    simp only [View.number, Services.view, h]
  | error e =>
    refine ⟨_, _, _, (setting_run ..).trans (by rw [h]), read, report_then sc _ _, ?_⟩
    simp only [View.number, Services.view, h]

theorem countTag_run (sc : Scene) (name : String) (s : EvalState) :
    (countTag sc name).run s = StateT.run
      (match (s.services.store.tagsByName name).head? with
        | some tag => pure (.ofNat (s.services.store.memberCount tag.id))
        | none => do report sc ("Tag '" ++ name ++ "' not found"); return .zero) s := by
  simp only [countTag, bind, StateT.run, StateT.bind, get, getThe, MonadStateOf.get, StateT.get]
  rfl

theorem countTag_reads (sc : Scene) (name : String) :
    Reads sc (countTag sc name) fun v => v.count name := by
  refine .of_run fun s => ?_
  have found : TagStore.tagsByName { rolls := s.services.store.rolls } name =
      s.services.store.tagsByName name := rfl
  cases h : (s.services.store.tagsByName name).head? with
  | some tag =>
    refine ⟨_, _, s, (countTag_run ..).trans (by rw [h]), .refl _, .pure _, ?_⟩
    simp only [View.count, Services.view, found, h]
    rfl
  | none =>
    refine ⟨_, _, s, (countTag_run ..).trans (by rw [h]), .refl _, report_then sc _ _, ?_⟩
    simp only [View.count, Services.view, found, h]

end Eval

open Eval in
/-- A call whose arguments need no numbers. -/
theorem Expr.value_plainCall {f : Builtin} (numbers : f.signature ≠ .numbers)
    (quantity : f.signature ≠ .quantity) (sc : Scene) (name : String) (args : List Operand)
    (p : Option Pattern) : Expr.value sc (.call f name args p) = plainCall sc f args p := by
  unfold Expr.value
  split
  · contradiction
  · contradiction
  · rfl

end TagRules

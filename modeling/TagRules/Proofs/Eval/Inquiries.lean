import TagRules.Proofs.Eval.Calls
import TagRules.Proofs.Eval.Caches
import TagRules.Proofs.Expr.Dependencies
import TagRules.Proofs.Expr.Typing

/-!
# One view of a setting

A number that was read for a setting is kept under the key by which it was asked for, while a setting is
found under its key in any case. Compiling spells the key of each `getConfig` as the application spells
it, so all calls for one setting ask by one key (`Expr.Shaped.spelled_of_mem`). In any session of
evaluations in which the parameters change and the cache is dropped at any time, what was read first after
a drop is the answer to all later calls up to the next one (`SettingsCache.Session.one_view`). The invariant
is that the cache holds for each key what was read first (`SettingsCache.Kept`).
-/

namespace TagRules

/-- Each `getConfig` in what the compiler builds asks for a setting by its proper key. -/
theorem Expr.Shaped.spelled_of_mem {e : Expr} (h : e.Shaped) {args : List Operand}
    (mem : (.getConfig, args) ∈ e.calls) :
    ∃ setting, Setting.ofKey? setting.key = some setting ∧ args = [.text setting.key] := by
  induction h with
  | literal => cases mem
  | not _ _ ih => exact ih mem
  | combination among _ _ _ ih =>
    cases Compile.Combination.of_mem among
    all_goals
      obtain ⟨e, inside, made⟩ := Compile.mem_exprsCalls.1 mem
      exact ih e inside made
  | call _ fit _ spelled _ _ ih =>
    rcases List.mem_cons.1 mem with own | inner
    · cases own
      obtain ⟨key, rfl⟩ := Compile.eq_text_of_fits rfl fit
      obtain ⟨setting, found, rfl⟩ := Option.map_eq_some_iff.1 spelled
      exact ⟨setting, found, rfl⟩
    · obtain ⟨a, among, made⟩ := Compile.mem_operandsCalls.1 inner
      cases a with
      | expr e => exact ih e among made
      | _ => cases made

namespace SettingsCache

/-- Something that was done with settings. -/
inductive Note where
  /-- A call was made, of `getConfig` or of another function. -/
  | called (call : CallRecord)
  /-- The cache was dropped. -/
  | dropped

end SettingsCache

/-- The number that a call of `getConfig` read for a key, unless it reported a problem. -/
def CallRecord.read? (call : CallRecord) (key : String) : Option Double :=
  match call.value with
  | .number n =>
    if call.function = .getConfig ∧ textAt call.args 0 = key ∧
      call.after.diagnostics = call.before.diagnostics then some n else none
  | .bool _ => none

/-- A call reads nothing for other keys than the one that it asks by. -/
theorem CallRecord.read?_of_ne {call : CallRecord} {key other : String}
    (asked : call.args = [.text key]) (apart : other ≠ key) : call.read? other = none := by
  unfold read?
  split
  · rw [asked]
    exact if_neg fun reads => apart reads.2.1.symm
  · rfl

namespace SettingsCache

/-- What was read first for a key since the cache was last dropped. -/
def standing (key : String) : List Note → Option Double
  | [] => none
  | .called call :: past => (standing key past).or (call.read? key)
  | .dropped :: _ => none

/-- What was read first stands until the cache is dropped. -/
theorem standing_append {key : String} {past : List Note} {value : Double}
    (stands : standing key past = some value) {later : List Note} (kept : .dropped ∉ later) :
    standing key (later ++ past) = some value := by
  induction later with
  | nil => exact stands
  | cons note later ih =>
    have rest := ih fun mem => kept (List.mem_cons_of_mem _ mem)
    cases note with
    | called call => simp only [List.cons_append, standing, rest, Option.some_or]
    | dropped => exact absurd List.mem_cons_self kept

end SettingsCache

open SettingsCache

/-- How a call of `getConfig` is answered after what was noted before it. -/
structure CallRecord.Answers (call : CallRecord) (past : List Note) (setting : Setting) : Prop where
  /-- What was read first is the answer, whatever the source says, and nothing else happens. -/
  again {value : Double} : standing setting.key past = some value →
    call.value = .number value ∧ call.after = call.before
  /-- What the source says is the first answer. -/
  first {value : Double} : standing setting.key past = none →
    call.scene.world.config.bind (· setting.parameter) = some value →
    call.value = .number value ∧ call.after.diagnostics = call.before.diagnostics
  /-- Where the source says nothing, the answer is zero with one diagnostic, and the cache stays as it was. -/
  failed : standing setting.key past = none →
    call.scene.world.config.bind (· setting.parameter) = none →
    call.value = .number .zero ∧
      call.after.diagnostics = (SettingError.noValue setting.key).message :: call.before.diagnostics ∧
      call.after.services.settings = call.before.services.settings

namespace SettingsCache

/-- Each call of `getConfig` asked for a setting by its key, and was answered after the notes before it. -/
def Consistent (notes : List Note) : Prop :=
  ∀ later past call, notes = later ++ .called call :: past → call.function = .getConfig →
    ∃ setting ∈ Setting.all, call.args = [.text setting.key] ∧ call.Answers past setting

namespace Consistent

variable {notes : List Note}

theorem nil : Consistent [] := by
  intro later past call same
  cases later <;> cases same

theorem cons {note : Note} (rest : Consistent notes)
    (head : ∀ call, note = .called call → call.function = .getConfig →
      ∃ setting ∈ Setting.all, call.args = [.text setting.key] ∧ call.Answers notes setting) :
    Consistent (note :: notes) := by
  intro later past call same asked
  cases later with
  | nil =>
    cases same
    exact head call rfl asked
  | cons first later =>
    cases same
    exact rest later past call rfl asked

/-- After a call of `getConfig` that reported nothing, all such calls up to the next drop yield the same
number and do nothing else. There is one setting, so all of them ask for the same. -/
theorem agree (h : Consistent notes) {later between past : List Note} {i j : CallRecord}
    (split : notes = later ++ .called j :: (between ++ .called i :: past))
    (first : i.function = .getConfig) (second : j.function = .getConfig)
    (succeeded : i.after.diagnostics = i.before.diagnostics) (kept : .dropped ∉ between) :
    j.value = i.value ∧ j.after = j.before := by
  obtain ⟨setting, listed, -, answered⟩ := h later _ j split second
  have split' : notes = (later ++ .called j :: between) ++ .called i :: past := by
    simp only [split, List.append_assoc, List.cons_append]
  obtain ⟨setting', listed', asked, answered'⟩ := h _ past i split' first
  obtain rfl : setting = setting' := by
    rw [List.mem_singleton.1 listed, List.mem_singleton.1 listed']
  -- the earlier call leaves its number standing, whether it read it or got what stood already
  obtain ⟨value, is, stands⟩ : ∃ value, i.value = .number value ∧
      standing setting.key (.called i :: past) = some value := by
    rw [standing]
    cases before : standing setting.key past with
    | some value => exact ⟨value, (answered'.again before).1, Option.some_or⟩
    | none =>
      cases told : i.scene.world.config.bind (· setting.parameter) with
      | some value =>
        have is := (answered'.first before told).1
        refine ⟨value, is, ?_⟩
        rw [CallRecord.read?, is, Option.none_or]
        exact if_pos ⟨first, by rw [asked]; rfl, succeeded⟩
      | none =>
        have reported := (answered'.failed before told).2.1
        rw [succeeded] at reported
        exact absurd reported.symm (List.cons_ne_self _ _)
  obtain ⟨same, still⟩ := answered.again (standing_append stands kept)
  exact ⟨same.trans is.symm, still⟩

end Consistent

end SettingsCache

namespace Eval

variable {sc : Scene} {α β : Type}

/-- A step leaves the settings alone. -/
def KeepsSettings (m : Eval α) : Prop :=
  ∀ s, (m.run s).2.services.settings = s.services.settings

namespace KeepsSettings

theorem pure (a : α) : KeepsSettings (pure a : Eval α) :=
  fun _ => rfl

theorem bind {m : Eval α} {k : α → Eval β} (first : KeepsSettings m)
    (second : ∀ a, KeepsSettings (k a)) : KeepsSettings (m >>= k) :=
  fun s => (second (m.run s).1 (m.run s).2).trans (first s)

theorem of_reports {m : Eval α} (reports : OnlyReports m) : KeepsSettings m := by
  intro s
  obtain ⟨store, diagnostics, after⟩ := reports s
  rw [after]

end KeepsSettings

theorem string_keepsSettings (sc : Scene) (a : Operand) : KeepsSettings (string sc a) := by
  unfold string
  split
  · exact .pure _
  · exact .pure _
  · exact .of_reports (report_onlyReports sc _ "")

theorem strings_keepsSettings (sc : Scene) (a : Operand) : KeepsSettings (strings sc a) := by
  unfold strings
  split
  · exact fun s => s.services.settings_readFileNames sc.subject
  · exact (string_keepsSettings sc _).bind fun s => .pure [s]

theorem matching_keepsSettings (sc : Scene) (p : Pattern) (a : Operand) :
    KeepsSettings (matching sc p a) := by
  by_cases files : a = .keyword .fileNames
  · subst files
    intro s
    rcases matching_fileNames_run sc p s with run | run
    · rw [run]
      exact s.services.settings_readFileNames sc.subject
    · rw [run]
      exact s.services.settings_readFileNames sc.subject
  · unfold matching
    split
    · contradiction
    · exact (string_keepsSettings sc _).bind fun s => .pure (p.search s)

theorem countTag_keepsSettings (sc : Scene) (name : String) : KeepsSettings (countTag sc name) := by
  intro s
  rw [countTag_run]
  split
  · rfl
  · rfl

theorem script_keepsSettings (sc : Scene) (source : String) : KeepsSettings (script sc source) := by
  unfold script
  cases sc.world.script with
  | none => exact .of_reports (report_onlyReports sc _ false)
  | some hook =>
    refine KeepsSettings.bind (fun _ => rfl) fun _ => ?_
    split
    · exact .pure _
    · exact .pure false
    · exact .of_reports (report_onlyReports sc _ false)

/-- Only `getConfig` reads settings. -/
theorem plainCall_keepsSettings {f : Builtin} (other : f ≠ .getConfig) (args : List Operand)
    (p : Option Pattern) : KeepsSettings (plainCall sc f args p) := by
  unfold plainCall
  split
  · exact (countTag_keepsSettings sc _).bind fun n => .pure (Value.number n)
  · contradiction
  · exact (script_keepsSettings sc _).bind fun b => .pure (Value.bool b)
  · exact (strings_keepsSettings sc _).bind fun texts => (string_keepsSettings sc _).bind fun part =>
      .pure _
  · cases p with
    | none => exact .pure _
    | some p => exact (matching_keepsSettings sc p _).bind fun b => .pure (Value.bool b)
  · exact .pure _

end Eval

namespace SettingsCache

/-- What a call of `getConfig` for a setting yields and does: the number is kept, or the source says it, or
there is none. -/
inductive Outcome (sc : Scene) (setting : Setting) (s : EvalState) : Value → EvalState → Prop
  | kept {value} (there : s.services.settings.cached? sc.world.ticks setting.key = some value) :
    Outcome sc setting s (.number value) s
  | read {value} (missing : s.services.settings.cached? sc.world.ticks setting.key = none)
    (told : sc.world.config.bind (· setting.parameter) = some value) :
    Outcome sc setting s (.number value)
      { s with services.settings := s.services.settings.keep sc.world.ticks setting.key value }
  | failed (missing : s.services.settings.cached? sc.world.ticks setting.key = none)
    (silent : sc.world.config.bind (· setting.parameter) = none) :
    Outcome sc setting s (.number .zero)
      { services := s.services.mapStore
          (·.setDiagnostic sc.owner (some (SettingError.noValue setting.key).message))
        diagnostics := (SettingError.noValue setting.key).message :: s.diagnostics }

theorem outcome_of_known {setting : Setting} (known : Setting.ofKey? setting.key = some setting)
    (sc : Scene) (p : Option Pattern) (s : EvalState) :
    Outcome sc setting s ((Eval.plainCall sc .getConfig [.text setting.key] p).run s).1
      ((Eval.plainCall sc .getConfig [.text setting.key] p).run s).2 := by
  change Outcome sc setting s
    (StateT.run (Eval.setting sc setting.key >>= fun n => pure (Value.number n)) s).1
    (StateT.run (Eval.setting sc setting.key >>= fun n => pure (Value.number n)) s).2
  rw [StateT.run_bind, Eval.setting_run]
  cases there : s.services.settings.cached? sc.world.ticks setting.key with
  | some value =>
    rw [get_of_cached?_eq_some there]
    exact .kept there
  | none =>
    simp only [get, there, known]
    cases told : sc.world.config.bind (· setting.parameter) with
    | some value => exact .read there told
    | none => exact .failed there told

/-- The cache holds what the notes say: at all times that matter, what was read first for a key is kept
for it. -/
structure Kept (lifetime : Nat) (ticks : Nat → Prop) (notes : List Note) (s : EvalState) : Prop where
  lifetime : s.services.settings.lifetime = lifetime
  cached : ∀ t, ticks t → ∀ key, s.services.settings.cached? t key = standing key notes
  consistent : Consistent notes

namespace Kept

variable {lifetime : Nat} {ticks : Nat → Prop} {notes : List Note} {s t : EvalState} {sc : Scene}

/-- Only the settings matter. -/
theorem congr (h : Kept lifetime ticks notes s)
    (settings : t.services.settings = s.services.settings) : Kept lifetime ticks notes t where
  lifetime := by rw [settings, h.lifetime]
  cached := by
    rw [settings]
    exact h.cached
  consistent := h.consistent

/-- A dropped cache holds what a note of that says: nothing. -/
theorem invalidate (h : Kept lifetime ticks notes s) :
    Kept lifetime ticks (.dropped :: notes)
      { s with services := { s.services with settings := s.services.settings.invalidate } } where
  lifetime := h.lifetime
  cached _ _ _ := rfl
  consistent := h.consistent.cons fun _ same => nomatch same

/-- A call of another function adds nothing that matters. -/
theorem other (h : Kept lifetime ticks notes s) {call : CallRecord}
    (function : call.function ≠ .getConfig)
    (settings : call.after.services.settings = s.services.settings) :
    Kept lifetime ticks (.called call :: notes) call.after where
  lifetime := by rw [settings, h.lifetime]
  cached t now key := by
    have unread : call.read? key = none := by
      unfold CallRecord.read?
      split
      · rw [if_neg fun asked => function asked.1]
      · rfl
    rw [settings, h.cached t now key, standing, unread, Option.or_none]
  consistent := h.consistent.cons fun _ same asked => by
    cases same
    exact absurd asked function

end Kept

namespace Outcome

variable {sc : Scene} {setting : Setting} {s t : EvalState} {value : Value} {notes : List Note}

/-- The outcome is the answer that the notes call for, if the cache holds what they say. -/
theorem answers (h : Outcome sc setting s value t)
    (cached : s.services.settings.cached? sc.world.ticks setting.key = standing setting.key notes) :
    CallRecord.Answers ⟨sc, .getConfig, [.text setting.key], s, value, t⟩ notes setting := by
  cases h with
  | kept there =>
    have stands := cached.symm.trans there
    refine ⟨fun again => ?_, fun none => ?_, fun none => ?_⟩
    · cases stands.symm.trans again
      exact ⟨rfl, rfl⟩
    · cases stands.symm.trans none
    · cases stands.symm.trans none
  | read missing told =>
    have stands := cached.symm.trans missing
    refine ⟨fun again => ?_, fun _ told' => ?_, fun _ silent => ?_⟩
    · cases stands.symm.trans again
    · cases told.symm.trans told'
      exact ⟨rfl, rfl⟩
    · cases told.symm.trans silent
  | failed missing silent =>
    have stands := cached.symm.trans missing
    refine ⟨fun again => ?_, fun _ told => ?_, fun _ _ => ⟨rfl, rfl, rfl⟩⟩
    · cases stands.symm.trans again
    · cases silent.symm.trans told

/-- After the call, the cache holds for the key what the notes say with this call. -/
theorem cached (h : Outcome sc setting s value t) {u : Nat}
    (before : s.services.settings.cached? u setting.key = standing setting.key notes)
    (now : s.services.settings.cached? sc.world.ticks setting.key = standing setting.key notes)
    (fresh : u - sc.world.ticks < s.services.settings.lifetime) :
    t.services.settings.cached? u setting.key =
      standing setting.key (.called ⟨sc, .getConfig, [.text setting.key], s, value, t⟩ :: notes) := by
  rw [standing]
  cases h with
  | kept there => rw [before, ← now, there, Option.some_or]
  | @read number missing =>
    have read : CallRecord.read? ⟨sc, .getConfig, [.text setting.key], s, .number number,
        { s with services.settings := s.services.settings.keep sc.world.ticks setting.key number }⟩
        setting.key = some number := if_pos ⟨rfl, rfl, rfl⟩
    rw [← now, missing, Option.none_or, read]
    simp [cached?, keep, fresh]
  | failed missing =>
    have unread : CallRecord.read? ⟨sc, .getConfig, [.text setting.key], s, .number .zero,
        { services := s.services.mapStore
            (·.setDiagnostic sc.owner (some (SettingError.noValue setting.key).message))
          diagnostics := (SettingError.noValue setting.key).message :: s.diagnostics }⟩
        setting.key = none := if_neg fun asked => List.cons_ne_self _ _ asked.2.2
    rw [unread, Option.or_none]
    exact before

/-- The call does nothing to what is kept for other keys. -/
theorem cached_of_ne (h : Outcome sc setting s value t) (u : Nat) {key : String}
    (apart : key ≠ setting.key) :
    t.services.settings.cached? u key = s.services.settings.cached? u key := by
  cases h with
  | kept => rfl
  | read => exact cached?_keep_of_ne _ _ _ _ apart
  | failed => rfl

theorem lifetime (h : Outcome sc setting s value t) :
    t.services.settings.lifetime = s.services.settings.lifetime := by
  cases h <;> rfl

end Outcome

namespace Kept

variable {lifetime : Nat} {ticks : Nat → Prop} {notes : List Note} {s t : EvalState} {sc : Scene}

/-- After a call of `getConfig`, the cache holds what the notes say with this call. -/
theorem asked (h : Kept lifetime ticks notes s)
    (lasting : ∀ t u, ticks t → ticks u → u - t < lifetime) (now : ticks sc.world.ticks)
    {setting : Setting} {value : Value} (outcome : Outcome sc setting s value t)
    (listed : setting ∈ Setting.all) :
    Kept lifetime ticks (.called ⟨sc, .getConfig, [.text setting.key], s, value, t⟩ :: notes) t where
  lifetime := outcome.lifetime.trans h.lifetime
  cached u later key := by
    by_cases own : key = setting.key
    · rw [own]
      exact outcome.cached (h.cached u later _) (h.cached _ now _)
        (h.lifetime ▸ lasting _ u now later)
    · rw [outcome.cached_of_ne u own, h.cached u later key, standing, CallRecord.read?_of_ne rfl own,
        Option.or_none]
  consistent := h.consistent.cons fun _ same _ => by
    cases same
    exact ⟨setting, listed, rfl, outcome.answers (h.cached _ now _)⟩

end Kept

/-- Something that happens in a session. Time and the parameters are those of the scene, so they may be
others in the events that follow. -/
inductive Event where
  /-- An expression is evaluated. -/
  | evaluate (sc : Scene) (e : Expr)
  /-- The cache is dropped. -/
  | invalidate
  /-- Something else happens, which leaves the settings alone. -/
  | otherwise (change : Services → Services)

namespace Event

/-- Change the services. -/
def change (f : Services → Services) : Eval (Option Bool) := do
  modify fun s => { s with services := f s.services }
  return none

/-- Run an event. An evaluation starts without diagnostics and yields a truth value. -/
def run : Event → Eval (Option Bool)
  | .evaluate sc e => do
    modify fun s => { s with diagnostics := [] }
    let b ← e.holds sc
    return some b
  | .invalidate => change fun s => { s with settings := s.settings.invalidate }
  | .otherwise f => change fun s => { f s with settings := s.settings }

/-- Evaluate an expression and note its calls. -/
def noteCalls (sc : Scene) (e : Expr) : StateT (List Note) Eval Bool := do
  let (b, calls) ← StateT.lift ((e.holdsRecorded sc).run [])
  modify fun notes => calls.map .called ++ notes
  return b

/-- Run an event and take notes. -/
def noted : Event → StateT (List Note) Eval (Option Bool)
  | .evaluate sc e => do
    StateT.lift (modify fun s => { s with diagnostics := [] })
    let b ← noteCalls sc e
    return some b
  | .invalidate => do
    modify (.dropped :: ·)
    StateT.lift (change fun s => { s with settings := s.settings.invalidate })
  | .otherwise f => StateT.lift (change fun s => { f s with settings := s.settings })

end Event

/-- Events one after the other. -/
abbrev Session := List Event

namespace Session

/-- The outcomes of the events. -/
def run (events : Session) : Eval (List (Option Bool)) :=
  events.mapM Event.run

/-- The outcomes of the events, with notes. -/
def noted (events : Session) : StateT (List Note) Eval (List (Option Bool)) :=
  events.mapM Event.noted

/-- An expression is evaluated at a time of the session. -/
def At (events : Session) (ticks : Nat) : Prop :=
  ∃ sc e, .evaluate sc e ∈ events ∧ sc.world.ticks = ticks

/-- No entry of the cache expires within the session. -/
def Lasting (events : Session) (lifetime : Nat) : Prop :=
  ∀ t u, events.At t → events.At u → u - t < lifetime

/-- What is evaluated was compiled. -/
def Compiled (events : Session) : Prop :=
  ∀ sc e, .evaluate sc e ∈ events → ∃ tags text c, compile tags text = .ok c ∧ c.expr = e

end Session

variable {lifetime : Nat} {ticks : Nat → Prop}

/-- What an expression asks for, it asks for by the proper key of a setting. -/
def Asks (call : Builtin × List Operand) : Prop :=
  call.1 = .getConfig →
    ∃ setting, Setting.ofKey? setting.key = some setting ∧ call.2 = [.text setting.key]

/-- The calls of an evaluation keep what the cache holds in accordance with the notes. -/
theorem kept_invariant (lasting : ∀ t u, ticks t → ticks u → u - t < lifetime) {sc : Scene}
    (now : ticks sc.world.ticks) (notes : List Note) :
    Recorded.Invariant sc Asks fun calls s => Kept lifetime ticks (calls.map .called ++ notes) s where
  report store diagnostics h := h.congr rfl
  call {f args} made p calls s h := by
    by_cases inquires : f = .getConfig
    · subst inquires
      obtain ⟨setting, known, rfl⟩ := made rfl
      exact h.asked lasting now (outcome_of_known known sc p s) (List.mem_of_find?_eq_some known)
    · exact h.other inquires (Eval.plainCall_keepsSettings inquires args p s)

open Recorded (Follows)

/-- Evaluation with notes is evaluation, and keeps what the cache holds in accordance with them. -/
theorem noteCalls_follows (lasting : ∀ t u, ticks t → ticks u → u - t < lifetime) {sc : Scene}
    (now : ticks sc.world.ticks) {e : Expr} (shaped : e.Shaped) :
    Follows (Kept lifetime ticks) (e.holds sc) (Event.noteCalls sc e) := by
  have follows (notes : List Note) := e.holds_recorded (kept_invariant lasting now notes)
    fun call made inquires => shaped.spelled_of_mem (inquires ▸ made)
  exact ⟨fun _ s => (follows []).erases [] s, fun notes s h => (follows notes).keeps [] s h⟩

/-- An event with notes is the event, and keeps what the cache holds in accordance with them. -/
theorem event_follows (lasting : ∀ t u, ticks t → ticks u → u - t < lifetime) {event : Event}
    (shaped : ∀ sc e, event = .evaluate sc e → e.Shaped ∧ ticks sc.world.ticks) :
    Follows (Kept lifetime ticks) event.run event.noted := by
  cases event with
  | evaluate sc e =>
    obtain ⟨shaped, now⟩ := shaped sc e rfl
    have start : Follows (Kept lifetime ticks) (modify fun s : EvalState => { s with diagnostics := [] })
        (StateT.lift (modify fun s => { s with diagnostics := [] })) :=
      ⟨fun _ _ => rfl, fun _ _ h => h.congr rfl⟩
    exact start.bind fun _ => (noteCalls_follows lasting now shaped).bind fun b => .pure (some b)
  | invalidate => exact ⟨fun _ _ => rfl, fun _ _ h => h.invalidate⟩
  | otherwise f => exact ⟨fun _ _ => rfl, fun _ _ h => h.congr rfl⟩

theorem session_follows (lasting : ∀ t u, ticks t → ticks u → u - t < lifetime) {events : Session}
    (shaped : ∀ event ∈ events, ∀ sc e, event = .evaluate sc e → e.Shaped ∧ ticks sc.world.ticks) :
    Follows (Kept lifetime ticks) events.run events.noted := by
  unfold Session.run Session.noted
  induction events with
  | nil =>
    simp only [List.mapM_nil]
    exact .pure []
  | cons event events ih =>
    obtain ⟨first, rest⟩ := List.forall_mem_cons.1 shaped
    simp only [List.mapM_cons]
    exact (event_follows lasting first).bind fun b => (ih rest).bind fun outcomes =>
      .pure (b :: outcomes)

namespace Session

/-- All constraints see a setting alike. In any session of evaluations of what was compiled, in which no
entry of the cache expires, taking notes changes neither outcomes nor services, and each call of
`getConfig` asks for a setting by its proper key. What was read first for the setting since the cache was
last dropped is the answer, whatever the source says by then. Where nothing was read yet, the answer is
what the source says; where it says nothing, it is zero with one diagnostic, and this is not kept. So
after one call that succeeds, all calls yield the same up to the next drop. -/
theorem one_view {events : Session} {s : EvalState} (empty : s.services.settings.entries = [])
    (lasting : events.Lasting s.services.settings.lifetime) (compiled : events.Compiled) :
    let out := (events.noted.run []).run s
    (out.1.1, out.2) = events.run.run s ∧ Consistent out.1.2 ∧
      ∀ later between past i j, out.1.2 = later ++ .called j :: (between ++ .called i :: past) →
        i.function = .getConfig → j.function = .getConfig →
        i.after.diagnostics = i.before.diagnostics → .dropped ∉ between →
        j.value = i.value ∧ j.after = j.before := by
  intro out
  have follows : Follows (Kept s.services.settings.lifetime events.At) events.run events.noted := by
    apply session_follows lasting
    rintro event mem sc e rfl
    obtain ⟨tags, text, c, compiles, rfl⟩ := compiled sc e mem
    exact ⟨(Compile.shaped_of_compile compiles).1, sc, c.expr, mem, rfl⟩
  have start : Kept s.services.settings.lifetime events.At [] s := by
    refine ⟨rfl, fun t _ key => ?_, .nil⟩
    rw [cached?, empty]
    rfl
  have consistent := (follows.keeps [] s start).consistent
  exact ⟨follows.erases [] s, consistent, fun _ _ _ _ _ => consistent.agree⟩

/-- The ratio in the settings is above one. -/
def aboveOne : Expr :=
  .call .isGT "isGT" [.expr (.call .getConfig "getConfig"
    [.text "queue.seeding.ignore.share.ratio"] none), .number (.ofNat 1)] none

/-- A tree is the one above. -/
def isAboveOne : Expr → Bool
  | .call .isGT name [.expr (.call .getConfig inner [.text key] none), .number n] none =>
    name == "isGT" && inner == "getConfig" && key == "queue.seeding.ignore.share.ratio" &&
      n == .ofNat 1
  | _ => false

theorem compiled_aboveOne {text : String}
    (read : (compile none text).toOption.any (isAboveOne ·.expr) = true) :
    ∃ c, compile none text = .ok c ∧ c.expr = aboveOne := by
  obtain ⟨c, compiles, same⟩ := (Option.any_eq_true ..).1 read
  refine ⟨c, ?_, ?_⟩
  · cases result : compile none text with
    | ok c' =>
      rw [result] at compiles
      cases compiles
      rfl
    | error e =>
      rw [result] at compiles
      cases compiles
  · unfold isAboveOne at same
    split at same
    · simp_all [aboveOne]
    · cases same

/-- At some time, the source says the same of all parameters. -/
def telling (ticks : Nat) (told : Option Double) : Scene :=
  ⟨{ ticks, config := some fun _ => told }, ⟨1⟩, {}, []⟩

/-- The source says nothing at first, then two, then three, and nothing in the end. The cache is dropped
once. -/
def revised : Session :=
  [.evaluate (telling 0 none) aboveOne, .evaluate (telling 1 (some (.ofNat 2))) aboveOne,
    .evaluate (telling 2 (some (.ofNat 3))) aboveOne, .invalidate,
    .evaluate (telling 3 (some (.ofNat 3))) aboveOne, .evaluate (telling 4 none) aboveOne]

/-- The key may be spelled in any case. Zero is read at first, then two up to the drop, and three
afterwards. -/
theorem revised_one_view :
    let notes := ((revised.noted.run []).run { services := {} }).1.2
    (∃ c, compile none "getConfig(\"Queue.Seeding.Ignore.SHARE.Ratio\") > 1" = .ok c ∧
      c.expr = aboveOne) ∧
    (notes.reverse.filterMap fun
      | .called call => some call.value
      | .dropped => none) = [.number .zero, .number (.ofNat 2), .number (.ofNat 2),
        .number (.ofNat 3), .number (.ofNat 3)] ∧
      Consistent notes := by
  obtain ⟨c, compiles, same⟩ :
      ∃ c, compile none "getConfig(\"Queue.Seeding.Ignore.SHARE.Ratio\") > 1" = .ok c ∧
        c.expr = aboveOne := compiled_aboveOne (by decide +kernel)
  have listed : ∀ sc e, .evaluate sc e ∈ revised → e = aboveOne ∧ sc.world.ticks ≤ 4 := by
    simp only [revised, List.mem_cons, Event.evaluate.injEq, reduceCtorEq, List.not_mem_nil, false_or,
      or_false]
    rintro sc e (⟨rfl, rfl⟩ | ⟨rfl, rfl⟩ | ⟨rfl, rfl⟩ | ⟨rfl, rfl⟩ | ⟨rfl, rfl⟩)
    all_goals exact ⟨rfl, by decide⟩
  have lasting : revised.Lasting 60000000000 := by
    rintro t u - ⟨sc, e, mem, rfl⟩
    have := (listed sc e mem).2
    omega
  have compiled : revised.Compiled := by
    intro sc e mem
    obtain ⟨rfl, -⟩ := listed sc e mem
    exact ⟨none, _, c, compiles, same⟩
  exact ⟨⟨c, compiles, same⟩, by decide +kernel,
    (one_view (s := { services := {} }) rfl lasting compiled).2.1⟩

end Session

end SettingsCache

end TagRules

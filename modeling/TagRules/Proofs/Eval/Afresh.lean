import TagRules.Proofs.Eval.Stamps
import TagRules.Proofs.Eval.Trace

/-!
# What is remembered is what would be found

The file names of a subject are read once and kept until they are forgotten, and the outcome of a
pattern on them is remembered with the stamp of that reading. Two operations forget, each its own part,
and nothing ties them together. Nevertheless no call of `matches` ever gets an outcome that is out of
date: in any session of evaluations for any subjects, in which subjects change and parts are forgotten,
each call is answered as its pattern would answer afresh (`Services.Session.answers_afresh`). The invariant is
that an outcome with the stamp of the names that are kept is the outcome on these
(`Services.Faithful`). Names that are read again get a new stamp, so older outcomes say nothing about
them.
-/

namespace TagRules

namespace Use

/-- The file names of a subject as they were when they were first asked for since they were last
forgotten. -/
def names (id : SubjectId) : List Use → Option (List String)
  | [] => none
  | .listed r :: past =>
    if r.id = id then some ((names id past).getD r.fileNames) else names id past
  | .forgotten other :: past => if other = id then none else names id past
  | .matched .. :: past => names id past

/-- The texts that an argument of `matches` stands for: file names as they were listed, if they were,
and any other text as it is now. -/
def texts (past : List Use) (sc : Scene) : Operand → List String
  | .keyword .fileNames => (names sc.subject.id past).getD sc.subject.fileNames
  | a => [sc.text a]

/-- Each pattern was answered as it answers for the texts of its argument. -/
def Afresh (uses : List Use) : Prop :=
  ∀ later past sc p a answer, uses = later ++ .matched sc p a answer :: past →
    answer = (texts past sc a).any p.search

variable {uses : List Use}

theorem texts_of_ne (past : List Use) {sc : Scene} {a : Operand} (other : a ≠ .keyword .fileNames) :
    texts past sc a = [sc.text a] := by
  unfold texts
  split
  · contradiction
  · rfl

/-- Until they are forgotten, file names stay as they were when they were first asked for. -/
theorem names_of_first {r : SubjectRecord} {past : List Use} (fresh : names r.id past = none)
    {later : List Use} (kept : .forgotten r.id ∉ later) :
    names r.id (later ++ .listed r :: past) = some r.fileNames := by
  induction later with
  | nil => simp only [List.nil_append, names, fresh, if_true, Option.getD_none]
  | cons use later ih =>
    have rest := ih fun mem => kept (List.mem_cons_of_mem _ mem)
    cases use with
    | listed other =>
      simp only [List.cons_append, names, rest, Option.getD_some]
      split <;> rfl
    | matched => exact rest
    | forgotten other =>
      have apart : other ≠ r.id := by
        rintro rfl
        exact kept List.mem_cons_self
      simp only [List.cons_append, names, if_neg apart, rest]

namespace Afresh

theorem nil : Afresh [] := by
  intro later past sc p a answer same
  cases later <;> cases same

theorem cons {use : Use} (rest : Afresh uses)
    (head : ∀ sc p a answer, use = .matched sc p a answer →
      answer = (texts uses sc a).any p.search) : Afresh (use :: uses) := by
  intro later past sc p a answer same
  cases later with
  | nil =>
    cases same
    exact head sc p a answer rfl
  | cons first later =>
    cases same
    exact rest later past sc p a answer rfl

end Afresh

end Use

/-- The caches hold what the notes say: file names as they were first listed, and of the outcomes on
these, the right ones. -/
structure Services.Faithful (uses : List Use) (s : Services) : Prop where
  names : ∀ id, (s.fileNames.get? id).map (·.names) = Use.names id uses
  outcomes : ∀ id names, s.fileNames.get? id = some names → ∀ m ∈ (s.outcomes.get? id).getD [],
    m.stamp = names.stamp → m.matched = names.names.any m.pattern.search
  stamped : s.Stamped
  afresh : Use.Afresh uses

namespace Services.Faithful

variable {uses : List Use} {s t : Services} {r : SubjectRecord} {id : SubjectId}
  {names : CachedNames}

theorem empty (store : TagStore) (settings : SettingsCache) : Faithful [] { store, settings } where
  names _ := rfl
  outcomes _ _ found := nomatch found
  stamped := (Stamped.empty store).congr rfl rfl rfl
  afresh := .nil

/-- Only the caches of file names and of outcomes matter. -/
theorem congr (same : s.SameCaches t) (h : s.Faithful uses) : t.Faithful uses where
  names := by simpa only [same.fileNames] using h.names
  outcomes := by simpa only [same.fileNames, same.outcomes] using h.outcomes
  stamped := h.stamped.congr same.fileNames same.outcomes same.stamp
  afresh := h.afresh

/-- What is remembered of names that are kept is what they give. -/
theorem outcome_eq (h : s.Faithful uses) (found : s.fileNames.get? id = some names) (p : Pattern) :
    s.outcome id names p = names.names.any p.search := by
  unfold outcome outcome?
  cases kept : ((s.outcomes.get? id).getD []).find? fun m =>
    m.pattern == p && m.stamp == names.stamp with
  | none => rfl
  | some m =>
    have asked := List.find?_some kept
    simp only [Bool.and_eq_true, beq_iff_eq] at asked
    have right := h.outcomes id names found m (List.mem_of_find?_eq_some kept) asked.2
    rw [Option.map_some, Option.getD_some, right, asked.1]

/-- Reading file names lists them. -/
theorem readFileNames (h : s.Faithful uses) (r : SubjectRecord) :
    (s.readFileNames r).2.Faithful (.listed r :: uses) := by
  have listed := h.names r.id
  have stamped := h.stamped.readFileNames r
  have afresh : Use.Afresh (.listed r :: uses) := h.afresh.cons fun _ _ _ _ same => nomatch same
  cases known : s.fileNames.get? r.id with
  | some names =>
    rw [readFileNames_of_some known] at stamped ⊢
    rw [known, Option.map_some] at listed
    refine ⟨fun id => ?_, h.outcomes, stamped, afresh⟩
    simp only [Use.names]
    split
    · next same =>
      subst same
      rw [← listed, known]
      rfl
    · exact h.names id
  | none =>
    rw [readFileNames_of_none known] at stamped ⊢
    rw [known, Option.map_none] at listed
    refine ⟨fun id => ?_, fun id names found m mem stamp => ?_, stamped, afresh⟩
    · simp only [Use.names, Dict.get?_insert]
      split
      · next same =>
        subst same
        rw [← listed]
        rfl
      · exact h.names id
    · rw [Dict.get?_insert] at found
      split at found
      · -- the stamp is new, so there is no such outcome
        cases found
        exact absurd (h.stamped.outcomes id m mem) (by simp [stamp])
      · exact h.outcomes id names found m mem stamp

/-- The right outcome is remembered. -/
theorem rememberOutcome (h : s.Faithful uses) (found : s.fileNames.get? id = some names)
    (p : Pattern) :
    (s.rememberOutcome id ⟨p, names.stamp, names.names.any p.search⟩).Faithful uses := by
  refine ⟨h.names, fun other names' found' m mem stamp => ?_,
    h.stamped.rememberOutcome id (h.stamped.fileNames id names found), h.afresh⟩
  rcases of_mem_rememberOutcome mem with ⟨rfl, rfl⟩ | old
  · cases found.symm.trans found'
    rfl
  · exact h.outcomes other names' found' m old stamp

/-- File names are forgotten; what is remembered of them may stay. -/
theorem forgetSubject (h : s.Faithful uses) (id : SubjectId) :
    (s.forgetSubject id).Faithful (.forgotten id :: uses) := by
  refine ⟨fun other => ?_, fun other names found m mem stamp => ?_, h.stamped.forgetSubject id,
    h.afresh.cons fun _ _ _ _ same => nomatch same⟩
  · rw [get?_forgetSubject]
    simp only [Use.names]
    split
    · rfl
    · exact h.names other
  · rw [get?_forgetSubject] at found
    split at found
    · cases found
    · exact h.outcomes other names found m mem stamp

/-- Outcomes are forgotten; the names that they are about may stay. -/
theorem forgetOutcomes (h : s.Faithful uses) (id : SubjectId) (ps : List Pattern) :
    (s.forgetOutcomes id ps).Faithful uses where
  names := h.names
  outcomes other names found m mem := h.outcomes other names found m (of_mem_forgetOutcomes mem)
  stamped := h.stamped.forgetOutcomes id ps
  afresh := h.afresh

/-- A pattern is answered as it answers for the texts of its argument. -/
theorem matched {sc : Scene} {p : Pattern} {a : Operand} {answer : Bool} (h : s.Faithful uses)
    (right : answer = (Use.texts uses sc a).any p.search) :
    s.Faithful (.matched sc p a answer :: uses) where
  names := h.names
  outcomes := h.outcomes
  stamped := h.stamped
  afresh := h.afresh.cons fun _ _ _ _ same => by
    cases same
    exact right

end Services.Faithful

namespace Traced

variable {sc : Scene} {uses : List Use}

/-- A call asks for file names to look into them, or to match a pattern with them. -/
theorem asks_cases (sc : Scene) (f : Builtin) (args : List Operand) (p : Option Pattern) :
    asks sc f args p = [] ∨ asks sc f args p = [.listed sc.subject] ∧
      ((∃ needle rest, f = .contains ∧ args = .keyword .fileNames :: needle :: rest) ∨
        ∃ rest q, f = .matching ∧ args = .keyword .fileNames :: rest ∧ p = some q) := by
  unfold asks
  split
  · exact .inr ⟨rfl, .inl ⟨_, _, rfl, rfl⟩⟩
  · exact .inr ⟨rfl, .inr ⟨_, _, rfl, rfl, rfl⟩⟩
  · exact .inl rfl

theorem answers_cases (sc : Scene) (value : Value) (f : Builtin) (args : List Operand)
    (p : Option Pattern) : answers sc value f args p = [] ∨
      ∃ a rest q, f = .matching ∧ args = a :: rest ∧ p = some q ∧
        answers sc value f args p = [.matched sc q a value.truth] := by
  unfold answers
  split
  · exact .inr ⟨_, _, _, rfl, rfl, rfl, rfl⟩
  · exact .inl rfl

/-- Matching file names lists them and finds what they give. -/
theorem matching_faithful {s : EvalState} (h : s.services.Faithful uses) (p : Pattern) :
    let out := (Eval.matching sc p (.keyword .fileNames)).run s
    out.2.services.Faithful (.listed sc.subject :: uses) ∧
      out.1 = (Use.texts (.listed sc.subject :: uses) sc (.keyword .fileNames)).any p.search := by
  have read := h.readFileNames sc.subject
  have kept := s.services.get?_readFileNames sc.subject
  have right := read.outcome_eq kept p
  have listed := read.names sc.subject.id
  rw [kept, Option.map_some] at listed
  have texts : Use.texts (.listed sc.subject :: uses) sc (.keyword .fileNames) =
      (s.services.readFileNames sc.subject).1.names := by
    rw [Use.texts, ← listed, Option.getD_some]
  rw [texts]
  rcases Eval.matching_fileNames_run sc p s with run | run
  · rw [run]
    exact ⟨read, right⟩
  · rw [run]
    dsimp only
    rw [right]
    exact ⟨read.rememberOutcome kept p, rfl⟩

/-- Calls keep the caches faithful to the notes. -/
theorem faithful (sc : Scene) : Invariant sc fun uses s => s.Faithful uses where
  quiet same h := h.congr same
  call f args p uses s h := by
    change ((Eval.plainCall sc f args p).run s).2.services.Faithful
      (answers sc ((Eval.plainCall sc f args p).run s).1 f args p ++ (asks sc f args p ++ uses))
    rcases asks_cases sc f args p with none | ⟨asked, ⟨needle, rest, rfl, rfl⟩ |
      ⟨rest, q, rfl, rfl, rfl⟩⟩
    · have still := h.congr (Eval.plainCall_quiet sc none s)
      rw [none, List.nil_append]
      rcases answers_cases sc ((Eval.plainCall sc f args p).run s).1 f args p with
        unanswered | ⟨a, rest, q, rfl, rfl, rfl, answered⟩
      · rwa [unanswered]
      · have other : a ≠ .keyword .fileNames := by
          rintro rfl
          cases none
        rw [answered]
        apply still.matched
        rw [(Eval.plainCall_reads sc .matching (a :: rest) (some q)).result s, Use.texts_of_ne _ other]
        simp only [View.plainCall, Option.map_some, Option.getD_some, Value.truth,
          View.isMatch_of_ne _ other, List.any_cons, List.any_nil, Bool.or_false]
    · rw [asked]
      exact (h.readFileNames sc.subject).congr (Eval.string_quiet sc needle
        { s with services := (s.services.readFileNames sc.subject).2 })
    · rw [asked]
      obtain ⟨still, right⟩ := matching_faithful h q
      exact still.matched right

end Traced

namespace Services

/-- Something that happens in a session. A subject that changes is one whose record is another one in
the events that follow. -/
inductive Event where
  /-- An expression is evaluated for a subject as it is now. -/
  | evaluate (sc : Scene) (e : Expr)
  /-- The file names of a subject as it is now are asked for. -/
  | list (r : SubjectRecord)
  /-- The file names of a subject are forgotten. -/
  | forgetSubject (id : SubjectId)
  /-- The outcomes of the patterns of an expression are forgotten for a subject. -/
  | forgetOutcomes (id : SubjectId) (e : Expr)
  /-- Tags and members change. -/
  | retag (change : TagStore → TagStore)

namespace Event

/-- Change the services. -/
def change (f : Services → Services) : Eval (Option Bool) := do
  modify fun s => { s with services := f s.services }
  return none

/-- Run an event. An evaluation starts without diagnostics and yields a truth value. -/
def run : Event → Eval (Option Bool)
  | .evaluate sc e => do
    modify fun s => { s with diagnostics := [] }
    let b ← e.holds sc
    return some b
  | .list r => change fun s => (s.readFileNames r).2
  | .forgetSubject id => change (·.forgetSubject id)
  | .forgetOutcomes id e => change (·.forgetOutcomes id e.patterns)
  | .retag f => change (·.mapStore f)

/-- Run an event and take notes. -/
def traced : Event → Traced (Option Bool)
  | .evaluate sc e => do
    StateT.lift (modify fun s => { s with diagnostics := [] })
    let b ← e.holdsTraced sc
    return some b
  | .list r => do
    modify (.listed r :: ·)
    StateT.lift (change fun s => (s.readFileNames r).2)
  | .forgetSubject id => do
    modify (.forgotten id :: ·)
    StateT.lift (change (·.forgetSubject id))
  | .forgetOutcomes id e => StateT.lift (change (·.forgetOutcomes id e.patterns))
  | .retag f => StateT.lift (change (·.mapStore f))

end Event

/-- Events one after the other. -/
abbrev Session := List Event

namespace Session

open Traced

/-- The outcomes of the events. -/
def run (events : Session) : Eval (List (Option Bool)) :=
  events.mapM Event.run

/-- The outcomes of the events, with notes. -/
def traced (events : Session) : Traced (List (Option Bool)) :=
  events.mapM Event.traced

/-- An event with notes is the event, and keeps the caches faithful to the notes. -/
theorem event_follows (event : Event) :
    Follows (fun uses s => s.Faithful uses) event.run event.traced := by
  cases event with
  | evaluate sc e =>
    have start : Eval.Quiet (modify fun s : EvalState => { s with diagnostics := [] }) :=
      fun _ => ⟨rfl, rfl, rfl⟩
    exact (Follows.lift (faithful sc) start).bind fun _ =>
      (e.holds_follows (faithful sc)).bind fun b => .pure (some b)
  | list r => exact ⟨fun _ _ => rfl, fun _ _ h => h.readFileNames r⟩
  | forgetSubject id => exact ⟨fun _ _ => rfl, fun _ _ h => h.forgetSubject id⟩
  | forgetOutcomes id e => exact ⟨fun _ _ => rfl, fun _ _ h => h.forgetOutcomes id e.patterns⟩
  | retag f =>
    refine ⟨fun _ _ => rfl, fun _ s h => ?_⟩
    have same : s.services.SameCaches (s.services.mapStore f) := ⟨rfl, rfl, rfl⟩
    exact h.congr same

theorem follows (events : Session) :
    Follows (fun uses s => s.Faithful uses) events.run events.traced := by
  unfold run traced
  induction events with
  | nil =>
    simp only [List.mapM_nil]
    exact .pure []
  | cons event events ih =>
    simp only [List.mapM_cons]
    exact (event_follows event).bind fun b => ih.bind fun rest => .pure (b :: rest)

/-- The caches of file names and of outcomes are transparent. In any session over services that start
with empty caches, taking notes changes neither outcomes nor services, and every call of `matches` that
was noted was answered as its pattern answers afresh for the texts of its argument, where the file names
of the subject are those that it had when they were first asked for since they were last forgotten. -/
theorem answers_afresh (events : Session) (store : TagStore) (settings : SettingsCache) :
    let start : EvalState := { services := { store, settings } }
    let out := (events.traced.run []).run start
    (out.1.1, out.2) = events.run.run start ∧ Use.Afresh out.1.2 := by
  intro start out
  have follows := follows events
  have kept := follows.keeps [] start (.empty store settings)
  exact ⟨follows.erases [] start, kept.afresh⟩

/-- A file name has a character. -/
def hasLetter (c : Char) : Expr :=
  .call .matching "matches" [.keyword .fileNames, .text c.toString] (some (.char (.single c)))

/-- A subject with one file, for a tag. -/
def withFile (name : String) : Scene :=
  ⟨{}, ⟨1⟩, { id := ⟨1⟩, files := [name] }, []⟩

/-- A file is renamed. It is looked at under its old name as long as that is kept; then the name is
forgotten, and after another look what is remembered of one pattern. -/
def renamed : Session :=
  [.evaluate (withFile "a") (hasLetter 'a'), .evaluate (withFile "b") (hasLetter 'b'),
    .evaluate (withFile "b") (hasLetter 'a'), .forgetSubject ⟨1⟩,
    .evaluate (withFile "b") (hasLetter 'a'), .forgetOutcomes ⟨1⟩ (hasLetter 'a'),
    .evaluate (withFile "b") (hasLetter 'a')]

/-- As long as the old name is kept, both patterns answer for it. Then the new name answers, and no
outcome on the old one is taken for one on the new. -/
theorem renamed_afresh :
    let old := (withFile "a").subject.fileNames
    let new := (withFile "b").subject.fileNames
    let a := Pattern.char (.single 'a')
    let b := Pattern.char (.single 'b')
    let uses := ((renamed.traced.run []).run { services := {} }).1.2
    (uses.reverse.filterMap fun
      | .matched _ _ _ answer => some answer
      | _ => none) =
        [old.any a.search, old.any b.search, old.any a.search, new.any a.search, new.any a.search] ∧
      Use.Afresh uses := by
  constructor
  · rfl
  · exact (answers_afresh renamed {} {}).2

end Session

end Services

end TagRules

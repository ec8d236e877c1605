import TagRules.Proofs.Eval.View

/-!
# The value of an expression

`Expr.reading` is the value of an expression as a function of the scene and of the view, without
state: caches, diagnostics and the order of evaluation are gone. Evaluation computes it
(`Expr.value_reads`, `Expr.holds_reads`), and two scenes that differ only in what an expression does
not mention give it the same value (`Expr.reading_congr`).
-/

namespace TagRules

/-- The truth of a value that stands for a condition. -/
def Value.truth : Value → Bool
  | .bool b => b
  | .number _ => false

/-- A value where a number is needed. -/
def Value.toNumber : Value → Double
  | .number n => n
  | .bool _ => .zero

/-- The value of a call whose arguments need no numbers. -/
def View.plainCall (v : View) (sc : Scene) (f : Builtin) (args : List Operand)
    (p : Option Pattern) : Value :=
  match f, args with
  | .countTag, args => .number (v.count (textAt args 0))
  | .getConfig, args => .number (v.number (textAt args 0))
  | .javascript, args => .bool (sc.answer (textAt args 0))
  | .contains, haystack :: needle :: _ =>
    .bool ((v.texts sc haystack).any fun s => Text.occursIn (sc.text needle).toList s.toList)
  | .matching, a :: _ => .bool ((p.map fun p => v.isMatch sc p a).getD false)
  | f, args => .bool (Eval.fact sc f (textAt args 0))

/-- The value of a call whose arguments stand for some numbers. -/
def View.call (v : View) (sc : Scene) (f : Builtin) (args : List Operand) (numbers : List Double)
    (p : Option Pattern) : Value :=
  match f.signature with
  | .numbers =>
    match numbers with
    | x :: y :: _ => .bool (Eval.compare f x y)
    | _ => .bool false
  | .quantity =>
    .number ((numbers.head?.getD .zero).mul (.ofNat (f.secondsPerUnit?.getD 0))).trunc
  | _ => v.plainCall sc f args p

mutual

/-- The value of an expression for what can be seen of the services. -/
def Expr.reading (sc : Scene) (v : View) : Expr → Value
  | .literal x => x
  | .not e => .bool !(e.reading sc v).truth
  | .or es => .bool ((truths sc v es).any id)
  | .and es => .bool ((truths sc v es).all id)
  | .xor es => .bool (2 ≤ es.length && (truths sc v es).foldr (· != ·) false)
  | .call f _ args p => v.call sc f args (amounts sc v args) p

/-- The truth of each of several conditions. -/
def truths (sc : Scene) (v : View) : List Expr → List Bool
  | [] => []
  | e :: es => (e.reading sc v).truth :: truths sc v es

/-- The number that an argument stands for. -/
def Operand.reading (sc : Scene) (v : View) : Operand → Double
  | .number n => n
  | .expr e => (e.reading sc v).toNumber
  | .keyword k => if k.isTextual then .zero else Eval.keyword sc { rolls := v.rolls } k
  | _ => .zero

/-- The numbers that several arguments stand for. -/
def amounts (sc : Scene) (v : View) : List Operand → List Double
  | [] => []
  | a :: args => a.reading sc v :: amounts sc v args

end

namespace Eval

variable {sc : Scene}

theorem condition_reads (sc : Scene) (e : Expr) (x : Value) :
    Reads sc (condition sc e x) fun _ => x.truth := by
  cases x with
  | bool b => exact .pure b
  | number n => exact report_then sc _ false

theorem plainCall_reads (sc : Scene) (f : Builtin) (args : List Operand) (p : Option Pattern) :
    Reads sc (plainCall sc f args p) fun v => v.plainCall sc f args p := by
  unfold plainCall
  split
  · exact (countTag_reads sc _).bind fun n => .pure (Value.number n)
  · exact (setting_reads sc _).bind fun n => .pure (Value.number n)
  · exact (script_reads sc _).bind fun b => .pure (Value.bool b)
  · exact (strings_reads sc _).bind fun texts => (string_reads sc _).bind fun part => .pure _
  · cases p with
    | none => exact .pure _
    | some p => exact (matching_reads sc p _).bind fun b => .pure (Value.bool b)
  · refine (Reads.pure _).congr fun v => ?_
    unfold View.plainCall
    split <;> simp_all

theorem keyword_reads (sc : Scene) (k : Keyword) :
    Reads sc (do let s ← get; return keyword sc s.services.store k)
      fun v => keyword sc { rolls := v.rolls } k :=
  .of_run fun s => ⟨pure (keyword sc s.services.store k), _, s, rfl, .refl _, .pure _, rfl⟩

end Eval

open Eval

theorem View.call_plain {f : Builtin} (numbers : f.signature ≠ .numbers)
    (quantity : f.signature ≠ .quantity) (v : View) (sc : Scene) (args : List Operand)
    (values : List Double) (p : Option Pattern) :
    v.call sc f args values p = v.plainCall sc f args p := by
  unfold View.call
  split
  · contradiction
  · contradiction
  · rfl

/-- A call computes its reading if its arguments do. -/
theorem call_reads (sc : Scene) (f : Builtin) (name : String) (args : List Operand)
    (p : Option Pattern) (values : ∀ a ∈ args, Reads sc (a.amount sc) fun v => a.reading sc v) :
    Reads sc (Expr.value sc (.call f name args p))
      fun v => Expr.reading sc v (.call f name args p) := by
  unfold Expr.reading
  by_cases numbers : f.signature = .numbers
  · unfold Expr.value View.call
    simp only [numbers]
    cases args with
    | nil => exact .pure _
    | cons a rest =>
      cases rest with
      | nil => exact .pure _
      | cons b rest =>
        exact (values a (by simp)).bind fun x => (values b (by simp)).bind fun y =>
          .pure (Value.bool (compare f x y))
  · by_cases quantity : f.signature = .quantity
    · unfold Expr.value View.call
      simp only [quantity]
      cases args with
      | nil => exact .pure _
      | cons a rest => exact (values a (by simp)).bind fun x => .pure (Value.number _)
    · rw [Expr.value_plainCall numbers quantity]
      exact (plainCall_reads sc f args p).congr fun v =>
        (v.call_plain numbers quantity sc args (amounts sc v args) p).symm

mutual

/-- Evaluation computes the reading. -/
theorem Expr.value_reads (sc : Scene) : ∀ e : Expr,
    Reads sc (e.value sc) fun v => e.reading sc v
  | .literal x => by
    simp only [Expr.value, Expr.reading]
    exact .pure x
  | .not e => by
    simp only [Expr.value, Expr.reading]
    exact (e.value_reads sc).bind fun x => (condition_reads sc e x).bind fun b => .pure (Value.bool !b)
  | .or es => by
    simp only [Expr.value, Expr.reading]
    exact (anyHolds_reads sc es).bind fun b => .pure (Value.bool b)
  | .and es => by
    simp only [Expr.value, Expr.reading]
    exact (allHold_reads sc es).bind fun b => .pure (Value.bool b)
  | .xor es => by
    simp only [Expr.value, Expr.reading]
    split
    · next few =>
      refine (report_then sc _ (Value.bool false)).congr fun v => ?_
      simp [Nat.not_le.2 few]
    · next enough =>
      refine ((oddHold_reads sc es).bind fun b => .pure (Value.bool b)).congr fun v => ?_
      simp [Nat.le_of_not_lt enough]
  | .call f name args p => call_reads sc f name args p (amounts_reads sc args)

/-- A disjunction stops early, with the same outcome. -/
theorem anyHolds_reads (sc : Scene) : ∀ es : List Expr,
    Reads sc (anyHolds sc es) fun v => (truths sc v es).any id
  | [] => by
    simp only [anyHolds, truths]
    exact .pure false
  | e :: es => by
    simp only [anyHolds, truths]
    refine .congr ((e.value_reads sc).bind fun x => (condition_reads sc e x).bind fun b =>
      .ite (.pure true) (anyHolds_reads sc es)) fun v => ?_
    simp

/-- A conjunction stops early, with the same outcome. -/
theorem allHold_reads (sc : Scene) : ∀ es : List Expr,
    Reads sc (allHold sc es) fun v => (truths sc v es).all id
  | [] => by
    simp only [allHold, truths]
    exact .pure true
  | e :: es => by
    simp only [allHold, truths]
    refine .congr ((e.value_reads sc).bind fun x => (condition_reads sc e x).bind fun b =>
      .ite (allHold_reads sc es) (.pure false)) fun v => ?_
    simp

theorem oddHold_reads (sc : Scene) : ∀ es : List Expr,
    Reads sc (oddHold sc es) fun v => (truths sc v es).foldr (· != ·) false
  | [] => by
    simp only [oddHold, truths]
    exact .pure false
  | e :: es => by
    simp only [oddHold, truths]
    exact (e.value_reads sc).bind fun x => (condition_reads sc e x).bind fun b =>
      (oddHold_reads sc es).bind fun rest => .pure (b != rest)

theorem Operand.amount_reads (sc : Scene) : ∀ a : Operand,
    Reads sc (a.amount sc) fun v => a.reading sc v
  | .number n => by
    simp only [Operand.amount, Operand.reading]
    exact .pure n
  | .expr e => by
    simp only [Operand.amount, Operand.reading]
    refine .bind (g := fun x _ => x.toNumber) (e.value_reads sc) fun x => ?_
    cases x with
    | number n => exact .pure n
    | bool b => exact report_then sc _ Double.zero
  | .keyword k => by
    simp only [Operand.amount, Operand.reading]
    exact .ite (report_then sc _ Double.zero) (keyword_reads sc k)
  | .bare word => by
    simp only [Operand.amount, Operand.reading]
    exact report_then sc _ Double.zero
  | .text s => by
    simp only [Operand.amount, Operand.reading]
    exact report_then sc _ Double.zero

theorem amounts_reads (sc : Scene) : ∀ args : List Operand, ∀ a ∈ args,
    Reads sc (a.amount sc) fun v => a.reading sc v
  | [] => fun _ h => nomatch h
  | a :: args => List.forall_mem_cons.2 ⟨a.amount_reads sc, amounts_reads sc args⟩

end

/-- Evaluation computes the truth of the reading. -/
theorem Expr.holds_reads (sc : Scene) (e : Expr) :
    Reads sc (e.holds sc) fun v => (e.reading sc v).truth :=
  (e.value_reads sc).bind fun x => condition_reads sc e x

mutual

/-- The calls in an expression, with their arguments. -/
def Expr.calls : Expr → List (Builtin × List Operand)
  | .literal _ => []
  | .not e => e.calls
  | .or es => exprsCalls es
  | .and es => exprsCalls es
  | .xor es => exprsCalls es
  | .call f _ args _ => (f, args) :: operandsCalls args

/-- The calls in several expressions. -/
def exprsCalls : List Expr → List (Builtin × List Operand)
  | [] => []
  | e :: es => e.calls ++ exprsCalls es

/-- The calls in an argument. -/
def Operand.calls : Operand → List (Builtin × List Operand)
  | .expr e => e.calls
  | _ => []

/-- The calls in several arguments. -/
def operandsCalls : List Operand → List (Builtin × List Operand)
  | [] => []
  | a :: args => a.calls ++ operandsCalls args

end

mutual

/-- The keywords in an expression. -/
def Expr.keywords : Expr → List Keyword
  | .literal _ => []
  | .not e => e.keywords
  | .or es => exprsKeywords es
  | .and es => exprsKeywords es
  | .xor es => exprsKeywords es
  | .call _ _ args _ => operandsKeywords args

/-- The keywords in several expressions. -/
def exprsKeywords : List Expr → List Keyword
  | [] => []
  | e :: es => e.keywords ++ exprsKeywords es

/-- The keywords in an argument. -/
def Operand.keywords : Operand → List Keyword
  | .expr e => e.keywords
  | .keyword k => [k]
  | _ => []

/-- The keywords in several arguments. -/
def operandsKeywords : List Operand → List Keyword
  | [] => []
  | a :: args => a.keywords ++ operandsKeywords args

end

/-- The names of the tags that an expression tests. -/
def Expr.tagNames (e : Expr) : List String :=
  e.calls.filterMap fun (f, args) => if f = .hasTag then some (textAt args 0) else none

/-- The groups of tags that an expression tests. -/
def Expr.groupNames (e : Expr) : List String :=
  e.calls.filterMap fun (f, args) => if f = .hasTagGroup then some (textAt args 0) else none

/-- Of the tags, the value of an expression depends only on those that `hasTag` tests. -/
structure Expr.Plain (e : Expr) : Prop where
  hasTagGroup : ∀ args, (.hasTagGroup, args) ∉ e.calls
  countTag : ∀ args, (.countTag, args) ∉ e.calls
  javascript : ∀ args, (.javascript, args) ∉ e.calls
  tagAge : .tagAge ∉ e.keywords

instance (e : Expr) : Decidable e.Plain :=
  decidable_of_iff ((∀ call ∈ e.calls, call.1 ≠ .hasTagGroup ∧ call.1 ≠ .countTag ∧
      call.1 ≠ .javascript) ∧ .tagAge ∉ e.keywords)
    ⟨fun h => ⟨fun _ mem => (h.1 _ mem).1 rfl, fun _ mem => (h.1 _ mem).2.1 rfl,
      fun _ mem => (h.1 _ mem).2.2 rfl, h.2⟩,
    fun h => ⟨fun (_, args) mem => ⟨fun same => h.hasTagGroup args (same ▸ mem),
      fun same => h.countTag args (same ▸ mem), fun same => h.javascript args (same ▸ mem)⟩,
      h.tagAge⟩⟩

/-- Of the memberships, the value of an expression depends only on those that `hasTag` tests. -/
structure Expr.ByName (e : Expr) : Prop where
  hasTagGroup : ∀ args, (.hasTagGroup, args) ∉ e.calls
  countTag : ∀ args, (.countTag, args) ∉ e.calls
  tagAge : .tagAge ∉ e.keywords

instance (e : Expr) : Decidable e.ByName :=
  decidable_of_iff ((∀ call ∈ e.calls, call.1 ≠ .hasTagGroup ∧ call.1 ≠ .countTag) ∧
      .tagAge ∉ e.keywords)
    ⟨fun h => ⟨fun _ mem => (h.1 _ mem).1 rfl, fun _ mem => (h.1 _ mem).2 rfl, h.2⟩,
    fun h => ⟨fun (_, args) mem => ⟨fun same => h.hasTagGroup args (same ▸ mem),
      fun same => h.countTag args (same ▸ mem)⟩, h.tagAge⟩⟩

theorem Expr.Plain.byName {e : Expr} (plain : e.Plain) : e.ByName :=
  ⟨plain.hasTagGroup, plain.countTag, plain.tagAge⟩

/-- Of the memberships, the value of an expression depends only on those of its own subject that
`hasTag` and `hasTagGroup` test. -/
structure Expr.ByTag (e : Expr) : Prop where
  countTag : ∀ args, (.countTag, args) ∉ e.calls
  tagAge : .tagAge ∉ e.keywords

instance (e : Expr) : Decidable e.ByTag :=
  decidable_of_iff ((∀ call ∈ e.calls, call.1 ≠ .countTag) ∧ .tagAge ∉ e.keywords)
    ⟨fun h => ⟨fun _ mem => h.1 _ mem rfl, h.2⟩,
    fun h => ⟨fun (_, args) mem same => h.countTag args (same ▸ mem), h.tagAge⟩⟩

/-- Two views that differ in tags and members only. -/
structure View.Alike (v u : View) : Prop where
  setting : v.setting = u.setting
  fileNames : v.fileNames = u.fileNames
  matching : v.matching = u.matching

namespace View.Alike

variable {v u t : View}

theorem of_eq (h : v = u) : v.Alike u :=
  h ▸ ⟨rfl, rfl, rfl⟩

theorem symm (h : v.Alike u) : u.Alike v :=
  ⟨h.setting.symm, h.fileNames.symm, h.matching.symm⟩

theorem trans (first : v.Alike u) (second : u.Alike t) : v.Alike t :=
  ⟨first.setting.trans second.setting, first.fileNames.trans second.fileNames,
    first.matching.trans second.matching⟩

end View.Alike

/-- What evaluation can see besides tags and members does not depend on the store. -/
theorem Services.alike_mapStore (s : Services) (w : World) (r : SubjectRecord)
    (f : TagStore → TagStore) : (s.view w r).Alike ((s.mapStore f).view w r) := by
  have names := Services.readFileNames_fst_congr (s := s.mapStore f) (t := s) r rfl rfl
  refine ⟨rfl, ?_, ?_⟩
  · simp only [Services.view, names]
  · simp only [Services.view, names]
    rfl

/-- Two scenes that differ in tags, and otherwise in nothing that an expression sees. -/
structure Scene.Like (sc sc' : Scene) : Prop where
  now : sc'.world.now = sc.world.now
  offsetMinutes : sc'.world.offsetMinutes = sc.world.offsetMinutes
  subject : sc'.subject = sc.subject
  answer : ∀ source, sc'.answer source = sc.answer source

/-- A call that has the same value whether a subject carries these tags or those. -/
structure Eval.Steady (old new : List Tag) (call : Builtin × List Operand) : Prop where
  countTag : call.1 ≠ .countTag
  hasTagGroup : call.1 = .hasTagGroup →
    old.any (·.group == some (textAt call.2 0)) = new.any (·.group == some (textAt call.2 0))
  hasTag : call.1 = .hasTag →
    old.any (·.name == textAt call.2 0) = new.any (·.name == textAt call.2 0)

/-- A keyword that stands for the same number whether it is read here or there. -/
def Eval.SameNumber (sc sc' : Scene) (v u : View) (k : Keyword) : Prop :=
  keyword sc { rolls := v.rolls } k = keyword sc' { rolls := u.rolls } k

namespace Eval

variable {sc sc' : Scene} {v u : View}

theorem text_congr (like : sc.Like sc') (a : Operand) : sc'.text a = sc.text a := by
  simp only [Scene.text, like.subject]

theorem keyword_congr (like : sc.Like sc') {k : Keyword} (tagAge : k ≠ .tagAge)
    (store store' : TagStore) : keyword sc store k = keyword sc' store' k := by
  cases k with
  | tagAge => exact absurd rfl tagAge
  | _ => simp only [keyword, secondsSince, like.now, like.offsetMinutes, like.subject]

/-- Of the tags, a keyword reads only when its own subject joined the owner. -/
theorem sameNumber_of_addedTime (like : sc.Like sc')
    (added : TagStore.addedTime? { rolls := v.rolls } sc.owner sc.subject.id =
      TagStore.addedTime? { rolls := u.rolls } sc'.owner sc'.subject.id) (k : Keyword) :
    SameNumber sc sc' v u k := by
  by_cases tagAge : k = .tagAge
  · subst tagAge
    simp only [SameNumber, keyword, added, like.now]
  · exact keyword_congr like tagAge _ _

theorem fact_congr (like : sc.Like sc') {f : Builtin} {args : List Operand}
    (steady : Steady sc.tags sc'.tags (f, args)) :
    fact sc f (textAt args 0) = fact sc' f (textAt args 0) := by
  cases f with
  | hasTag => exact steady.hasTag rfl
  | hasTagGroup => exact steady.hasTagGroup rfl
  | _ => simp only [fact, like.subject]

theorem plainCall_congr (like : sc.Like sc') (alike : v.Alike u) {f : Builtin}
    {args : List Operand} (steady : Steady sc.tags sc'.tags (f, args)) (p : Option Pattern) :
    v.plainCall sc f args p = u.plainCall sc' f args p := by
  unfold View.plainCall
  split
  · exact absurd rfl steady.countTag
  · simp only [View.number, alike.setting]
  · rw [like.answer]
  · next haystack needle _ =>
    have texts : v.texts sc haystack = u.texts sc' haystack := by
      simp only [View.texts, alike.fileNames, text_congr like]
    rw [texts, text_congr like]
  · next a _ =>
    have same (p : Pattern) : v.isMatch sc p a = u.isMatch sc' p a := by
      simp only [View.isMatch, alike.matching, text_congr like]
    simp only [same]
  · rw [fact_congr like steady]

end Eval

open Eval

mutual

/-- Expressions whose calls and keywords cannot tell the difference have the same value. -/
theorem Expr.reading_congr {sc sc' : Scene} (like : sc.Like sc') {v u : View} (alike : v.Alike u) :
    ∀ e : Expr, (∀ call ∈ e.calls, Steady sc.tags sc'.tags call) →
      (∀ k ∈ e.keywords, SameNumber sc sc' v u k) → e.reading sc v = e.reading sc' u
  | .literal x, _, _ => by simp only [Expr.reading]
  | .not e, steady, number => by
    simp only [Expr.reading, e.reading_congr like alike steady number]
  | .or es, steady, number => by
    simp only [Expr.reading, truths_congr like alike es steady number]
  | .and es, steady, number => by
    simp only [Expr.reading, truths_congr like alike es steady number]
  | .xor es, steady, number => by
    simp only [Expr.reading, truths_congr like alike es steady number]
  | .call f name args p, steady, number => by
    simp only [Expr.calls, List.forall_mem_cons] at steady
    simp only [Expr.reading, View.call, amounts_congr like alike args steady.2 number,
      plainCall_congr like alike steady.1]

theorem truths_congr {sc sc' : Scene} (like : sc.Like sc') {v u : View} (alike : v.Alike u) :
    ∀ es : List Expr, (∀ call ∈ exprsCalls es, Steady sc.tags sc'.tags call) →
      (∀ k ∈ exprsKeywords es, SameNumber sc sc' v u k) → truths sc v es = truths sc' u es
  | [], _, _ => by simp only [truths]
  | e :: es, steady, number => by
    simp only [exprsCalls, exprsKeywords, List.forall_mem_append] at steady number
    simp only [truths, e.reading_congr like alike steady.1 number.1,
      truths_congr like alike es steady.2 number.2]

theorem Operand.reading_congr {sc sc' : Scene} (like : sc.Like sc') {v u : View} (alike : v.Alike u) :
    ∀ a : Operand, (∀ call ∈ a.calls, Steady sc.tags sc'.tags call) →
      (∀ k ∈ a.keywords, SameNumber sc sc' v u k) → a.reading sc v = a.reading sc' u
  | .expr e, steady, number => by
    simp only [Operand.reading, e.reading_congr like alike steady number]
  | .keyword k, _, number => by
    simp only [Operand.keywords, List.forall_mem_singleton, SameNumber] at number
    simp only [Operand.reading, number]
  | .number _, _, _ => by simp only [Operand.reading]
  | .bare _, _, _ => by simp only [Operand.reading]
  | .text _, _, _ => by simp only [Operand.reading]

theorem amounts_congr {sc sc' : Scene} (like : sc.Like sc') {v u : View} (alike : v.Alike u) :
    ∀ args : List Operand, (∀ call ∈ operandsCalls args, Steady sc.tags sc'.tags call) →
      (∀ k ∈ operandsKeywords args, SameNumber sc sc' v u k) → amounts sc v args = amounts sc' u args
  | [], _, _ => by simp only [amounts]
  | a :: args, steady, number => by
    simp only [operandsCalls, operandsKeywords, List.forall_mem_append] at steady number
    simp only [amounts, a.reading_congr like alike steady.1 number.1,
      amounts_congr like alike args steady.2 number.2]

end

/-- An expression that asks about tags by name has the same value if these names are carried or not
in both scenes. -/
theorem Expr.ByName.reading_congr {e : Expr} (byName : e.ByName) {sc sc' : Scene}
    (like : sc.Like sc') {v u : View} (alike : v.Alike u)
    (tags : ∀ name ∈ e.tagNames,
      sc.tags.any (·.name == name) = sc'.tags.any (·.name == name)) :
    e.reading sc v = e.reading sc' u := by
  refine e.reading_congr like alike (fun (f, args) mem => ⟨?_, ?_, ?_⟩) fun k mem =>
    keyword_congr like (fun same => byName.tagAge (same ▸ mem)) _ _
  · rintro rfl
    exact byName.countTag args mem
  · rintro rfl
    exact absurd mem (byName.hasTagGroup args)
  · rintro rfl
    exact tags _ (List.mem_filterMap.2 ⟨(.hasTag, args), mem, rfl⟩)

/-- An expression that asks about tags by name and by group has the same value if these are carried or
not in both scenes. -/
theorem Expr.ByTag.reading_congr {e : Expr} (byTag : e.ByTag) {sc sc' : Scene}
    (like : sc.Like sc') {v u : View} (alike : v.Alike u)
    (tags : ∀ name ∈ e.tagNames,
      sc.tags.any (·.name == name) = sc'.tags.any (·.name == name))
    (groups : ∀ group ∈ e.groupNames,
      sc.tags.any (·.group == some group) = sc'.tags.any (·.group == some group)) :
    e.reading sc v = e.reading sc' u := by
  refine e.reading_congr like alike (fun (f, args) mem => ⟨?_, ?_, ?_⟩) fun k mem =>
    keyword_congr like (fun same => byTag.tagAge (same ▸ mem)) _ _
  · rintro rfl
    exact byTag.countTag args mem
  · rintro rfl
    exact groups _ (List.mem_filterMap.2 ⟨(.hasTagGroup, args), mem, rfl⟩)
  · rintro rfl
    exact tags _ (List.mem_filterMap.2 ⟨(.hasTag, args), mem, rfl⟩)

end TagRules

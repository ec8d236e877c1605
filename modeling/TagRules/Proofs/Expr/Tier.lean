import TagRules.Proofs.Expr.Steps

/-!
# Parts between separators

A text of parts with a separator between any two is flattened to the flat texts of the parts, with
the separator between these. Where the separator and the looser ones are in none of them, the flat
text is cut into the parts again, and the text is read as their combination.
-/

namespace TagRules

/-- A sign with blanks around it. -/
def Spaced (sign text : List Char) : Prop :=
  ∃ before after, Text.blank before = true ∧ Text.blank after = true ∧
    text = before ++ sign ++ after

/-- Blanks are no pieces. -/
theorem piecesFrom_blank {s : List Char} (blank : Text.blank s = true) (afterName : Bool)
    (rest : List Char) : piecesFrom {} afterName (s ++ rest) = piecesFrom {} afterName rest := by
  induction s with
  | nil => rfl
  | cons c s ih =>
    have first := List.all_eq_true.1 blank c List.mem_cons_self
    have next : Quote.next {} c = {} := by
      have plain : c ≠ '\\' := by
        rintro rfl
        exact absurd first (by decide)
      simp [Quote.next, isQuote_of_isBlank first, plain]
    have notOpen : c ≠ '(' := by
      rintro rfl
      exact absurd first (by decide)
    have notClose : c ≠ ')' := by
      rintro rfl
      exact absurd first (by decide)
    rw [List.cons_append, piecesFrom.eq_def]
    simp only [next]
    rw [if_neg Bool.false_ne_true, if_neg notOpen, if_neg notClose, if_pos first]
    exact ih (List.all_eq_true.2 fun d mem => List.all_eq_true.1 blank d (List.mem_cons_of_mem _ mem))

/-- Characters that a name does not end with. -/
def Separates (sign : List Char) : Prop :=
  sign ≠ [] ∧ ∀ c ∈ sign, Ordinary c ∧ Text.isLetterOrDigit c = false

/-- A sign between blanks is cut into its characters, and no name ends with it. -/
theorem piecesFrom_spaced {sign text : List Char} (spaced : Spaced sign text)
    (separates : Separates sign) (afterName : Bool) (rest : List Char) :
    piecesFrom {} afterName (text ++ rest) =
      consPieces (sign.map .plain) (piecesFrom {} false rest) := by
  obtain ⟨before, after, blank, blank', rfl⟩ := spaced
  obtain ⟨some, plain⟩ := separates
  have notName : (sign.getLast?.map Text.isLetterOrDigit).getD afterName = false := by
    rw [List.getLast?_eq_some_getLast some, Option.map_some, Option.getD_some]
    exact (plain _ (List.getLast_mem some)).2
  rw [List.append_assoc, List.append_assoc, piecesFrom_blank blank,
    piecesFrom_ordinary fun c mem => (plain c mem).1, notName, piecesFrom_blank blank']

theorem Spaced.ink_pos {sign text : List Char} (h : Spaced sign text) (separates : Separates sign) :
    0 < Text.ink text := by
  obtain ⟨before, after, -, -, rfl⟩ := h
  obtain ⟨c, mem⟩ := List.exists_mem_of_ne_nil sign separates.1
  exact Text.ink_pos (by simp [mem]) (separates.2 c mem).1.2.2.2.2

/-- Texts between other characters have no blanks at the ends. -/
theorem Tight.append {s t : List Char} (first : Tight s) (some : s ≠ []) (glue : List Char)
    (second : Tight t) (some' : t ≠ []) : Tight (s ++ glue ++ t) := by
  refine ⟨fun c here => first.1 c ?_, fun c here => second.2 c ?_⟩
  · rwa [List.append_assoc, List.head?_append, List.head?_eq_some_head some, Option.some_or,
      ← List.head?_eq_some_head some] at here
  · rwa [List.getLast?_append, List.getLast?_eq_some_getLast some', Option.some_or,
      ← List.getLast?_eq_some_getLast some'] at here

/-- One expression stands for itself, several for their combination. -/
def combined (combine : List Expr → Expr) : List Expr → Expr
  | [e] => e
  | es => combine es

/-- Parts with separators between them, and what each of the parts stands for. -/
inductive Joined (separator : List Char) (part : List Char → Expr → Prop) :
    List Char → List Expr → Prop
  | one {s e} (first : part s e) : Joined separator part s [e]
  | cons {s glue t e es} (first : part s e) (spaced : Spaced separator glue)
    (rest : Joined separator part t es) : Joined separator part (s ++ glue ++ t) (e :: es)

/-- The text of parts between separators, and their combination. -/
def Tier (separator : List Char) (combine : List Expr → Expr) (part : List Char → Expr → Prop)
    (text : List Char) (e : Expr) : Prop :=
  ∃ es, Joined separator part text es ∧ e = combined combine es

namespace Compile

variable {tags : Option TagStore}

/-- A text that is cut into pieces, whatever stands after it, and flattened to a text with some
property. Fuel for four steps for each character that is not blank is enough. -/
def Flattened (tags : Option TagStore) (text : List Char) (P : List Char → List Slot → Prop) : Prop :=
  ∃ pieces afterName,
    (∀ rest, piecesFrom {} false (text ++ rest) =
      consPieces pieces (piecesFrom {} afterName rest)) ∧
    ∀ fuel d, 4 * Text.ink text ≤ fuel + 1 →
      ∃ flat d', Flattens tags fuel pieces flat d d' ∧ P flat d'.slots

namespace Flattened

variable {s t sign glue : List Char} {P P' Q : List Char → List Slot → Prop}

theorem imp (h : Flattened tags s P) (le : ∀ flat slots, P flat slots → P' flat slots) :
    Flattened tags s P' := by
  obtain ⟨pieces, afterName, cut, flattens⟩ := h
  refine ⟨pieces, afterName, cut, fun fuel d enough => ?_⟩
  obtain ⟨flat, d', flattens, holds⟩ := flattens fuel d enough
  exact ⟨flat, d', flattens, le _ _ holds⟩

/-- Texts on both sides of a sign are flattened one after the other. -/
theorem append (first : Flattened tags s P) (spaced : Spaced sign glue) (separates : Separates sign)
    (second : Flattened tags t Q)
    (mono : ∀ flat slots slots', slots <+: slots' → P flat slots → P flat slots') :
    Flattened tags (s ++ glue ++ t) fun flat slots =>
      ∃ left right, flat = left ++ (sign ++ right) ∧ P left slots ∧ Q right slots := by
  obtain ⟨pieces, afterName, cut, flattens⟩ := first
  obtain ⟨pieces', afterName', cut', flattens'⟩ := second
  refine ⟨pieces ++ (sign.map .plain ++ pieces'), afterName', fun rest => ?_, fun fuel d enough => ?_⟩
  · rw [List.append_assoc, List.append_assoc, cut, piecesFrom_spaced spaced separates, cut']
    simp only [consPieces, List.append_assoc]
  · simp only [Text.ink_append] at enough
    obtain ⟨left, d₁, flattens, holds⟩ := flattens fuel d (by omega)
    obtain ⟨right, d', flattens', holds'⟩ := flattens' fuel d₁ (by omega)
    exact ⟨_, d', flattens.append ((Flattens.plain sign d₁).append flattens'), left, right, rfl,
      mono _ _ _ flattens'.slots holds, holds'⟩

/-- A text is compiled if what it is flattened to is read. -/
theorem start (h : Flattened tags s P) (tight : Tight s) (composite : Composite s) {e : Expr}
    (read : ∀ fuel d flat, 4 * Text.ink s ≤ fuel → P flat d.slots →
      ∃ d', Gives (basic tags fuel flat) e d d')
    {fuel : Nat} (enough : 4 * Text.ink s + 2 ≤ fuel) (d : Draft) :
    ∃ d', Gives (Compile.start tags fuel s) e d d' := by
  obtain ⟨fuel, rfl⟩ : ∃ k, fuel = k + 2 := ⟨fuel - 2, by omega⟩
  obtain ⟨pieces, afterName, cut, flattens⟩ := h
  obtain ⟨flat, d₁, flattens, holds⟩ := flattens fuel d (by omega)
  obtain ⟨d', read⟩ := read (fuel + 1) d₁ flat (by omega) holds
  have whole : piecesOf s = (pieces, .complete) := by
    have here := cut []
    rw [List.append_nil] at here
    refine here.trans ?_
    change (pieces ++ [], Ending.complete) = _
    rw [List.append_nil]
  exact ⟨d', start_gives tight.trim_eq_self composite whole flattens read⟩

end Flattened

theorem Composite.append_left {s : List Char} (h : Composite s) (t : List Char) :
    Composite (s ++ t) := by
  obtain ⟨c, mem, sign⟩ := h
  exact ⟨c, List.mem_append_left _ mem, sign⟩

/-- A flat text without some signs that is read as an expression wherever the slots are kept. -/
structure Holds (tags : Option TagStore) (banned : List Char) (length : Nat) (e : Expr)
    (flat : List Char) (slots : List Slot) : Prop where
  some : flat ≠ []
  plain : ∀ c ∈ flat, isQuote c = false ∧ Text.isBlank c = false ∧ c ∉ banned
  reads : ∀ fuel d, 4 * length ≤ fuel → slots <+: d.slots →
    ∃ d', Gives (basic tags fuel flat) e d d'

theorem Holds.imp {banned banned' : List Char} {length length' : Nat} {e : Expr} {flat : List Char}
    {slots : List Slot} (h : Holds tags banned length e flat slots)
    (fewer : ∀ c ∈ banned', c ∈ banned) (longer : length ≤ length') :
    Holds tags banned' length' e flat slots where
  some := h.some
  plain c mem := ⟨(h.plain c mem).1, (h.plain c mem).2.1, fun sign =>
    (h.plain c mem).2.2 (fewer c sign)⟩
  reads fuel d enough kept := h.reads fuel d (by omega) kept

theorem Holds.mono {banned : List Char} {length : Nat} {e : Expr} {flat : List Char}
    {slots slots' : List Slot} (h : Holds tags banned length e flat slots) (front : slots <+: slots') :
    Holds tags banned length e flat slots' where
  some := h.some
  plain := h.plain
  reads fuel d enough kept := h.reads fuel d enough (front.trans kept)

/-- A text that is read as a condition, and whose flat text has none of some signs. -/
structure Reads (tags : Option TagStore) (banned text : List Char) (e : Expr) : Prop where
  kind : e.kind = .bool
  composite : Composite text
  tight : Tight text
  flattened : Flattened tags text (Holds tags banned (Text.ink text) e)

theorem Reads.ne_nil {banned text : List Char} {e : Expr} (h : Reads tags banned text e) : text ≠ [] :=
  h.composite.not_literal.1

theorem Reads.start {banned text : List Char} {e : Expr} (h : Reads tags banned text e)
    {fuel : Nat} (enough : 4 * Text.ink text + 2 ≤ fuel) (d : Draft) :
    ∃ d', Gives (Compile.start tags fuel text) e d d' :=
  h.flattened.start h.tight h.composite
    (fun fuel d _ enough holds => holds.reads fuel d enough (List.prefix_refl _)) enough d

end Compile

namespace Joined

variable {tags : Option TagStore} {separator text : List Char} {part : List Char → Expr → Prop}
  {es : List Expr}

/-- What stands between separators are conditions if the parts are. -/
theorem kinds {banned : List Char}
    (each : ∀ text e, part text e → Compile.Reads tags banned text e)
    (h : Joined separator part text es) : ∀ e ∈ es, e.kind = .bool := by
  induction h with
  | one first => exact List.forall_mem_singleton.2 (each _ _ first).kind
  | cons first _ _ ih => exact List.forall_mem_cons.2 ⟨(each _ _ first).kind, ih⟩

/-- The text begins and ends with a part. -/
theorem outline {banned : List Char}
    (each : ∀ text e, part text e → Compile.Reads tags banned text e)
    (h : Joined separator part text es) : Compile.Composite text ∧ Tight text := by
  induction h with
  | one first => exact ⟨(each _ _ first).composite, (each _ _ first).tight⟩
  | cons first _ _ ih =>
    obtain ⟨composite, tight⟩ := ih
    have read := each _ _ first
    rw [List.append_assoc]
    refine ⟨read.composite.append_left _, ?_⟩
    rw [← List.append_assoc]
    exact read.tight.append read.ne_nil _ tight composite.not_literal.1

/-- The text is flattened to the flat texts of the parts, with the separator between them. Where
there are several, each is shorter than the whole. -/
theorem flattened {banned : List Char} (separates : Separates separator)
    (each : ∀ text e, part text e → Compile.Reads tags banned text e)
    (h : Joined separator part text es) :
    Compile.Flattened tags text fun flat slots => ∃ parts : List (List Char × Expr),
      parts.map (·.2) = es ∧ flat = joinWith separator (parts.map (·.1)) ∧
        ∀ p ∈ parts, ∃ n ≤ Text.ink text, (2 ≤ es.length → n < Text.ink text) ∧
          Compile.Holds tags banned n p.2 p.1 slots := by
  induction h with
  | @one s e first =>
    refine (each _ _ first).flattened.imp fun flat slots holds => ⟨[(flat, e)], rfl, rfl, ?_⟩
    exact List.forall_mem_singleton.2 ⟨Text.ink s, Nat.le_refl _, fun several => by simp at several, holds⟩
  | @cons s glue t e es first spaced rest ih =>
    have glue' := spaced.ink_pos separates
    refine ((each _ _ first).flattened.append spaced separates ih fun _ _ _ front holds =>
      holds.mono front).imp ?_
    rintro flat slots ⟨left, right, rfl, holds, parts, rfl, rfl, holds'⟩
    simp only [Text.ink_append]
    refine ⟨(left, e) :: parts, rfl, ?_, List.forall_mem_cons.2 ⟨?_, fun p mem => ?_⟩⟩
    · cases parts with
      | nil => cases rest
      | cons p parts => simp [joinWith]
    · exact ⟨Text.ink s, by omega, fun _ => by omega, holds⟩
    · obtain ⟨n, short, -, holds⟩ := holds' p mem
      exact ⟨n, by omega, fun _ => by omega, holds⟩

end Joined

/-- Parts at one tier are read as their combination. Of the signs that the parts do not have, the
text has those of the separator alone. -/
theorem Tier.reads {tags : Option TagStore} {separator text banned : List Char} {combine : List Expr → Expr}
    {part : List Char → Expr → Prop} {e : Expr}
    (mem : (separator, combine) ∈ Compile.combinations)
    (looser : ∀ c ∈ banned, c ∈ Compile.signs separator ∧ c ∉ separator)
    (each : ∀ text e, part text e → Compile.Reads tags (Compile.signs separator) text e)
    (h : Tier separator combine part text e) : Compile.Reads tags banned text e := by
  obtain ⟨es, joined, rfl⟩ := h
  obtain ⟨c, back, form, ordinary⟩ := Compile.separator_eq mem
  have separates : Separates separator := form ▸ ⟨List.cons_ne_nil _ _, ordinary⟩
  have kinds := joined.kinds each
  obtain ⟨composite, tight⟩ := joined.outline each
  refine ⟨?_, composite, tight, (joined.flattened separates each).imp ?_⟩
  · rcases es with _ | ⟨e, _ | ⟨e', es⟩⟩
    · cases joined
    · exact kinds e List.mem_cons_self
    · exact Expr.kind_combine mem _
  rintro flat slots ⟨parts, rfl, rfl, holds⟩
  have plain : ∀ p ∈ parts, ∀ c ∈ p.1,
      isQuote c = false ∧ Text.isBlank c = false ∧ c ∉ Compile.signs separator := by
    intro p inside
    obtain ⟨n, -, -, holds⟩ := holds p inside
    exact holds.plain
  have some : ∀ p ∈ parts, p.1 ≠ [] := by
    intro p inside
    obtain ⟨n, -, -, holds⟩ := holds p inside
    exact holds.some
  rcases parts with _ | ⟨p, _ | ⟨q, rest⟩⟩
  · cases joined
  · obtain ⟨n, short, -, holds⟩ := holds p List.mem_cons_self
    exact holds.imp (fun c sign => (looser c sign).1) short
  · refine ⟨?_, fun c inside => ?_, fun fuel d enough kept => ?_⟩
    · exact Compile.joinWith_ne_nil separator List.mem_cons_self (some p List.mem_cons_self)
    · rcases Compile.mem_joinWith inside with sign | ⟨part, here, inside⟩
      · have ordinary := (form ▸ ordinary) c sign
        exact ⟨ordinary.1.1, ordinary.1.2.2.2.2, fun sign' => (looser c sign').2 sign⟩
      · obtain ⟨r, among, rfl⟩ := List.mem_map.1 here
        obtain ⟨quote, solid, sign⟩ := plain r among c inside
        exact ⟨quote, solid, fun sign' => sign (looser c sign').1⟩
    · obtain ⟨c', mem', solid⟩ := composite.exists_solid
      have first := Text.ink_pos mem' solid
      obtain ⟨fuel, rfl⟩ : ∃ k, fuel = k + 1 := ⟨fuel - 1, by omega⟩
      refine Compile.basic_joinWith fuel mem _ (by simp) some plain
        (fun p here => kinds p.2 (List.mem_map_of_mem here)) fun p here d' front => ?_
      obtain ⟨n, -, shorter, holds⟩ := holds p here
      have shorter := shorter (by simp)
      exact holds.reads fuel d' (by omega) (kept.trans front)

/-- A composite text that the first step reads as a condition is compiled to it. -/
theorem Compile.compile_of_start {tags : Option TagStore} {text : List Char} {e : Expr} (composite : Composite text)
    (kind : e.kind = .bool) (started : ∀ fuel, 4 * Text.ink text + 2 ≤ fuel →
      ∃ d, Gives (start tags fuel text) e {} d) :
    ∃ c, compile tags (String.ofList text) = .ok c ∧ c.expr = e := by
  have enough : 4 * Text.ink text + 2 ≤ fuelFor text := by
    unfold fuelFor
    calc 4 * Text.ink text + 2 ≤ 8 * (Text.ink text + 2) * 1 := by omega
      _ ≤ 8 * (Text.ink text + 2) * (text.count '(' + 2) := Nat.mul_le_mul_left _ (by omega)
  obtain ⟨d, started⟩ := started _ enough
  have notBlank : Text.blank text = false := by
    obtain ⟨c, mem, solid⟩ := composite.exists_solid
    cases blank : Text.blank text with
    | false => rfl
    | true => exact absurd (List.all_eq_true.1 blank c mem) (by simp [solid])
  refine ⟨compiledOf e d, compile_eq_ok.2 ?_, rfl⟩
  rw [String.toList_ofList]
  exact run_eq_ok.2 ⟨notBlank, _, d, started.1, kind, rfl⟩

/-- A text that is read as a condition is compiled to it. -/
theorem Compile.Reads.compiles {tags : Option TagStore} {banned text : List Char} {e : Expr}
    (h : Reads tags banned text e) :
    ∃ c, compile tags (String.ofList text) = .ok c ∧ c.expr = e :=
  compile_of_start h.composite h.kind fun _ enough => h.start enough {}

end TagRules

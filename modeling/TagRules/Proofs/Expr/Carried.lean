import Mathlib.Data.List.Induction
import Mathlib.Data.List.Nodup
import TagRules.Proofs.Expr.Leftmost
import TagRules.Proofs.Expr.Placeholder

/-!
# What becomes of the keywords in a slot

A keyword in parentheses is noted when the slot for them is filled. The flat text goes on with the
placeholder of the slot, and a text carries the keywords behind its placeholders (`Carries`). What is
compiled from the text has these keywords, unless it has a placeholder itself: one that was left in a
bare word or in a text literal (`SpilledIn`). So no keyword that is noted gets lost otherwise
(`Compile.mem_or_spilled`), and the level that is noted is the highest one of the keywords.
-/

namespace TagRules

/-- The text of an argument that is a text literal or a bare word. -/
def Operand.writing? : Operand → Option String
  | .text s => some s
  | .bare w => some w
  | _ => none

/-- The text literals and the bare words among the arguments of all calls in an expression. -/
def Expr.writings (e : Expr) : List String :=
  e.calls.flatMap fun (_, args) => args.filterMap (·.writing?)

/-- A placeholder was left in an argument. -/
def Operand.Spilled (a : Operand) : Prop :=
  ∃ s ∈ a.writing?, ∃ n, Compile.placeholder n <:+: s.toList

/-- A placeholder was left in an argument of one of several calls. -/
def SpilledIn (calls : List (Builtin × List Operand)) : Prop :=
  ∃ f args, (f, args) ∈ calls ∧ ∃ a ∈ args, a.Spilled

/-- An expression has a keyword, unless a placeholder was left in it. -/
def Expr.Keeps (e : Expr) (k : Keyword) : Prop :=
  k ∈ e.keywords ∨ SpilledIn e.calls

/-- An argument has a keyword, unless a placeholder was left in it. -/
def Operand.Keeps (a : Operand) (k : Keyword) : Prop :=
  k ∈ a.keywords ∨ a.Spilled ∨ SpilledIn a.calls

/-- The highest level of several keywords. -/
def Level.highest (ks : List Keyword) : Level :=
  ks.foldl (fun level k => max level k.level) .static

namespace Level

theorem highest_concat (ks : List Keyword) (k : Keyword) :
    highest (ks ++ [k]) = max (highest ks) k.level :=
  List.foldl_append

theorem le_highest {ks : List Keyword} {k : Keyword} (mem : k ∈ ks) : k.level ≤ highest ks := by
  induction ks using List.reverseRecOn with
  | nil => cases mem
  | append_singleton ks k' ih =>
    rw [highest_concat]
    rcases List.mem_append.1 mem with mem | mem
    · exact le_trans (ih mem) (le_max_left _ _)
    · rw [List.mem_singleton.1 mem]
      exact le_max_right _ _

theorem max_eq_left {a b : Level} (le : b ≤ a) : max a b = a := by
  revert le
  cases a <;> cases b <;> decide

end Level

/-- The keywords of a draft are noted once each, with their highest level. -/
structure Draft.Orderly (d : Draft) : Prop where
  nodup : d.keywords.Nodup
  level : d.level = Level.highest d.keywords

/-- Nothing is noted of keywords, and no slot is filled. -/
structure Draft.Quiet (d d' : Draft) : Prop where
  slots : d'.slots = d.slots
  level : d'.level = d.level
  keywords : d'.keywords = d.keywords

theorem Draft.Quiet.refl (d : Draft) : d.Quiet d :=
  ⟨rfl, rfl, rfl⟩

theorem Draft.Quiet.trans {d d' d'' : Draft} (first : d.Quiet d') (second : d'.Quiet d'') :
    d.Quiet d'' :=
  ⟨second.slots.trans first.slots, second.level.trans first.level,
    second.keywords.trans first.keywords⟩

theorem Draft.Quiet.orderly {d d' : Draft} (quiet : d.Quiet d') (orderly : d.Orderly) :
    d'.Orderly := by
  constructor
  · rw [quiet.keywords]
    exact orderly.nodup
  · rw [quiet.keywords, quiet.level]
    exact orderly.level

namespace Compile

variable {α β : Type} {tags : Option TagStore} {d d' : Draft}

theorem Settled.quiet {f : Builtin} {args args' : List Operand} {p : Option Pattern}
    (h : Settled tags d f args args' p d') : d.Quiet d' := by
  cases h with
  | hasTag tested =>
    rw [testTag_eq_ok] at tested
    cases tags with
    | none => exact tested ▸ .refl d
    | some store => exact tested.2 ▸ ⟨rfl, rfl, rfl⟩
  | unmatched => exact ⟨rfl, rfl, rfl⟩
  | _ => exact .refl d

theorem noteFunction_quiet (d : Draft) (f : Builtin) : d.Quiet (noteFunction d f) := by
  unfold noteFunction
  split <;> exact ⟨rfl, rfl, rfl⟩

theorem mem_noteKeyword {k k' : Keyword} :
    k ∈ (noteKeyword d k').keywords ↔ k ∈ d.keywords ∨ k = k' := by
  unfold noteKeyword
  simp only []
  split
  · next old =>
    have old : k' ∈ d.keywords := List.contains_iff_mem.1 old
    exact ⟨.inl, fun h => h.elim id (· ▸ old)⟩
  · rw [List.mem_append, List.mem_singleton]

/-- A keyword that is noted already is not noted again. -/
theorem orderly_noteKeyword (orderly : d.Orderly) (k : Keyword) : (noteKeyword d k).Orderly := by
  unfold noteKeyword
  by_cases old : k ∈ d.keywords
  · have known : d.keywords.contains k = true := List.contains_iff_mem.2 old
    constructor
    · simpa only [known, if_true] using orderly.nodup
    · simp only [known, if_true]
      rw [orderly.level]
      exact Level.max_eq_left (Level.le_highest old)
  · have fresh : d.keywords.contains k = false := by simpa using old
    constructor
    · simp only [fresh, Bool.false_eq_true, if_false]
      rw [← List.concat_eq_append]
      exact orderly.nodup.concat old
    · simp only [fresh, Bool.false_eq_true, if_false]
      rw [Level.highest_concat, orderly.level]

/-! ### Keywords behind placeholders -/

/-- A keyword is behind a placeholder: the expression in its slot has it, or it is behind a
placeholder in the list of arguments there. -/
inductive Behind (slots : List Slot) (k : Keyword) : Nat → Prop
  | expr {n e} (at' : slots[n]? = some (.expr e)) (keeps : e.Keeps k) : Behind slots k n
  | arguments {n m raw} (at' : slots[n]? = some (.arguments raw)) (inside : placeholder m <:+: raw)
    (behind : Behind slots k m) : Behind slots k n

/-- A keyword is behind a placeholder in a text. -/
def Carries (slots : List Slot) (k : Keyword) (s : List Char) : Prop :=
  ∃ n, placeholder n <:+: s ∧ Behind slots k n

variable {slots slots' : List Slot} {k : Keyword} {s t : List Char}

theorem Behind.mono {n : Nat} (h : Behind slots k n) (front : slots <+: slots') :
    Behind slots' k n := by
  induction h with
  | expr at' keeps => exact .expr (getElem?_mono front at') keeps
  | arguments at' inside _ ih => exact .arguments (getElem?_mono front at') inside ih

namespace Carries

theorem mono (h : Carries slots k s) (front : slots <+: slots') : Carries slots' k s := by
  obtain ⟨n, inside, behind⟩ := h
  exact ⟨n, inside, behind.mono front⟩

/-- What a text carries is carried by a text that has the same placeholders. -/
theorem imp (h : Carries slots k s)
    (same : ∀ n, placeholder n <:+: s → placeholder n <:+: t) : Carries slots k t := by
  obtain ⟨n, inside, behind⟩ := h
  exact ⟨n, same n inside, behind⟩

theorem of_infix (h : Carries slots k s) (part : s <:+: t) : Carries slots k t :=
  h.imp fun _ inside => inside.trans part

theorem trim (h : Carries slots k s) : Carries slots k (Text.trim s) :=
  h.imp fun _ => placeholder_trim

/-- A text carries what one of its parts does. -/
theorem some_part {parts : List (List Char)} (h : Carries slots k s)
    (cut : ∀ n, placeholder n <:+: s → ∃ part ∈ parts, placeholder n <:+: part) :
    ∃ part ∈ parts, Carries slots k part := by
  obtain ⟨n, inside, behind⟩ := h
  obtain ⟨part, mem, here⟩ := cut n inside
  exact ⟨part, mem, n, here, behind⟩

theorem items (h : Carries slots k s) : ∃ item ∈ argumentsOf s, Carries slots k item :=
  h.some_part fun _ => placeholder_items

theorem operands {separator : List Char} {combine : List Expr → Expr}
    (mem : (separator, combine) ∈ combinations) (h : Carries slots k s) :
    ∃ part ∈ splitAt separator s, Carries slots k part := by
  obtain ⟨sign, cutting⟩ := cutting_separator mem
  refine h.some_part fun n inside => ?_
  refine placeholder_joinWith sign.some (fun c mem => (cutting c mem).2.1) ?_
  rwa [joinWith_splitAt sign]

/-- The arguments of a comparison carry what the comparison does. -/
theorem comparison {operator : List Char} {f : Builtin} (mem : (operator, f) ∈ Builtin.comparisons)
    (h : Carries slots k (s ++ (operator ++ t))) : Carries slots k (s ++ ',' :: t) := by
  obtain ⟨some, cutting⟩ := cutting_operator mem
  refine h.imp fun n inside => ?_
  rcases placeholder_around some (fun c mem => (cutting c mem).2.1) inside with first | second
  · exact first.trans (List.prefix_append _ _).isInfix
  · exact second.trans ((List.suffix_cons ',' t).trans (List.suffix_append s _)).isInfix

/-- Without a sign at its beginning, a text carries the same. -/
theorem tail {c : Char} (other : ¬InPlaceholder c) (h : Carries slots k (c :: s)) :
    Carries slots k s :=
  h.imp fun _ inside => (placeholder_beside (s := []) other inside).resolve_left not_placeholder_nil

/-- The key of a call carries what the call does, unless the name has a placeholder in it. -/
theorem key {name inner : List Char} (h : Carries slots k (name ++ ('(' :: inner ++ [')']))) :
    (∃ n, placeholder n <:+: name) ∨ Carries slots k (Text.trim inner) := by
  obtain ⟨n, inside, behind⟩ := h
  rcases placeholder_beside (by decide) inside with first | rest
  · exact .inl ⟨n, first⟩
  · have inner := (placeholder_beside (by decide) rest).resolve_right not_placeholder_nil
    exact .inr (trim ⟨n, inner, behind⟩)

/-- Nothing is behind a word that is read as something else. -/
theorem not_inWord (h : Carries slots k s) (plain : ∀ c ∈ s, InWord c) : False := by
  obtain ⟨n, inside, -⟩ := h
  exact not_placeholder_of_inWord plain inside

/-- What is carried by the key of a slot is in the slot. -/
theorem slot (h : Carries slots k s) :
    (∀ e, (placeholder? s).bind (slots[·]?) = some (.expr e) → e.Keeps k) ∧
      ∀ raw, (placeholder? s).bind (slots[·]?) = some (.arguments raw) → Carries slots k raw := by
  obtain ⟨n, inside, behind⟩ := h
  refine ⟨fun e found => ?_, fun raw found => ?_⟩ <;>
    obtain ⟨m, number, here⟩ := Option.bind_eq_some_iff.1 found <;>
    obtain rfl := eq_of_placeholder? number inside
  · cases behind with
    | expr at' keeps =>
      rw [at'] at here
      cases here
      exact keeps
    | arguments at' =>
      rw [at'] at here
      cases here
  · cases behind with
    | expr at' =>
      rw [at'] at here
      cases here
    | arguments at' inside behind =>
      rw [at'] at here
      cases here
      exact ⟨_, inside, behind⟩

end Carries

/-! ### Expressions -/

/-- A combination has what one of its operands has. -/
theorem keeps_combination {separator : List Char} {combine : List Expr → Expr}
    (mem : (separator, combine) ∈ combinations) {es : List Expr}
    (h : ∃ e ∈ es, e.Keeps k) : (combine es).Keeps k := by
  obtain ⟨e, inside, keeps⟩ := h
  rw [Expr.Keeps, (parts_of_combination mem es).1, (parts_of_combination mem es).2]
  refine keeps.imp (fun named => mem_exprsKeywords.2 ⟨e, inside, named⟩) ?_
  rintro ⟨f, args, called, left⟩
  exact ⟨f, args, mem_exprsCalls.2 ⟨e, inside, called⟩, left⟩

/-- What is found in a table in any case is a word if all that the table has are words. -/
theorem inWord_of_find? {γ : Type} {table : List γ} {key : γ → List Char} {name : List Char} {x : γ}
    (plain : ∀ x ∈ table, ∀ c ∈ Text.lowerAscii (key x), InWord c)
    (found : table.find? (fun x => Text.eqIgnoringCase (key x) name) = some x) :
    ∀ c ∈ name, InWord c := by
  have same : Text.eqIgnoringCase name (key x) = true := by
    have here := List.find?_some found
    simp only [Text.eqIgnoringCase, beq_iff_eq] at here ⊢
    exact here.symm
  exact inWord_of_eqIgnoringCase same (plain x (List.mem_of_find?_eq_some found))

/-- The names that are replaced when arguments are settled hold no placeholders. -/
theorem Settled.mem_of_spilled {f : Builtin} {args args' : List Operand} {p : Option Pattern}
    (settled : Settled tags d f args args' p d') {a : Operand} (mem : a ∈ args) (left : a.Spilled) :
    a ∈ args' := by
  cases settled with
  | hasNet known =>
    rw [List.mem_singleton.1 mem] at left
    obtain ⟨_, ⟨⟩, n, inside⟩ := left
    exact absurd inside (not_placeholder_of_inWord (inWord_of_find? (by decide) known))
  | getConfig known =>
    rw [List.mem_singleton.1 mem] at left
    obtain ⟨_, ⟨⟩, n, inside⟩ := left
    exact absurd inside (not_placeholder_of_inWord (inWord_of_find? (by decide) known))
  | _ => exact mem

/-- A call has what one of its arguments has. -/
theorem keeps_call {f : Builtin} {name : String} {args args' : List Operand} {p : Option Pattern}
    (settled : Settled tags d f args args' p d') (h : ∃ a ∈ args, a.Keeps k) :
    (Expr.call f name args' p).Keeps k := by
  obtain ⟨a, mem, keeps⟩ := h
  rw [Expr.Keeps, Expr.keywords, Expr.calls, settled.parts.1, settled.parts.2]
  rcases keeps with named | left | ⟨g, others, called, left⟩
  · exact .inl (mem_operandsKeywords.2 ⟨a, mem, named⟩)
  · exact .inr ⟨f, args', List.mem_cons_self, a, settled.mem_of_spilled mem left, left⟩
  · have called := mem_operandsCalls.2 ⟨a, mem, called⟩
    exact .inr ⟨g, others, List.mem_cons_of_mem _ called, left⟩

/-! ### Steps -/

/-- A step that, where it succeeds, leads from an orderly draft to an orderly one. Its result has the
keywords of which something is known before, and those that are noted meanwhile. -/
def Conveys (P : Draft → Keyword → Prop) (m : Compile α) (Q : Draft → α → Keyword → Prop) : Prop :=
  ∀ d a d', d.Orderly → StateT.run m d = .ok (a, d') →
    d'.Orderly ∧ d.slots <+: d'.slots ∧ (∀ k, P d k → Q d' a k) ∧
      ∀ k ∈ d'.keywords, k ∈ d.keywords ∨ Q d' a k

namespace Conveys

variable {P P' : Draft → Keyword → Prop} {Q : Draft → α → Keyword → Prop} {m : Compile α}

theorem of_quiet (quiet : ∀ d a d', StateT.run m d = .ok (a, d') → d.Quiet d')
    (result : ∀ d a d' k, StateT.run m d = .ok (a, d') → P d k → Q d' a k) : Conveys P m Q := by
  intro d a d' orderly run
  have quiet := quiet d a d' run
  refine ⟨quiet.orderly orderly, quiet.slots ▸ List.prefix_rfl,
    fun k => result d a d' k run, fun k mem => .inl ?_⟩
  rwa [quiet.keywords] at mem

theorem pure {a : α} (h : ∀ d k, P d k → Q d a k) : Conveys P (pure a) Q := by
  refine .of_quiet (fun d a' d' run => ?_) fun d a' d' k run here => ?_
  · cases run
    exact .refl d
  · cases run
    exact h d k here

theorem reject (e : CompileError) : Conveys P (reject e) Q :=
  fun _ _ _ _ run => nomatch run

theorem exhausted : Conveys P (throw .exhausted) Q :=
  fun _ _ _ _ run => nomatch run

theorem bind {k : α → Compile β} {R : Draft → β → Keyword → Prop} (first : Conveys P m Q)
    (second : ∀ a, Conveys (fun d => Q d a) (k a) R) : Conveys P (m >>= k) R := by
  intro d b d' orderly run
  obtain ⟨a, d₁, run₁, run₂⟩ := bind_eq_ok.1 run
  obtain ⟨orderly₁, front₁, conveys₁, fresh₁⟩ := first d a d₁ orderly run₁
  obtain ⟨orderly₂, front₂, conveys₂, fresh₂⟩ := second a d₁ b d' orderly₁ run₂
  refine ⟨orderly₂, front₁.trans front₂, fun k here => conveys₂ k (conveys₁ k here), ?_⟩
  intro k mem
  rcases fresh₂ k mem with mem | done
  · exact (fresh₁ k mem).imp_right (conveys₂ k)
  · exact .inr done

/-- More may be known before. -/
theorem pre (h : Conveys P m Q) (known : ∀ d k, P' d k → P d k) : Conveys P' m Q := by
  intro d a d' orderly run
  obtain ⟨orderly', front, conveys, fresh⟩ := h d a d' orderly run
  exact ⟨orderly', front, fun k here => conveys k (known d k here), fresh⟩

/-- Nothing needs to be known before of what does not matter afterwards. -/
theorem any (h : Conveys P m Q) : Conveys P' m fun _ _ _ => True := by
  intro d a d' orderly run
  obtain ⟨orderly', front, -, -⟩ := h d a d' orderly run
  exact ⟨orderly', front, fun _ _ => trivial, fun _ _ => .inr trivial⟩

/-- What is known besides, of no draft, stays known. -/
theorem or (h : Conveys P m Q) (known : Prop) :
    Conveys (fun d k => known ∨ P d k) m fun d a k => known ∨ Q d a k := by
  intro d a d' orderly run
  obtain ⟨orderly', front, conveys, fresh⟩ := h d a d' orderly run
  exact ⟨orderly', front, fun k => Or.imp_right (conveys k),
    fun k mem => (fresh k mem).imp_right .inr⟩

/-- A step for each element of a list. What an element or a result has, it has in later drafts. -/
theorem mapM {f : β → Compile α} {l : List β} {P : β → Draft → Keyword → Prop}
    (grow : ∀ b d d' k, d.slots <+: d'.slots → P b d k → P b d' k)
    (grow' : ∀ d d' a k, d.slots <+: d'.slots → Q d a k → Q d' a k)
    (each : ∀ b ∈ l, Conveys (P b) (f b) Q) :
    Conveys (fun d k => ∃ b ∈ l, P b d k) (l.mapM f) fun d as k => ∃ a ∈ as, Q d a k := by
  induction l with
  | nil => exact .pure fun _ _ ⟨_, mem, _⟩ => absurd mem List.not_mem_nil
  | cons b l ih =>
    rw [List.mapM_cons]
    intro d as d' orderly run
    obtain ⟨a, d₁, run₁, run'⟩ := bind_eq_ok.1 run
    obtain ⟨rest, d₂, run₂, done⟩ := bind_eq_ok.1 run'
    cases done
    obtain ⟨orderly₁, front₁, conveys₁, fresh₁⟩ :=
      each b List.mem_cons_self d a d₁ orderly run₁
    obtain ⟨orderly₂, front₂, conveys₂, fresh₂⟩ :=
      ih (fun b mem => each b (List.mem_cons_of_mem _ mem)) d₁ rest d' orderly₁ run₂
    have first (k : Keyword) (here : Q d₁ a k) : ∃ a' ∈ a :: rest, Q d' a' k :=
      ⟨a, List.mem_cons_self, grow' _ _ a k front₂ here⟩
    have others (k : Keyword) (here : ∃ a' ∈ rest, Q d' a' k) : ∃ a' ∈ a :: rest, Q d' a' k := by
      obtain ⟨a', mem, here⟩ := here
      exact ⟨a', List.mem_cons_of_mem _ mem, here⟩
    refine ⟨orderly₂, front₁.trans front₂, fun k ⟨b', mem, here⟩ => ?_, fun k mem => ?_⟩
    · rcases List.mem_cons.1 mem with rfl | mem
      · exact first k (conveys₁ k here)
      · exact others k (conveys₂ k ⟨b', mem, grow b' _ _ k front₁ here⟩)
    · rcases fresh₂ k mem with mem | done
      · exact (fresh₁ k mem).imp_right (first k)
      · exact .inr (others k done)

/-- A slot with arguments has what these carry. -/
theorem fill_arguments (raw : List Char) :
    Conveys (fun d k => Carries d.slots k raw) (fill (.arguments raw))
      fun d key k => Carries d.slots k key := by
  intro d key d' orderly run
  cases run
  have front : d.slots <+: d.slots ++ [.arguments raw] := List.prefix_append _ _
  refine ⟨⟨orderly.nodup, orderly.level⟩, front, fun k ⟨m, inside, behind⟩ => ?_,
    fun k mem => .inl mem⟩
  exact ⟨_, List.infix_rfl, .arguments List.getElem?_concat_length inside (behind.mono front)⟩

/-- A slot with an expression has what this has. -/
theorem fill_expr (e : Expr) :
    Conveys (fun _ k => e.Keeps k) (fill (.expr e)) fun d key k => Carries d.slots k key := by
  intro d key d' orderly run
  cases run
  refine ⟨⟨orderly.nodup, orderly.level⟩, List.prefix_append _ _, fun k keeps => ?_,
    fun k mem => .inl mem⟩
  exact ⟨_, List.infix_rfl, .expr List.getElem?_concat_length keeps⟩

theorem slot? (key : List Char) : Conveys (fun d k => Carries d.slots k key) (slot? key)
    fun d slot k => (∀ e, slot = some (.expr e) → e.Keeps k) ∧
      ∀ raw, slot = some (.arguments raw) → Carries d.slots k raw := by
  refine .of_quiet (fun d slot d' run => ?_) fun d slot d' k run here => ?_ <;>
    rw [slot?_run] at run <;> cases run
  · exact .refl d
  · exact here.slot

theorem condition (e : Expr) :
    Conveys (fun _ k => e.Keeps k) (condition e) fun _ e k => e.Keeps k := by
  refine .of_quiet (fun d e' d' run => ?_) fun d e' d' k run here => ?_ <;>
    obtain ⟨-, rfl, rfl⟩ := condition_eq_ok.1 run
  · exact .refl d'
  · exact here

theorem literal {item : List Char} (quote : (item.head?.map isQuote).getD false = true) :
    Conveys (fun d k => Carries d.slots k item) (literal item) fun _ a k => a.Keeps k := by
  refine .of_quiet (fun d a d' run => ?_) fun d a d' k run ⟨n, inside, _⟩ => ?_ <;>
    obtain ⟨-, closed, rfl, rfl⟩ := literal_eq_ok.1 run
  · exact .refl d'
  · have left := placeholder_literal quote closed inside
    exact .inr (.inl ⟨_, rfl, n, by rwa [String.toList_ofList]⟩)

theorem word (token : List Char) :
    Conveys (fun d k => Carries d.slots k token) (word token) fun _ a k => a.Keeps k := by
  intro d a d' orderly run
  obtain ⟨a', d₁, run', stands⟩ := word_run token d
  rw [run'] at run
  cases run
  have left {k : Keyword} (carries : Carries d.slots k token) :
      (Operand.bare (String.ofList token)).Keeps k := by
    obtain ⟨n, inside, -⟩ := carries
    exact .inr (.inl ⟨_, rfl, n, by rwa [String.toList_ofList]⟩)
  cases stands with
  | number reads =>
    refine ⟨orderly, List.prefix_rfl, fun k carries => ?_, fun k mem => .inl mem⟩
    exact (carries.not_inWord (inWord_of_number? reads).2).elim
  | digits => exact ⟨orderly, List.prefix_rfl, fun k => left, fun k mem => .inl mem⟩
  | bare => exact ⟨orderly, List.prefix_rfl, fun k => left, fun k mem => .inl mem⟩
  | @keyword k' _ _ reads =>
    refine ⟨orderly_noteKeyword orderly k', List.prefix_rfl, fun k carries => ?_, fun k mem => ?_⟩
    · exact (carries.not_inWord (inWord_of_ofWord? reads).2.1).elim
    · rcases mem_noteKeyword.1 mem with old | rfl
      · exact .inl old
      · exact .inr (.inl List.mem_cons_self)

/-- There is no placeholder in a name that can be called. -/
theorem call (name : List Char) (args : List Operand) :
    Conveys (fun _ k => (∃ n, placeholder n <:+: name) ∨ ∃ a ∈ args, a.Keeps k)
      (call tags name args) fun _ e k => e.Keeps k := by
  refine .of_quiet (fun d e d' run => ?_) fun d e d' k run here => ?_ <;>
    obtain ⟨f, args', p, d₁, named, -, -, settled, rfl, rfl⟩ := call_eq_ok.1 run
  · exact settled.quiet.trans (noteFunction_quiet d₁ f)
  · refine keeps_call settled (here.resolve_left fun ⟨n, inside⟩ => ?_)
    have letters := (Builtin.letters named).2
    rw [String.toList_ofList] at letters
    exact not_placeholder_of_inWord (fun c mem => ⟨(letters c mem).1, (letters c mem).2.1,
      (letters c mem).2.2.1⟩) inside

end Conveys

/-- All steps with some fuel convey the keywords that a text carries. -/
structure Conveying (tags : Option TagStore) (fuel : Nat) : Prop where
  start (text : List Char) : Conveys (fun d k => Carries d.slots k text) (start tags fuel text)
    fun _ e k => e.Keeps k
  flatten (pieces : List Piece) : Conveys (fun d k => Carries d.slots k (pieces.flatMap Piece.text))
    (flatten tags fuel pieces) fun d flat k => Carries d.slots k flat
  basic (text : List Char) : Conveys (fun d k => Carries d.slots k text) (basic tags fuel text)
    fun _ e k => e.Keeps k
  arguments (raw : List Char) : Conveys (fun d k => Carries d.slots k raw)
    (arguments tags fuel raw) fun _ args k => ∃ a ∈ args, a.Keeps k
  argument (item : List Char) : Conveys (fun d k => Carries d.slots k item)
    (argument tags fuel item) fun _ a k => a.Keeps k

namespace Conveying

variable {fuel : Nat} (all : Conveying tags fuel)
include all

theorem start_step (text : List Char) : Conveys (fun d k => Carries d.slots k text)
    (Compile.start tags (fuel + 1) text) fun _ e k => e.Keeps k := by
  unfold Compile.start
  simp only []
  split
  · exact .reject _
  · split
    · next literal =>
      exact .pure fun d k carries => (carries.trim.not_inWord (inWord_of_literal (.inl literal))).elim
    · split
      · next literal =>
        exact .pure fun d k carries =>
          (carries.trim.not_inWord (inWord_of_literal (.inr literal))).elim
      · cases ending : (piecesOf (Text.trim text)).2 with
        | complete =>
          refine .bind ((all.flatten _).pre fun d k carries => ?_) all.basic
          exact carries.trim.imp fun n => placeholder_pieces ending
        | extraClose => exact .bind (all.flatten _).any fun _ => .reject _
        | missingClose => exact .bind (all.flatten _).any fun _ => .reject _
        | missingQuote => exact .bind (all.flatten _).any fun _ => .reject _

theorem part_conveys (piece : Piece) :
    Conveys (fun d k => ∃ inner, piece.inside? = some inner ∧ Carries d.slots k inner)
      (part tags fuel piece) fun d s k => Carries d.slots k s := by
  cases piece with
  | plain c => exact .pure fun _ _ ⟨_, inside, _⟩ => nomatch inside
  | arguments inner =>
    refine .bind ((Conveys.fill_arguments inner).pre fun d k ⟨_, inside, carries⟩ => ?_)
      fun key => .pure fun d k carries => ?_
    · cases inside
      exact carries
    · exact carries.of_infix ⟨['('], [')'], rfl⟩
  | group inner =>
    refine .bind ((all.start inner).pre fun d k ⟨_, inside, carries⟩ => ?_) Conveys.fill_expr
    cases inside
    exact carries

theorem flatten_step (pieces : List Piece) :
    Conveys (fun d k => Carries d.slots k (pieces.flatMap Piece.text))
      (Compile.flatten tags (fuel + 1) pieces) fun d flat k => Carries d.slots k flat := by
  rw [flatten_succ]
  intro d flat d' orderly run
  obtain ⟨parts, d₁, run, done⟩ := bind_eq_ok.1 run
  cases done
  have stands := forall₂_of_mapM stands_of_part run
  obtain ⟨orderly', front, conveys, fresh⟩ := Conveys.mapM
    (fun _ _ _ _ front ⟨inner, inside, carries⟩ => ⟨inner, inside, carries.mono front⟩)
    (fun _ _ _ _ front carries => carries.mono front)
    (fun piece _ => all.part_conveys piece) d parts d' orderly run
  have flat {k : Keyword} (h : ∃ s ∈ parts, Carries d'.slots k s) :
      Carries d'.slots k parts.flatten := by
    obtain ⟨s, mem, carries⟩ := h
    exact carries.of_infix (List.infix_of_mem_flatten mem)
  refine ⟨orderly', front, fun k ⟨n, inside, behind⟩ => ?_,
    fun k mem => (fresh k mem).imp_right flat⟩
  rcases placeholder_flatten stands inside with here | ⟨piece, mem, inner, within, inside⟩
  · exact ⟨n, here, behind.mono front⟩
  · exact flat (conveys k ⟨piece, mem, inner, within, n, inside, behind⟩)

theorem basic_step (text : List Char) : Conveys (fun d k => Carries d.slots k text)
    (Compile.basic tags (fuel + 1) text) fun _ e k => e.Keeps k := by
  have boolean (part : List Char) : Conveys (fun d k => Carries d.slots k part)
      (do let e ← Compile.basic tags fuel (Text.trim part); condition e) fun _ e k => e.Keeps k :=
    .bind ((all.basic _).pre fun _ _ carries => carries.trim) Conveys.condition
  unfold Compile.basic
  split
  · exact .reject _
  · split
    · next separator combine parts found =>
      obtain ⟨mem, rfl, -⟩ := combination?_eq_some found
      split
      · split <;> exact .reject _
      · refine .bind ((Conveys.mapM (fun _ _ _ _ front carries => carries.mono front)
          (fun _ _ _ _ _ h => h) fun part _ => boolean part).pre fun _ _ => Carries.operands mem)
          fun es => .pure fun _ k => keeps_combination mem
    · split
      · next left function right found =>
        obtain ⟨operator, mem, -, -, rfl, -⟩ := comparison?_eq_some found
        refine .bind ((all.arguments _).pre fun _ _ => Carries.comparison mem) fun args => ?_
        exact (Conveys.call _ args).pre fun _ _ => .inr
      · split
        · next rest =>
          refine .bind ((all.basic _).pre fun d k carries => ?_) fun e =>
            .bind (.condition e) fun e' => .pure fun _ k keeps => keeps
          exact (carries.tail (by decide)).trim
        · refine .bind (.slot? _) fun slot => ?_
          split
          · next e => exact .pure fun _ k inside => inside.1 e rfl
          · exact .reject _
          · exact .reject _
        · split
          · exact .reject _
          · next name key found =>
            obtain ⟨inner, rfl, -, -, rfl⟩ := named?_eq_some found
            refine .bind (((Conveys.slot? _).or (∃ n, placeholder n <:+: name)).pre fun _ _ =>
              Carries.key) fun slot => ?_
            split
            · next raw =>
              refine .bind (((all.arguments raw).or _).pre fun d k here => ?_) (Conveys.call name)
              exact here.imp_right fun slot => slot.2 raw rfl
            · exact .reject _

theorem arguments_step (raw : List Char) : Conveys (fun d k => Carries d.slots k raw)
    (Compile.arguments tags (fuel + 1) raw) fun _ args k => ∃ a ∈ args, a.Keeps k := by
  unfold Compile.arguments
  simp only []
  split
  · next none =>
    refine .pure fun d k carries => (carries.trim.not_inWord fun c mem => ?_).elim
    rw [List.isEmpty_iff.1 none] at mem
    cases mem
  · refine (Conveys.mapM (P := fun item d k => Carries d.slots k item)
      (fun _ _ _ _ front carries => carries.mono front) (fun _ _ _ _ _ h => h)
      fun item _ => ?_).pre fun d k carries => carries.trim.items
    split
    · exact .reject _
    · exact all.argument item

theorem argument_step (item : List Char) : Conveys (fun d k => Carries d.slots k item)
    (Compile.argument tags (fuel + 1) item) fun _ a k => a.Keeps k := by
  unfold Compile.argument
  split
  · next quote => exact .literal quote
  · split
    · refine .bind (.slot? _) fun slot => ?_
      split
      · next e => exact .pure fun _ k inside => (inside.1 e rfl).imp_right .inr
      · next raw =>
        refine .bind ((all.arguments raw).pre fun _ k inside => inside.2 raw rfl) fun args => ?_
        split
        · next value =>
          refine .pure fun _ k here => ?_
          obtain ⟨a, mem, keeps⟩ := here
          rwa [List.mem_singleton.1 mem] at keeps
        · exact .reject _
      · exact .reject _
    · split
      · exact .bind (all.start item) fun e => .pure fun _ k keeps => keeps.imp_right .inr
      · exact .word item

end Conveying

/-- Every step conveys what a text carries, with any amount of fuel. -/
theorem conveying (tags : Option TagStore) (fuel : Nat) : Conveying tags fuel := by
  induction fuel with
  | zero =>
    refine ⟨fun _ => ?_, fun _ => ?_, fun _ => ?_, fun _ => ?_, fun _ => ?_⟩ <;> exact .exhausted
  | succ fuel ih =>
    exact ⟨ih.start_step, ih.flatten_step, ih.basic_step, ih.arguments_step, ih.argument_step⟩

/-- The keywords that are noted are listed once each, with their highest level. The expression has
them, unless a placeholder was left in one of its text literals or bare words. -/
theorem mem_or_spilled {text : String} {c : Compiled} (h : compile tags text = .ok c) :
    c.keywords.Nodup ∧ c.level = Level.highest c.keywords ∧ ∀ k ∈ c.keywords,
      k ∈ c.expr.keywords ∨ ∃ s ∈ c.expr.writings, ∃ n, placeholder n <:+: s.toList := by
  obtain ⟨-, e, d, started, -, rfl⟩ := run_eq_ok.1 (compile_eq_ok.1 h)
  obtain ⟨orderly, -, -, fresh⟩ :=
    (conveying tags _).start text.toList {} e d ⟨List.nodup_nil, rfl⟩ started
  refine ⟨orderly.nodup, orderly.level, fun k mem => ?_⟩
  refine ((fresh k mem).resolve_left List.not_mem_nil).imp_right ?_
  rintro ⟨f, args, called, a, among, s, written, left⟩
  exact ⟨s, List.mem_flatMap.2 ⟨_, called, List.mem_filterMap.2 ⟨a, among, written⟩⟩, left⟩

end Compile

end TagRules

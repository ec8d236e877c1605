import Mathlib.Data.List.Forall2
import TagRules.Proofs.Expr.Dependencies
import TagRules.Proofs.Expr.Drawn
import TagRules.Proofs.Expr.Leftmost
import TagRules.Proofs.Expr.Spacing

/-!
# Where bare words come from

Each text that a step of compiling works on stems from the source, and so do the lists of arguments
in the slots (`Rooted`). So the bare words of an expression are parts of the source, except that an
operand of a comparison may go on with a parenthesis: the placeholder for that stays in the word.
Where all parentheses are those of calls this does not happen (`Compile.bareWords_verbatim`).
-/

namespace TagRules

/-- The word of an argument that is a bare word. -/
def Operand.word? : Operand → Option String
  | .bare w => some w
  | _ => none

/-- The bare words among the arguments of all calls in an expression. -/
def Expr.bareWords (e : Expr) : List String :=
  e.calls.flatMap fun (_, args) => args.filterMap (·.word?)

namespace Compile

/-! ### Pieces -/

/-- What may stand for a piece in a flat text. -/
inductive Stands : Piece → List Char → Prop
  | plain (c : Char) : Stands (.plain c) [c]
  | arguments (inner : List Char) (n : Nat) : Stands (.arguments inner) ('(' :: placeholder n ++ [')'])
  | group (inner : List Char) (n : Nat) : Stands (.group inner) (placeholder n)

/-- What is in the parentheses of pieces stems from a source, and so does a flat text of them that
goes on from a text before. -/
def Stem (loose : Prop) (source before : List Char) (pieces : List Piece) : Prop :=
  (∀ piece ∈ pieces, ∀ inner, piece.inside? = some inner → Stems loose source inner) ∧
    ∀ parts, List.Forall₂ Stands pieces parts → Stems loose source (before ++ parts.flatten)

/-- The last character of a text is a letter or a digit. -/
def endsName (s : List Char) : Bool :=
  (s.getLast?.map Text.isLetterOrDigit).getD false

namespace Stem

variable {loose : Prop} {source before inner s : List Char} {pieces : List Piece} {c : Char}

theorem nil (h : Stems loose source before) : Stem loose source before [] := by
  refine ⟨fun _ mem => absurd mem List.not_mem_nil, fun parts stands => ?_⟩
  cases stands
  simpa using h

theorem plain (h : Stem loose source (before ++ [c]) pieces) :
    Stem loose source before (.plain c :: pieces) := by
  refine ⟨List.forall_mem_cons.2 ⟨nofun, h.1⟩, fun parts stands => ?_⟩
  cases stands with
  | cons first rest =>
    cases first
    simpa using h.2 _ rest

theorem arguments (first : Stems loose source (before ++ ['(']))
    (place : Quote.after {} (before ++ ['(']) = {}) (within : Stems loose source inner)
    (h : Stem loose source [')'] pieces) : Stem loose source before (.arguments inner :: pieces) := by
  refine ⟨List.forall_mem_cons.2 ⟨fun _ same => Option.some.inj same ▸ within, h.1⟩,
    fun parts stands => ?_⟩
  cases stands with
  | cons here rest =>
    cases here with
    | arguments _ n => simpa using first.append_arguments place n (h.2 _ rest)

theorem group (may : loose) (first : Stems loose source before)
    (place : Quote.after {} before = {}) (within : Stems loose source inner)
    (h : Stem loose source [] pieces) : Stem loose source before (.group inner :: pieces) := by
  refine ⟨List.forall_mem_cons.2 ⟨fun _ same => Option.some.inj same ▸ within, h.1⟩,
    fun parts stands => ?_⟩
  cases stands with
  | cons here rest =>
    cases here with
    | group _ n => simpa using first.append_key place (h.2 _ rest) (.inl may)

/-- A parenthesis that is closed, with the pieces after it. -/
theorem close (h : Stems loose source (before ++ '(' :: (inner ++ ')' :: s)))
    (place : Quote.after {} before = {}) (outside : (Quote.after {} inner).inside = false)
    (rest : ∀ front, Quote.after {} front = {} → endsName front = false →
      Stems loose source (front ++ s) → Stem loose source front pieces) :
    Stem loose source before
      ((if endsName before then .arguments (Text.trim inner)
        else .group (Text.trim inner)) :: pieces) := by
  have content : Stems loose source (inner ++ ')' :: s) :=
    (h.around ['('] (by rw [place]) (List.cons_ne_nil _ _) (by decide)).2
  have within := content.left (severable_paren (.inr rfl))
  cases name : endsName before with
  | true =>
    have opened : Quote.after {} (before ++ ['(']) = {} := by
      rw [Quote.after_append, place]
      rfl
    have first : Stems loose source (before ++ ['(']) := by
      rw [← List.singleton_append, ← List.append_assoc] at h
      refine h.left (.inl fun c last => ?_)
      rw [List.getLast?_concat] at last
      cases last
      decide
    have back : Stems loose source ([')'] ++ s) :=
      content.right (within.place outside) (severable_paren (.inr rfl))
        (.inr fun c first => by cases first; decide)
    exact .arguments first opened within.trim (rest [')'] rfl rfl back)
  | false =>
    -- The parenthesis is not guarded by a name.
    have may : loose := h.guarded.resolve_right fun guarded => by
      obtain ⟨d, last, letter⟩ :=
        ((Guarded.append.1 guarded).2.1 (by rw [place]; rfl)).1 rfl
      rw [Option.or_none] at last
      simp [endsName, Option.mem_def.1 last, letter] at name
    have back : Stems loose source ([] ++ s) :=
      (content.around [')'] outside (List.cons_ne_nil _ _) (by decide)).2
    exact .group may (h.left (severable_paren (.inl rfl))) place within.trim (rest [] rfl rfl back)

/-- The pieces of a text that stems from a source, behind a text before. -/
theorem of_pieced {q : Quote} {afterName : Bool} {r : List Piece × Ending}
    (h : Pieced q afterName s r) (before : List Char) (place : Quote.after {} before = q)
    (name : endsName before = afterName) (stems : Stems loose source (before ++ s)) :
    Stem loose source before r.1 := by
  induction h generalizing before with
  | done => exact .nil (by simpa using stems)
  | @plain q afterName c s r _ _ ih =>
    refine .plain (ih (before ++ [c]) ?_ ?_ (by simpa using stems))
    · rw [Quote.after_append, place]
      rfl
    · rw [endsName, List.getLast?_concat]
      rfl
  | blank outside blank =>
    have solid := (Quote.outside_append.1 stems.tidy).2.1 (by rw [place]; exact outside)
    exact absurd blank (by simp [solid.2])
  | @paren q afterName inner s r opens closes _ ih =>
    have outside : q.inside = false := (Quote.next_of_not_isQuote rfl).symm.trans opens
    have first := stems.left (severable_paren (.inl rfl))
    have place' := first.place (by rw [place]; exact outside)
    subst name
    exact .close stems place' closes fun front here ends back => ih front here ends back
  | extraClose => exact .nil (stems.left (severable_paren (.inr rfl)))
  | missingClose => exact .nil (stems.left (severable_paren (.inl rfl)))

/-- The pieces of a text that stems from a source. -/
theorem of_piecesOf (stems : Stems loose source s) : Stem loose source [] (piecesOf s).1 :=
  of_pieced (pieced_piecesOf s) [] rfl rfl stems

end Stem

/-! ### Steps -/

variable {α β : Type} {tags : Option TagStore} {loose : Prop} {source : List Char}

/-- A word is a part of the source, or there is a placeholder in it. -/
def Origin (loose : Prop) (source : List Char) (w : String) : Prop :=
  w.toList <:+: source ∨ loose ∧ ∃ n, placeholder n <:+: w.toList

/-- All bare words of an expression have an origin. -/
def Known (loose : Prop) (source : List Char) (e : Expr) : Prop :=
  ∀ w ∈ e.bareWords, Origin loose source w

/-- An argument is no bare word without an origin, nor an expression with one. -/
def KnownOperand (loose : Prop) (source : List Char) (a : Operand) : Prop :=
  (∀ w, a = .bare w → Origin loose source w) ∧ ∀ e, a = .expr e → Known loose source e

theorem mem_bareWords {e : Expr} {w : String} :
    w ∈ e.bareWords ↔ ∃ f args, (f, args) ∈ e.calls ∧ .bare w ∈ args := by
  have word (a : Operand) : a.word? = some w ↔ a = .bare w := by
    cases a <;> simp [Operand.word?]
  simp [Expr.bareWords, word]

theorem known_of_calls {e : Expr} {es : List Expr} (calls : e.calls = exprsCalls es)
    (each : ∀ e ∈ es, Known loose source e) : Known loose source e := by
  intro w mem
  obtain ⟨f, args, called, bare⟩ := mem_bareWords.1 mem
  rw [calls] at called
  obtain ⟨e', inside, called⟩ := mem_exprsCalls.1 called
  exact each e' inside w (mem_bareWords.2 ⟨f, args, called, bare⟩)

/-- A call has the bare words of its arguments. -/
theorem known_call {f : Builtin} {name : String} {args args' : List Operand} {p : Option Pattern}
    {d d' : Draft} (each : ∀ a ∈ args, KnownOperand loose source a)
    (settled : Settled tags d f args args' p d') : Known loose source (.call f name args' p) := by
  have bare (w : String) : .bare w ∈ args' → .bare w ∈ args := by
    cases settled with
    | hasNet => simp
    | getConfig => simp
    | _ => exact id
  intro w mem
  obtain ⟨g, others, called, word⟩ := mem_bareWords.1 mem
  rw [Expr.calls, settled.parts.1] at called
  rcases List.mem_cons.1 called with same | called
  · cases same
    exact (each _ (bare w word)).1 w rfl
  · obtain ⟨a, inside, called⟩ := mem_operandsCalls.1 called
    cases a with
    | expr e => exact (each _ inside).2 e rfl w (mem_bareWords.2 ⟨g, others, called, word⟩)
    | _ => cases called

/-- What is in the slots of a draft stems from the source. -/
structure Rooted (loose : Prop) (source : List Char) (d : Draft) : Prop where
  expr : ∀ e, .expr e ∈ d.slots → Known loose source e
  arguments : ∀ raw, .arguments raw ∈ d.slots → Stems loose source raw

theorem Rooted.of_slots {d d' : Draft} (h : Rooted loose source d) (slots : d'.slots = d.slots) :
    Rooted loose source d' :=
  ⟨slots ▸ h.expr, slots ▸ h.arguments⟩

/-- A step that, where it succeeds, leads from a rooted draft to a rooted one, with a result that
satisfies a condition. -/
def Traces (loose : Prop) (source : List Char) (m : Compile α) (P : α → Prop) : Prop :=
  ∀ d a d', Rooted loose source d → StateT.run m d = .ok (a, d') → Rooted loose source d' ∧ P a

namespace Traces

variable {m : Compile α} {P : α → Prop} {Q : β → Prop}

theorem pure {a : α} (h : P a) : Traces loose source (pure a) P := by
  intro d a' d' rooted run
  cases run
  exact ⟨rooted, h⟩

theorem reject (e : CompileError) : Traces loose source (reject e) P :=
  fun _ _ _ _ run => nomatch run

theorem exhausted : Traces loose source (throw .exhausted) P :=
  fun _ _ _ _ run => nomatch run

theorem bind {k : α → Compile β} (first : Traces loose source m P)
    (second : ∀ a, P a → Traces loose source (k a) Q) : Traces loose source (m >>= k) Q := by
  intro d b d' rooted run
  obtain ⟨a, d₁, run₁, run₂⟩ := bind_eq_ok.1 run
  obtain ⟨rooted₁, here⟩ := first d a d₁ rooted run₁
  exact second a here d₁ b d' rooted₁ run₂

theorem of_local (h : Local m) (result : ∀ d a d', StateT.run m d = .ok (a, d') → P a) :
    Traces loose source m P :=
  fun d a d' rooted run => ⟨rooted.of_slots (h.slots_eq run), result d a d' run⟩

/-- A step for each element of a list. -/
theorem mapM {R : β → α → Prop} {f : β → Compile α} {l : List β}
    (each : ∀ b ∈ l, Traces loose source (f b) (R b)) :
    Traces loose source (l.mapM f) (List.Forall₂ R l) := by
  induction l with
  | nil => exact .pure .nil
  | cons b l ih =>
    rw [List.mapM_cons]
    refine (each b List.mem_cons_self).bind fun a here => ?_
    refine (ih fun b mem => each b (List.mem_cons_of_mem _ mem)).bind fun as others => ?_
    exact .pure (.cons here others)

/-- A step for each element of a list, each with a result of one kind. -/
theorem mapM_all {f : β → Compile α} {l : List β} (each : ∀ b ∈ l, Traces loose source (f b) P) :
    Traces loose source (l.mapM f) fun as => ∀ a ∈ as, P a := by
  intro d as d' rooted run
  obtain ⟨rooted', all⟩ := Traces.mapM each d as d' rooted run
  refine ⟨rooted', fun a mem => ?_⟩
  obtain ⟨i, bound, rfl⟩ := List.mem_iff_getElem.1 mem
  exact all.get (by rw [all.length_eq]; exact bound) bound

theorem fill_arguments {raw : List Char} (stems : Stems loose source raw) :
    Traces loose source (fill (.arguments raw)) fun key => ∃ n, key = placeholder n := by
  intro d key d' rooted run
  cases run
  refine ⟨⟨fun e mem => rooted.expr e (by simpa using mem), fun raw' mem => ?_⟩, _, rfl⟩
  rcases List.mem_append.1 mem with mem | mem
  · exact rooted.arguments raw' mem
  · cases List.mem_singleton.1 mem
    exact stems

theorem fill_expr {e : Expr} (known : Known loose source e) :
    Traces loose source (fill (.expr e)) fun key => ∃ n, key = placeholder n := by
  intro d key d' rooted run
  cases run
  refine ⟨⟨fun e' mem => ?_, fun raw mem => rooted.arguments raw (by simpa using mem)⟩, _, rfl⟩
  rcases List.mem_append.1 mem with mem | mem
  · exact rooted.expr e' mem
  · cases List.mem_singleton.1 mem
    exact known

theorem slot? (key : List Char) : Traces loose source (slot? key) fun slot =>
    (∀ e, slot = some (.expr e) → Known loose source e) ∧
      ∀ raw, slot = some (.arguments raw) → Stems loose source raw := by
  intro d slot d' rooted run
  rw [slot?_run] at run
  cases run
  refine ⟨rooted, fun e found => ?_, fun raw found => ?_⟩
  · obtain ⟨n, -, at'⟩ := Option.bind_eq_some_iff.1 found
    exact rooted.expr e (List.mem_of_getElem? at')
  · obtain ⟨n, -, at'⟩ := Option.bind_eq_some_iff.1 found
    exact rooted.arguments raw (List.mem_of_getElem? at')

theorem condition {e : Expr} (known : Known loose source e) :
    Traces loose source (condition e) (Known loose source) :=
  .of_local (.condition e) fun _ _ _ run => (condition_eq_ok.1 run).2.1 ▸ known

theorem literal (item : List Char) :
    Traces loose source (literal item) (KnownOperand loose source) := by
  refine .of_local (.literal item) fun d a d' run => ?_
  obtain ⟨-, -, rfl, -⟩ := literal_eq_ok.1 run
  exact ⟨nofun, nofun⟩

theorem word {token : List Char} (origin : Origin loose source (String.ofList token)) :
    Traces loose source (word token) (KnownOperand loose source) := by
  refine .of_local (.word token) fun d a d' run => ?_
  obtain ⟨a', d₁, run', stands⟩ := word_run token d
  rw [run'] at run
  cases run
  cases stands with
  | number => exact ⟨nofun, nofun⟩
  | keyword => exact ⟨nofun, nofun⟩
  | digits => exact ⟨fun w same => Operand.bare.inj same ▸ origin, nofun⟩
  | bare => exact ⟨fun w same => Operand.bare.inj same ▸ origin, nofun⟩

theorem call (name : List Char) {args : List Operand}
    (each : ∀ a ∈ args, KnownOperand loose source a) :
    Traces loose source (call tags name args) (Known loose source) := by
  refine .of_local (.call ..) fun d e d' run => ?_
  obtain ⟨f, args', p, d₁, -, -, -, settled, rfl, -⟩ := call_eq_ok.1 run
  exact known_call each settled

end Traces

/-- All steps with some fuel trace what they yield to the source. -/
structure Tracing (tags : Option TagStore) (loose : Prop) (source : List Char) (fuel : Nat) :
    Prop where
  start {text : List Char} (stems : Stems loose source text) :
    Traces loose source (start tags fuel text) (Known loose source)
  flatten {pieces : List Piece} (stem : Stem loose source [] pieces) :
    Traces loose source (flatten tags fuel pieces) (Stems loose source)
  basic {text : List Char} (stems : Stems loose source text) :
    Traces loose source (basic tags fuel text) (Known loose source)
  arguments {raw : List Char} (stems : Stems loose source raw) :
    Traces loose source (arguments tags fuel raw) fun args => ∀ a ∈ args, KnownOperand loose source a
  argument {item : List Char} (stems : Stems loose source item)
    (word : '(' ∉ item → item.head? ≠ some '{' → Origin loose source (String.ofList item)) :
    Traces loose source (argument tags fuel item) (KnownOperand loose source)

namespace Tracing

variable {fuel : Nat} {text raw item : List Char} (all : Tracing tags loose source fuel)
include all

theorem start_step (stems : Stems loose source text) :
    Traces loose source (Compile.start tags (fuel + 1) text) (Known loose source) := by
  have known (b : Bool) : Known loose source (.literal (.bool b)) :=
    fun _ mem => absurd mem List.not_mem_nil
  unfold Compile.start
  simp only []
  split
  · exact .reject _
  · split
    · exact .pure (known true)
    · split
      · exact .pure (known false)
      · have stem := Stem.of_piecesOf stems.trim
        refine (all.flatten stem).bind fun flat flatStems => ?_
        split
        · exact .reject _
        · exact .reject _
        · exact .reject _
        · exact all.basic flatStems

theorem flatten_step {pieces : List Piece} (stem : Stem loose source [] pieces) :
    Traces loose source (Compile.flatten tags (fuel + 1) pieces) (Stems loose source) := by
  rw [flatten_succ]
  refine (Traces.mapM (R := Stands) fun piece mem => ?_).bind fun parts stands => ?_
  · cases piece with
    | plain c => exact .pure (.plain c)
    | arguments inner =>
      refine (Traces.fill_arguments (stem.1 _ mem inner rfl)).bind fun key ⟨n, same⟩ => ?_
      exact .pure (same ▸ .arguments inner n)
    | group inner =>
      refine (all.start (stem.1 _ mem inner rfl)).bind fun e known => ?_
      intro d key d' rooted run
      obtain ⟨rooted', n, rfl⟩ := Traces.fill_expr known d key d' rooted run
      exact ⟨rooted', .group inner n⟩
  · exact .pure (stem.2 parts stands)

theorem basic_step (stems : Stems loose source text) :
    Traces loose source (Compile.basic tags (fuel + 1) text) (Known loose source) := by
  have boolean {text : List Char} (stems : Stems loose source text) : Traces loose source
      (do let e ← Compile.basic tags fuel (Text.trim text); condition e) (Known loose source) :=
    (all.basic stems.trim).bind fun _ known => .condition known
  unfold Compile.basic
  split
  · exact .reject _
  · split
    · next separator combine parts found =>
      obtain ⟨mem, rfl, several⟩ := combination?_eq_some found
      split
      · split <;> exact .reject _
      · obtain ⟨sign, cutting⟩ := cutting_separator mem
        have parts := stems.of_cuts (splits_splitAt sign text).cuts sign.some cutting
        refine (Traces.mapM_all fun part here => boolean (parts part here)).bind fun es each => ?_
        exact .pure (known_of_calls (parts_of_combination mem es).1 each)
    · split
      · next left function right found =>
        obtain ⟨operator, mem, -, -, rfl, outside⟩ := comparison?_eq_some found
        obtain ⟨some, cutting⟩ := cutting_operator mem
        obtain ⟨first, second⟩ := stems.around _ outside some cutting
        exact (all.arguments (first.append_comma outside second)).bind fun args each => .call _ each
      · split
        · next rest =>
          have behind := (stems.around (s := []) ['!'] rfl (List.cons_ne_nil _ _) (by decide)).2
          refine (all.basic behind.trim).bind fun e known => ?_
          exact (Traces.condition known).bind fun _ known => .pure known
        · refine (Traces.slot? _).bind fun slot here => ?_
          split
          · next e => exact .pure (here.1 e rfl)
          · exact .reject _
          · exact .reject _
        · split
          · exact .reject _
          · refine (Traces.slot? _).bind fun slot here => ?_
            split
            · next raw =>
              exact (all.arguments (here.2 raw rfl)).bind fun args each => .call _ each
            · exact .reject _

theorem arguments_step (stems : Stems loose source raw) :
    Traces loose source (Compile.arguments tags (fuel + 1) raw)
      fun args => ∀ a ∈ args, KnownOperand loose source a := by
  unfold Compile.arguments
  simp only []
  split
  · exact .pure fun _ mem => absurd mem List.not_mem_nil
  · refine .mapM_all fun item mem => ?_
    split
    · exact .reject _
    · refine all.argument (stems.trim.items item mem) fun paren brace => ?_
      rw [Origin, String.toList_ofList]
      exact stems.trim.word item mem paren brace

theorem argument_step (stems : Stems loose source item)
    (word : '(' ∉ item → item.head? ≠ some '{' → Origin loose source (String.ofList item)) :
    Traces loose source (Compile.argument tags (fuel + 1) item) (KnownOperand loose source) := by
  have expr {e : Expr} (known : Known loose source e) : KnownOperand loose source (.expr e) :=
    ⟨nofun, fun _ same => Operand.expr.inj same ▸ known⟩
  unfold Compile.argument
  split
  · exact .literal item
  · split
    · refine (Traces.slot? _).bind fun slot here => ?_
      split
      · next e => exact .pure (expr (here.1 e rfl))
      · next raw =>
        refine (all.arguments (here.2 raw rfl)).bind fun args each => ?_
        split
        · next value => exact .pure (each value List.mem_cons_self)
        · exact .reject _
      · exact .reject _
    · next brace =>
      split
      · exact (all.start stems).bind fun e known => .pure (expr known)
      · next paren => exact .word (word (fun mem => paren (List.contains_iff_mem.2 mem)) brace)

end Tracing

/-- Every step traces what it yields to the source, with any amount of fuel. -/
theorem tracing (tags : Option TagStore) (loose : Prop) (source : List Char) (fuel : Nat) :
    Tracing tags loose source fuel := by
  induction fuel with
  | zero =>
    refine ⟨fun _ => ?_, fun _ => ?_, fun _ => ?_, fun _ => ?_, fun _ _ => ?_⟩ <;> exact .exhausted
  | succ fuel ih =>
    exact ⟨ih.start_step, ih.flatten_step, ih.basic_step, ih.arguments_step, ih.argument_step⟩

/-- Where a text with no backslash outside of its literals compiles, every bare word is a part of
the text without the blanks outside of its literals, or holds a placeholder. It does not hold one if
outside of literals all parentheses are those of calls, and braces only begin arguments. -/
theorem bareWords_verbatim (tags : Option TagStore) (text : String) (plain : Unescaped text.toList)
    {c : Compiled} (h : compile tags text = .ok c) {w : String} (mem : w ∈ c.expr.bareWords) :
    w.toList <:+: solid text.toList ∨
      ¬Guarded none {} (solid text.toList) ∧ ∃ n, placeholder n <:+: w.toList := by
  obtain ⟨-, e, d, started, -, rfl⟩ := run_eq_ok.1 (compile_eq_ok.1 h)
  obtain ⟨d', started', -⟩ := start_solid plain started
  have stems : Stems (¬Guarded none {} (solid text.toList)) (solid text.toList)
      (solid text.toList) :=
    ⟨tidy_solid (fun _ => rfl) plain, .verbatim List.infix_rfl, (Classical.em _).symm⟩
  have empty : Rooted (¬Guarded none {} (solid text.toList)) (solid text.toList) {} :=
    ⟨fun _ mem => absurd mem List.not_mem_nil, fun _ mem => absurd mem List.not_mem_nil⟩
  exact ((tracing tags _ _ _).start stems {} e d' empty started').2 w mem

/-- A bare word that had a blank in it. -/
theorem bareWords_of_spaced_call : Unescaped "contains(name, fire fox)".toList ∧
    Guarded none {} (solid "contains(name, fire fox)".toList) ∧
      ∃ c, compile none "contains(name, fire fox)" = .ok c ∧ "firefox" ∈ c.expr.bareWords ∧
        "firefox".toList <:+: solid "contains(name, fire fox)".toList := by
  have plain : Unescaped "contains(name, fire fox)".toList := by decide
  have guarded : Guarded none {} (solid "contains(name, fire fox)".toList) := by decide +kernel
  have words : (compile none "contains(name, fire fox)").toOption.map (·.expr.bareWords) =
      some ["firefox"] := by decide +kernel
  cases compiled : compile none "contains(name, fire fox)" with
  | error e =>
    rw [compiled] at words
    cases words
  | ok c =>
    rw [compiled] at words
    have words : c.expr.bareWords = ["firefox"] := Option.some.inj words
    have mem : "firefox" ∈ c.expr.bareWords := by
      rw [words]
      exact List.mem_cons_self
    have origin := bareWords_verbatim none _ plain compiled mem
    exact ⟨plain, guarded, c, rfl, mem, origin.resolve_right fun key => key.1 guarded⟩

/-- A parenthesis after a sign in an operand of a comparison is not called, and its placeholder
stays in the bare word. -/
theorem placeholder_left_in_bareWords :
    '{' ∉ "-(isPaused()) > 1".toList ∧ ∃ c, compile none "-(isPaused()) > 1" = .ok c ∧
      "-\x7b1\x7d" ∈ c.expr.bareWords ∧
        ¬"-\x7b1\x7d".toList <:+: solid "-(isPaused()) > 1".toList := by
  have words : (compile none "-(isPaused()) > 1").toOption.map (·.expr.bareWords) =
      some ["-\x7b1\x7d"] := by decide +kernel
  cases compiled : compile none "-(isPaused()) > 1" with
  | error e =>
    rw [compiled] at words
    cases words
  | ok c =>
    rw [compiled] at words
    have words : c.expr.bareWords = ["-\x7b1\x7d"] := Option.some.inj words
    refine ⟨by decide, c, rfl, ?_, by decide +kernel⟩
    rw [words]
    exact List.mem_cons_self

end Compile

end TagRules

import Mathlib.Data.List.Forall2
import TagRules.Proofs.Expr.Local
import TagRules.Proofs.Expr.Outside
import TagRules.Proofs.Expr.Steps

/-!
# Blanks outside of literals make no difference

Where a text without backslashes outside of its literals compiles, so does its solid form, to the
same (`Compile.compile_solid`). Both are flattened to one flat text: what stands behind its
placeholders is the same, but for lists of arguments with and without blanks (`Draft.Alike`), and
such lists have the same items. The other way round there is a difference: `tr ue` is no literal.
-/

namespace TagRules

/-- A text as it is, or without the blanks outside of its literals. -/
inductive Respaced : List Char → List Char → Prop
  | same (s : List Char) : Respaced s s
  | solid {s : List Char} (plain : Unescaped s) : Respaced s (solid s)

/-- Pieces that are the same but for blanks in parentheses. -/
inductive Piece.Respaced : Piece → Piece → Prop
  | plain (c : Char) : Respaced (.plain c) (.plain c)
  | arguments {s t : List Char} (inside : TagRules.Respaced s t) :
    Respaced (.arguments s) (.arguments t)
  | group {s t : List Char} (inside : TagRules.Respaced s t) : Respaced (.group s) (.group t)

namespace Respaced

variable {s t : List Char}

theorem trim (h : Respaced s t) : Respaced (Text.trim s) (Text.trim t) := by
  cases h with
  | same => exact .same _
  | solid plain => exact solid_trim s ▸ .solid plain.trim

theorem argumentsOf_eq (h : Respaced s t) : argumentsOf t = argumentsOf s := by
  cases h with
  | same => rfl
  | solid plain => exact argumentsFrom_solid plain.steady 0

theorem ne_nil (h : Respaced s t) (tight : Tight s) (some : s ≠ []) : t ≠ [] := by
  cases h with
  | same => exact some
  | solid plain => exact tight.solid_ne_nil some

theorem pieces (h : Respaced s t) : List.Forall₂ Piece.Respaced (piecesOf s).1 (piecesOf t).1 ∧
    (piecesOf t).2 = (piecesOf s).2 := by
  cases h with
  | same =>
    refine ⟨List.forall₂_same.2 fun piece _ => ?_, rfl⟩
    cases piece with
    | plain c => exact .plain c
    | arguments inner => exact .arguments (.same inner)
    | group inner => exact .group (.same inner)
  | solid plain =>
    have cut : piecesOf (TagRules.solid s) = solidPieces (piecesOf s) :=
      (piecesFrom_solid plain.steady).1 false
    rw [cut]
    refine ⟨List.forall₂_map_right_iff.2 (List.forall₂_same.2 fun piece mem => ?_), rfl⟩
    have within (inner : List Char) (inside : piece.inside? = some inner) : Unescaped inner :=
      plain.enclosed ((pieced_piecesOf s).enclosed piece mem inner inside)
    cases piece with
    | plain c => exact .plain c
    | arguments inner => exact .arguments (.solid (within inner rfl))
    | group inner => exact .group (.solid (within inner rfl))

end Respaced

/-- Slots that hold the same but for blanks in a list of arguments. -/
inductive Slot.Alike : Slot → Slot → Prop
  | expr (e : Expr) : Alike (.expr e) (.expr e)
  | arguments {raw raw' : List Char} (inside : Respaced raw raw') :
    Alike (.arguments raw) (.arguments raw')

/-- Drafts that are the same but for blanks in lists of arguments. -/
structure Draft.Alike (d d' : Draft) : Prop where
  slots : List.Forall₂ Slot.Alike d.slots d'.slots
  others : d' = { d with slots := d'.slots }

theorem Draft.Alike.refl (d : Draft) : d.Alike d := by
  refine ⟨List.forall₂_same.2 fun slot _ => ?_, rfl⟩
  cases slot with
  | expr e => exact .expr e
  | arguments raw => exact .arguments (.same raw)

theorem Draft.Alike.slot {d d' : Draft} (h : d.Alike d') (n : Nat) :
    Option.Rel Slot.Alike d.slots[n]? d'.slots[n]? := by
  have slots := h.slots
  generalize d.slots = l, d'.slots = l' at slots
  induction slots generalizing n with
  | nil => exact .none
  | cons first _ ih =>
    cases n with
    | zero => exact .some first
    | succ n => exact ih n

namespace Compile

variable {α β : Type} {tags : Option TagStore}

/-- Where the first step succeeds, the second one yields the same from an alike draft. -/
def Follows (m n : Compile α) : Prop :=
  ∀ d d' a d₁, d.Alike d' → StateT.run m d = .ok (a, d₁) →
    ∃ d₁', d₁.Alike d₁' ∧ StateT.run n d' = .ok (a, d₁')

namespace Follows

theorem of_local {m : Compile α} (h : Local m) : Follows m m := by
  rintro d d' a d₁ ⟨slots, others⟩ run
  have run' := h.run_eq d d'.slots
  rw [run, ← others] at run'
  exact ⟨_, ⟨h.slots_eq run ▸ slots, rfl⟩, run'⟩

theorem pure (a : α) : Follows (pure a : Compile α) (pure a) :=
  .of_local (.pure a)

/-- A refusal is followed by anything. -/
theorem reject (e : CompileError) (n : Compile α) : Follows (reject e) n :=
  fun _ _ _ _ _ run => nomatch run

theorem exhausted (n : Compile α) : Follows (throw .exhausted) n :=
  fun _ _ _ _ _ run => nomatch run

theorem bind {m n : Compile α} {k l : α → Compile β} (first : Follows m n)
    (second : ∀ a, Follows (k a) (l a)) : Follows (m >>= k) (n >>= l) := by
  intro d d' b d₂ alike run
  obtain ⟨a, d₁, run₁, run₂⟩ := bind_eq_ok.1 run
  obtain ⟨d₁', alike₁, run₁'⟩ := first d d' a d₁ alike run₁
  obtain ⟨d₂', alike₂, run₂'⟩ := second a d₁ d₁' b d₂ alike₁ run₂
  exact ⟨d₂', alike₂, (bind_run_of_ok run₁').trans run₂'⟩

theorem mapM {γ : Type} {f : β → Compile α} {g : γ → Compile α} {l : List β} {l' : List γ}
    (each : List.Forall₂ (fun b c => Follows (f b) (g c)) l l') : Follows (l.mapM f) (l'.mapM g) := by
  induction each with
  | nil => exact .pure _
  | cons first _ ih =>
    rw [List.mapM_cons, List.mapM_cons]
    exact first.bind fun _ => ih.bind fun _ => .pure _

theorem fill {slot slot' : Slot} (alike : slot.Alike slot') : Follows (fill slot) (fill slot') := by
  rintro d d' key d₁ ⟨slots, others⟩ run
  rw [fill_run] at run
  cases run
  refine ⟨{ d with slots := d'.slots ++ [slot'] },
    ⟨List.rel_append slots (.cons alike .nil), rfl⟩, ?_⟩
  rw [fill_run, slots.length_eq, others]

/-- What follows a placeholder. -/
theorem lookup {key : List Char} {k l : Option Slot → Compile α} (absent : Follows (k none) (l none))
    (found : ∀ slot slot', slot.Alike slot' → Follows (k (some slot)) (l (some slot'))) :
    Follows (slot? key >>= k) (slot? key >>= l) := by
  intro d d' a d₁ alike run
  rw [bind_run_of_ok (slot?_run key d)] at run
  rw [bind_run_of_ok (slot?_run key d')]
  have both : Option.Rel Slot.Alike ((placeholder? key).bind (d.slots[·]?))
      ((placeholder? key).bind (d'.slots[·]?)) := by
    cases placeholder? key with
    | none => exact .none
    | some n => exact alike.slot n
  generalize (placeholder? key).bind (d.slots[·]?) = slot at both run
  generalize (placeholder? key).bind (d'.slots[·]?) = slot' at both
  cases both with
  | none => exact absent d d' a d₁ alike run
  | some here => exact found _ _ here d d' a d₁ alike run

end Follows

/-! ### Literals -/

/-- A literal is a word. -/
theorem inWord_of_literal {s : List Char} (literal : Text.eqIgnoringCase s "true".toList = true ∨
    Text.eqIgnoringCase s "false".toList = true) : ∀ c ∈ s, InWord c := by
  have word (t : List Char) (plain : ∀ c ∈ Text.lowerAscii t, InWord c)
      (same : Text.eqIgnoringCase s t = true) : ∀ c ∈ s, InWord c := by
    intro c mem
    have same : Text.lowerAscii s = Text.lowerAscii t := by
      simpa [Text.eqIgnoringCase] using same
    exact inWord_of_toLower (plain _ (same ▸ List.mem_map_of_mem mem))
  rcases literal with same | same
  · exact word _ (by decide) same
  · exact word _ (by decide) same

/-- A word has no blanks to lose. -/
theorem solid_of_inWord {s : List Char} (plain : ∀ c ∈ s, InWord c) : solid s = s := by
  unfold solid
  generalize ({} : Quote) = q
  induction s generalizing q with
  | nil => rfl
  | cons c s ih =>
    have black : Text.isBlank c = false := (plain c List.mem_cons_self).1.2.2.2.2
    rw [Quote.solid, black, Bool.and_false, if_neg Bool.false_ne_true,
      ih fun d mem => plain d (List.mem_cons_of_mem _ mem)]

/-- A word alone is no expression. -/
theorem basic_word (fuel : Nat) {s : List Char} (plain : ∀ c ∈ s, InWord c) (d : Draft) (e : Expr)
    (d' : Draft) : StateT.run (basic tags fuel s) d ≠ .ok (e, d') := by
  have neutral := fun c mem => (plain c mem).2.1
  intro run
  cases fuel with
  | zero => cases run
  | succ fuel =>
    rw [basic.eq_def] at run
    simp only [combination?_of_neutral neutral, comparison?_eq_none neutral] at run
    have sign (c : Char) (rest : List Char) (form : s = c :: rest) : c ≠ '!' ∧ c ≠ '{' := by
      have other := (plain c (form ▸ List.mem_cons_self)).2.2
      constructor <;> rintro rfl <;> exact other (by decide)
    split at run
    · cases run
    · split at run
      · exact (sign _ _ rfl).1 rfl
      · exact (sign _ _ rfl).2 rfl
      · split at run
        · cases run
        · next found =>
          obtain ⟨inner, -, -, -, form⟩ := named?_eq_some found
          exact (plain '(' (by simp [form])).1.2.1 rfl

/-- The pieces of a word are flattened to the word. -/
theorem flatten_word (fuel : Nat) (s : List Char) (d : Draft) :
    StateT.run (flatten tags (fuel + 1) (s.map .plain)) d = .ok (s, d) := by
  have flat : (s.map ([·])).flatten = s := List.flatMap_singleton' s
  rw [flatten_succ, mapM_part_plain, pure_bind, flat]
  rfl

/-! ### Steps -/

/-- Each step with some fuel is followed by itself, and for texts that are compiled as they are also
by the step for the text without blanks outside of literals. -/
structure Agreeing (tags : Option TagStore) (fuel : Nat) : Prop where
  start {s t : List Char} (spaced : Respaced s t) : Follows (start tags fuel s) (start tags fuel t)
  flatten {l l' : List Piece} (spaced : List.Forall₂ Piece.Respaced l l') :
    Follows (flatten tags fuel l) (flatten tags fuel l')
  basic (text : List Char) : Follows (basic tags fuel text) (basic tags fuel text)
  arguments {s t : List Char} (spaced : Respaced s t) :
    Follows (arguments tags fuel s) (arguments tags fuel t)
  argument (item : List Char) : Follows (argument tags fuel item) (argument tags fuel item)

namespace Agreeing

variable {fuel : Nat} (all : Agreeing tags fuel)
include all

theorem flatten_step {l l' : List Piece} (spaced : List.Forall₂ Piece.Respaced l l') :
    Follows (Compile.flatten tags (fuel + 1) l) (Compile.flatten tags (fuel + 1) l') := by
  rw [flatten_succ, flatten_succ]
  refine (Follows.mapM (spaced.imp fun piece piece' here => ?_)).bind fun _ => .pure _
  cases here with
  | plain c => exact .pure _
  | arguments inside => exact (Follows.fill (.arguments inside)).bind fun _ => .pure _
  | group inside => exact (all.start inside).bind fun e => .fill (.expr e)

theorem basic_step (text : List Char) :
    Follows (Compile.basic tags (fuel + 1) text) (Compile.basic tags (fuel + 1) text) := by
  have boolean (text : List Char) : Follows
      (do let e ← Compile.basic tags fuel text; condition e)
      (do let e ← Compile.basic tags fuel text; condition e) :=
    (all.basic text).bind fun e => .of_local (.condition e)
  unfold Compile.basic
  split
  · exact .reject _ _
  · split
    · split
      · split <;> exact .reject _ _
      · exact (Follows.mapM (List.forall₂_same.2 fun part _ => boolean _)).bind fun _ => .pure _
    · split
      · exact (all.arguments (.same _)).bind fun args => .of_local (.call ..)
      · split
        · refine (all.basic _).bind fun e => ?_
          exact (Follows.of_local (.condition e)).bind fun _ => .pure _
        · refine .lookup (.reject _ _) fun slot slot' here => ?_
          cases here with
          | expr e => exact .pure e
          | arguments => exact .reject _ _
        · split
          · exact .reject _ _
          · refine .lookup (.reject _ _) fun slot slot' here => ?_
            cases here with
            | expr e => exact .reject _ _
            | arguments inside => exact (all.arguments inside).bind fun args => .of_local (.call ..)

theorem arguments_step {s t : List Char} (spaced : Respaced s t) :
    Follows (Compile.arguments tags (fuel + 1) s) (Compile.arguments tags (fuel + 1) t) := by
  have trimmed := spaced.trim
  have tight := Text.tight_trim s
  unfold Compile.arguments
  generalize Text.trim s = s, Text.trim t = t at trimmed tight
  simp only []
  by_cases some : s = []
  · subst some
    cases trimmed <;> exact .pure _
  · rw [if_neg (by simpa using some), if_neg (by simpa using trimmed.ne_nil tight some),
      trimmed.argumentsOf_eq]
    refine .mapM (List.forall₂_same.2 fun item _ => ?_)
    split
    · exact .reject _ _
    · exact all.argument item

theorem argument_step (item : List Char) :
    Follows (Compile.argument tags (fuel + 1) item) (Compile.argument tags (fuel + 1) item) := by
  unfold Compile.argument
  split
  · exact .of_local (.literal item)
  · split
    · refine .lookup (.reject _ _) fun slot slot' here => ?_
      cases here with
      | expr e => exact .pure _
      | arguments inside =>
        refine (all.arguments inside).bind fun args => ?_
        split
        · exact .pure _
        · exact .reject _ _
    · split
      · exact (all.start (.same item)).bind fun e => .pure _
      · exact .of_local (.word item)

/-- Without blanks there may be a literal where there was none, but that text is not compiled. -/
theorem not_start_of_literal {s t : List Char} (spaced : Respaced s t)
    (literal : Text.eqIgnoringCase t "true".toList = true ∨
      Text.eqIgnoringCase t "false".toList = true) {flat : List Char} {d d₁ d₂ : Draft} {e : Expr}
    (flattened : StateT.run (Compile.flatten tags fuel (piecesOf s).1) d = .ok (flat, d₁))
    (run : StateT.run (Compile.basic tags fuel flat) d₁ = .ok (e, d₂)) : False := by
  have plain := inWord_of_literal literal
  have cut := piecesFrom_ordinary (fun c mem => (plain c mem).1) false []
  rw [List.append_nil] at cut
  cases fuel with
  | zero => cases run
  | succ fuel =>
    obtain ⟨d₁', -, flattened'⟩ := all.flatten spaced.pieces.1 d d flat d₁ (.refl d) flattened
    have pieces : (piecesOf t).1 = t.map .plain := by
      rw [piecesOf, cut, consPieces, piecesFrom, List.append_nil]
    rw [pieces, flatten_word] at flattened'
    cases flattened'
    exact basic_word _ plain d₁ e d₂ run

theorem start_step {s t : List Char} (spaced : Respaced s t) :
    Follows (Compile.start tags (fuel + 1) s) (Compile.start tags (fuel + 1) t) := by
  have trimmed := spaced.trim
  have tight := Text.tight_trim s
  unfold Compile.start
  generalize Text.trim s = s, Text.trim t = t at trimmed tight
  simp only []
  by_cases some : s = []
  · subst some
    exact .reject _ _
  have some' := List.isEmpty_eq_false_iff.2 (trimmed.ne_nil tight some)
  have some := List.isEmpty_eq_false_iff.2 some
  simp only [some, some', Bool.false_eq_true, if_false]
  by_cases literal : Text.eqIgnoringCase s "true".toList = true ∨
      Text.eqIgnoringCase s "false".toList = true
  · have same : t = s := by
      cases trimmed with
      | same => rfl
      | solid => exact solid_of_inWord (inWord_of_literal literal)
    subst same
    split
    · exact .pure _
    · next notTrue =>
      rw [if_pos (literal.resolve_left notTrue)]
      exact .pure _
  · have literal' := not_or.1 literal
    rw [if_neg literal'.1, if_neg literal'.2]
    intro d d' e d₂ alike run
    obtain ⟨flat, d₁, flattened, run⟩ := bind_eq_ok.1 run
    obtain ⟨pieces, ending⟩ := trimmed.pieces
    obtain ⟨d₁', alike₁, flattened'⟩ := all.flatten pieces d d' flat d₁ alike flattened
    cases done : (piecesOf s).2 with
    | complete =>
      simp only [done] at run
      have notLiteral := fun literal => not_start_of_literal all trimmed literal flattened run
      have notLiteral := not_or.1 notLiteral
      rw [if_neg notLiteral.1, if_neg notLiteral.2, bind_run_of_ok flattened', ending, done]
      exact all.basic flat d₁ d₁' e d₂ alike₁ run
    | extraClose => simp only [done] at run; cases run
    | missingClose => simp only [done] at run; cases run
    | missingQuote => simp only [done] at run; cases run

end Agreeing

/-- Compiling goes the same way with and without blanks outside of literals. -/
theorem agreeing (tags : Option TagStore) (fuel : Nat) : Agreeing tags fuel := by
  induction fuel with
  | zero =>
    refine ⟨fun _ => ?_, fun _ => ?_, fun _ => ?_, fun _ => ?_, fun _ => ?_⟩ <;>
      exact Follows.exhausted _
  | succ fuel ih =>
    exact ⟨ih.start_step, ih.flatten_step, ih.basic_step, ih.arguments_step, ih.argument_step⟩

/-- The same fuel is for a text with and without its blanks outside of literals. -/
theorem fuelFor_solid (s : List Char) : fuelFor (solid s) = fuelFor s := by
  rw [fuelFor, solid, Quote.ink_solid, Quote.count_solid {} rfl, fuelFor]

theorem start_solid {fuel : Nat} {s : List Char} {e : Expr} {d : Draft} (plain : Unescaped s)
    (started : StateT.run (start tags fuel s) {} = .ok (e, d)) :
    ∃ d', StateT.run (start tags fuel (solid s)) {} = .ok (e, d') ∧
      compiledOf e d' = compiledOf e d := by
  obtain ⟨d', alike, started'⟩ :=
    (agreeing tags fuel).start (.solid plain) {} {} e d (.refl {}) started
  exact ⟨d', started', by rw [alike.others]; rfl⟩

theorem run_solid {s : List Char} {c : Compiled} (plain : Unescaped s) (h : run tags s = .ok c) :
    run tags (solid s) = .ok c := by
  obtain ⟨notBlank, e, d, started, kind, rfl⟩ := run_eq_ok.1 h
  obtain ⟨d', started', same⟩ := start_solid plain started
  refine run_eq_ok.2 ⟨(blank_solid s).trans notBlank, e, d', ?_, kind, same.symm⟩
  rw [fuelFor_solid, started']

/-- Whatever the amount of fuel, a text with no backslash outside of its literals is compiled to
nothing but what the text without the blanks outside of its literals is compiled to. So where the
first one compiles, the second one does so to the same constraint, and so does every other text that
differs from it in such blanks only and compiles. -/
theorem compile_solid (tags : Option TagStore) (text : String) (plain : Unescaped text.toList) :
    (∀ fuel e d, StateT.run (start tags fuel text.toList) {} = .ok (e, d) →
      ∃ d', StateT.run (start tags fuel (solid text.toList)) {} = .ok (e, d') ∧
        compiledOf e d' = compiledOf e d) ∧
    ∀ c, compile tags text = .ok c → compile tags (String.ofList (solid text.toList)) = .ok c ∧
      ∀ other c', Unescaped other.toList → solid other.toList = solid text.toList →
        compile tags other = .ok c' → c' = c := by
  refine ⟨fun fuel e d started => start_solid plain started, fun c compiled => ?_⟩
  have run := run_solid plain (compile_eq_ok.1 compiled)
  refine ⟨compile_eq_ok.2 (by rwa [String.toList_ofList]), fun other c' plain' same compiled' => ?_⟩
  have run' := run_solid plain' (compile_eq_ok.1 compiled')
  rw [same, run] at run'
  exact (Except.ok.inj run').symm

/-- Blanks around an operator, before parentheses, within a name and in a literal. -/
theorem spaced_compiles :
    Unescaped " is Paused ( ) && contains(name, \"a  b\") ".toList ∧
    ∃ c, compile none " is Paused ( ) && contains(name, \"a  b\") " = .ok c ∧
      compile none "isPaused()&&contains(name,\"a  b\")" = .ok c := by
  have plain : Unescaped " is Paused ( ) && contains(name, \"a  b\") ".toList := by decide
  have text : String.ofList (solid " is Paused ( ) && contains(name, \"a  b\") ".toList) =
      "isPaused()&&contains(name,\"a  b\")" := by decide
  have accepted : (compile none " is Paused ( ) && contains(name, \"a  b\") ").isOk = true := by
    decide +kernel
  cases compiled : compile none " is Paused ( ) && contains(name, \"a  b\") " with
  | error e =>
    rw [compiled] at accepted
    cases accepted
  | ok c =>
    have tight := ((compile_solid none _ plain).2 c compiled).1
    rw [text] at tight
    exact ⟨plain, c, rfl, tight⟩

end Compile

end TagRules

import TagRules.Proofs.Expr.Carried

/-!
# The list of keywords

Compiling notes a keyword when it reads the word, and reads the arguments of calls from left to right.
What is in other parentheses is compiled when these are cut out, before the text around them. So the
keywords are listed as the expression has them from left to right (`Listed`) where all parentheses
are those of calls; in general the list has all of them, and its level is the highest one of theirs
(`Compile.keywords_listed`).
-/

namespace TagRules

/-- Several keywords are noted one after the other, each one once. -/
def noteAll (noted ks : List Keyword) : List Keyword :=
  ks.foldl (fun noted k => if noted.contains k then noted else noted ++ [k]) noted

theorem noteAll_append (noted ks ks' : List Keyword) :
    noteAll noted (ks ++ ks') = noteAll (noteAll noted ks) ks' :=
  List.foldl_append

theorem noteAll_eq (noted ks : List Keyword) :
    noteAll noted ks = noted ++ (ks.filter fun k => !noted.contains k).eraseDups := by
  induction ks generalizing noted with
  | nil => simp [noteAll]
  | cons k ks ih =>
    have step : noteAll noted (k :: ks) =
        noteAll (if noted.contains k then noted else noted ++ [k]) ks := rfl
    rw [step, ih]
    cases old : noted.contains k with
    | true => rw [if_pos rfl, List.filter_cons_of_neg (by simpa using old)]
    | false =>
      have others (k' : Keyword) : (!(noted ++ [k]).contains k') =
          (!k' == k && !noted.contains k') := by
        rw [List.contains_append, List.contains_cons, List.contains_nil, Bool.or_false, Bool.not_or,
          Bool.and_comm]
      simp only [Bool.false_eq_true, if_false, List.filter_cons, old, Bool.not_false, if_true,
        List.eraseDups_cons, List.filter_filter, others, List.append_assoc, List.singleton_append]

/-- From the beginning, each keyword is noted where it first appears. -/
theorem noteAll_nil (ks : List Keyword) : noteAll [] ks = ks.eraseDups := by
  simp [noteAll_eq]

namespace Compile

variable {α β : Type} {tags : Option TagStore} {source : List Char}

theorem exprsKeywords_eq (es : List Expr) : exprsKeywords es = es.flatMap (·.keywords) := by
  induction es with
  | nil => rfl
  | cons e es ih => rw [exprsKeywords, List.flatMap_cons, ih]

theorem operandsKeywords_eq (args : List Operand) :
    operandsKeywords args = args.flatMap (·.keywords) := by
  induction args with
  | nil => rfl
  | cons a args ih => rw [operandsKeywords, List.flatMap_cons, ih]

/-- All keywords of an expression are noted. -/
def mentions (tags : Option TagStore) : Invariant tags where
  onExpr d e := ∀ k ∈ e.keywords, k ∈ d.keywords
  onOperand d a := ∀ k ∈ a.keywords, k ∈ d.keywords
  grow_expr grows each k mem := grows.keywords k (each k mem)
  grow_operand grows each k mem := grows.keywords k (each k mem)
  of_literal _ mem := absurd mem List.not_mem_nil
  of_not each _ := each
  of_combination mem _ each k named := by
    rw [(parts_of_combination mem _).2] at named
    obtain ⟨e, inside, named⟩ := mem_exprsKeywords.1 named
    exact (each e inside).1 k named
  of_text _ mem := absurd mem List.not_mem_nil
  of_word _ stands k named := by
    cases stands with
    | keyword =>
      rw [List.mem_singleton.1 named]
      exact mem_noteKeyword.2 (.inr rfl)
    | _ => cases named
  of_expr each := each
  of_call each _ _ _ settled k named := by
    rw [Expr.keywords, settled.parts.2] at named
    obtain ⟨a, inside, named⟩ := mem_operandsKeywords.1 named
    rw [(noteFunction_quiet _ _).keywords, settled.quiet.keywords]
    exact each a inside k named

/-! ### Texts without groups -/

/-- Where all parentheses are those of calls, a text is cut into letters and arguments. -/
theorem not_group {q : Quote} {afterName : Bool} {s : List Char} {r : List Piece × Ending}
    (h : Pieced q afterName s r) (inner : List Char) (before : Option Char)
    (name : (before.map Text.isLetterOrDigit).getD false = afterName) (guarded : Guarded before q s)
    (tidy : q.Outside Tidy s) : .group inner ∉ r.1 := by
  induction h generalizing before with
  | done => exact List.not_mem_nil
  | @plain q afterName c s r _ _ ih =>
    rintro (_ | ⟨_, later⟩)
    exact ih (some c) rfl guarded.2 tidy.2 later
  | blank outside blank => exact absurd blank (by simp [(tidy.1 outside).2])
  | @paren q afterName text s r opens closes _ ih =>
    obtain ⟨d, here, letter⟩ := (guarded.1 opens).1 rfl
    rw [Option.mem_def.1 here, Option.map_some, Option.getD_some, letter] at name
    subst name
    have form : '(' :: (text ++ ')' :: s) = '(' :: text ++ [')'] ++ s := by simp
    rw [form] at guarded tidy
    have guarded := (Guarded.append.1 guarded).2
    have tidy := (Quote.outside_append.1 tidy).2
    rw [Quote.after_paren opens closes] at guarded tidy
    rw [List.getLast?_concat, Option.some_or] at guarded
    rintro (_ | ⟨_, later⟩)
    exact ih (some ')') rfl guarded tidy later
  | extraClose => exact List.not_mem_nil
  | missingClose => exact List.not_mem_nil

/-- No slot of a draft holds an expression, and the arguments in slots stem from the source. -/
structure Ungrouped (source : List Char) (d : Draft) : Prop where
  expr : ∀ e, .expr e ∉ d.slots
  arguments : ∀ raw, .arguments raw ∈ d.slots → Stems False source raw

/-- A step that, where it succeeds, leads from a draft without groups to one in which certain
keywords are noted besides, in their order. -/
def Lists (source : List Char) (m : Compile α) (Q : α → List Keyword → Prop) : Prop :=
  ∀ d a d', Ungrouped source d → StateT.run m d = .ok (a, d') →
    Ungrouped source d' ∧ ∃ ks, d'.keywords = noteAll d.keywords ks ∧ Q a ks

namespace Lists

variable {m : Compile α} {Q : α → List Keyword → Prop}

theorem of_quiet (quiet : ∀ d a d', StateT.run m d = .ok (a, d') → d.Quiet d')
    (result : ∀ d a d', Ungrouped source d → StateT.run m d = .ok (a, d') → Q a []) :
    Lists source m Q := by
  intro d a d' ungrouped run
  have quiet := quiet d a d' run
  refine ⟨⟨?_, ?_⟩, [], quiet.keywords, result d a d' ungrouped run⟩
  · rw [quiet.slots]
    exact ungrouped.expr
  · rw [quiet.slots]
    exact ungrouped.arguments

theorem pure {a : α} (h : Q a []) : Lists source (pure a) Q := by
  refine .of_quiet (fun d a' d' run => ?_) fun d a' d' _ run => ?_ <;> cases run
  · exact .refl d
  · exact h

theorem reject (e : CompileError) : Lists source (reject e) Q :=
  fun _ _ _ _ run => nomatch run

theorem exhausted : Lists source (throw .exhausted) Q :=
  fun _ _ _ _ run => nomatch run

theorem bind {k : α → Compile β} {R : β → List Keyword → Prop} (first : Lists source m Q)
    (second : ∀ a ks, Q a ks → Lists source (k a) fun b ks' => R b (ks ++ ks')) :
    Lists source (m >>= k) R := by
  intro d b d' ungrouped run
  obtain ⟨a, d₁, run₁, run₂⟩ := bind_eq_ok.1 run
  obtain ⟨ungrouped₁, ks, noted, here⟩ := first d a d₁ ungrouped run₁
  obtain ⟨ungrouped₂, ks', noted', there⟩ := second a ks here d₁ b d' ungrouped₁ run₂
  exact ⟨ungrouped₂, ks ++ ks', by rw [noted', noted, noteAll_append], there⟩

/-- A step for each element of a list, whose results have the keywords that are noted. -/
theorem mapM {f : β → Compile α} {l : List β} {keywords : α → List Keyword}
    (each : ∀ b ∈ l, Lists source (f b) fun a ks => keywords a = ks) :
    Lists source (l.mapM f) fun as ks => as.flatMap keywords = ks := by
  induction l with
  | nil => exact .pure rfl
  | cons b l ih =>
    rw [List.mapM_cons]
    refine (each b List.mem_cons_self).bind ?_
    rintro a _ rfl
    refine (ih fun b mem => each b (List.mem_cons_of_mem _ mem)).bind ?_
    rintro as _ rfl
    refine .pure ?_
    rw [List.flatMap_cons, List.append_nil]

theorem fill {raw : List Char} (stems : Stems False source raw) :
    Lists source (fill (.arguments raw)) fun _ ks => ks = [] := by
  intro d key d' ungrouped run
  cases run
  refine ⟨⟨fun e mem => ungrouped.expr e (by simpa using mem), fun raw' mem => ?_⟩, [], rfl, rfl⟩
  rcases List.mem_append.1 mem with mem | mem
  · exact ungrouped.arguments raw' mem
  · cases List.mem_singleton.1 mem
    exact stems

/-- Behind a key there is nothing but arguments that stem from the source. -/
theorem slot? (key : List Char) : Lists source (slot? key) fun slot ks => ks = [] ∧
    (∀ e, slot ≠ some (.expr e)) ∧ ∀ raw, slot = some (.arguments raw) → Stems False source raw := by
  refine .of_quiet (fun d slot d' run => ?_) fun d slot d' ungrouped run => ?_ <;>
    rw [slot?_run] at run <;> cases run
  · exact .refl d
  · refine ⟨rfl, fun e found => ?_, fun raw found => ?_⟩
    · obtain ⟨n, -, at'⟩ := Option.bind_eq_some_iff.1 found
      exact ungrouped.expr e (List.mem_of_getElem? at')
    · obtain ⟨n, -, at'⟩ := Option.bind_eq_some_iff.1 found
      exact ungrouped.arguments raw (List.mem_of_getElem? at')

theorem condition (e : Expr) :
    Lists source (condition e) fun e' ks => e'.keywords = e.keywords ++ ks := by
  refine .of_quiet (fun d e' d' run => ?_) fun d e' d' _ run => ?_ <;>
    obtain ⟨-, rfl, rfl⟩ := condition_eq_ok.1 run
  · exact .refl d'
  · exact (List.append_nil _).symm

theorem literal (item : List Char) :
    Lists source (literal item) fun a ks => a.keywords = ks := by
  refine .of_quiet (fun d a d' run => ?_) fun d a d' _ run => ?_ <;>
    obtain ⟨-, -, rfl, rfl⟩ := literal_eq_ok.1 run
  · exact .refl d'
  · rfl

theorem word (token : List Char) : Lists source (word token) fun a ks => a.keywords = ks := by
  intro d a d' ungrouped run
  obtain ⟨a', d₁, run', stands⟩ := word_run token d
  rw [run'] at run
  cases run
  cases stands with
  | @keyword k => exact ⟨⟨ungrouped.expr, ungrouped.arguments⟩, [k], rfl, rfl⟩
  | _ => exact ⟨ungrouped, [], rfl, rfl⟩

/-- A call has the keywords of its arguments, which are noted already. -/
theorem call (name : List Char) (args : List Operand) : Lists source (call tags name args)
    fun e ks => e.keywords = operandsKeywords args ++ ks := by
  refine .of_quiet (fun d e d' run => ?_) fun d e d' _ run => ?_ <;>
    obtain ⟨f, args', p, d₁, -, -, -, settled, rfl, rfl⟩ := call_eq_ok.1 run
  · exact settled.quiet.trans (noteFunction_quiet d₁ f)
  · rw [Expr.keywords, settled.parts.2, List.append_nil]

/-- Without groups, nothing is noted before the flat text is compiled. -/
theorem flatten (fuel : Nat) {pieces : List Piece} (stem : Stem False source [] pieces)
    (single : ∀ inner, .group inner ∉ pieces) :
    Lists source (flatten tags fuel pieces) fun flat ks => Stems False source flat ∧ ks = [] := by
  cases fuel with
  | zero => exact .exhausted
  | succ fuel =>
    have part (piece : Piece) (mem : piece ∈ pieces) :
        Lists source (part tags fuel piece) fun _ ks => [] = ks := by
      cases piece with
      | plain c => exact .pure rfl
      | arguments inner =>
        refine (Lists.fill (stem.1 _ mem inner rfl)).bind ?_
        rintro key _ rfl
        exact .pure rfl
      | group inner => exact absurd mem (single inner)
    rw [flatten_succ]
    intro d flat d' ungrouped run
    obtain ⟨parts, d₁, run, done⟩ := bind_eq_ok.1 run
    cases done
    obtain ⟨ungrouped', ks, noted, none⟩ := Lists.mapM part d parts d' ungrouped run
    refine ⟨ungrouped', ks, noted, stem.2 parts (forall₂_of_mapM stands_of_part run), ?_⟩
    exact none.symm.trans (List.flatMap_eq_nil_iff.2 fun _ _ => rfl)

end Lists

/-! ### Steps -/

/-- All steps with some fuel list the keywords of their results in order. -/
structure Listed (tags : Option TagStore) (source : List Char) (fuel : Nat) : Prop where
  start {text : List Char} (stems : Stems False source text) :
    Lists source (start tags fuel text) fun e ks => e.keywords = ks
  basic {text : List Char} (stems : Stems False source text) :
    Lists source (basic tags fuel text) fun e ks => e.keywords = ks
  arguments {raw : List Char} (stems : Stems False source raw) :
    Lists source (arguments tags fuel raw) fun args ks => operandsKeywords args = ks
  argument {item : List Char} (stems : Stems False source item) :
    Lists source (argument tags fuel item) fun a ks => a.keywords = ks

namespace Listed

variable {fuel : Nat} {text raw item : List Char} (all : Listed tags source fuel)
include all

theorem start_step (stems : Stems False source text) :
    Lists source (Compile.start tags (fuel + 1) text) fun e ks => e.keywords = ks := by
  unfold Compile.start
  simp only []
  split
  · exact .reject _
  · split
    · exact .pure rfl
    · split
      · exact .pure rfl
      · have trimmed := stems.trim
        have stem := Stem.of_piecesOf trimmed
        have single (inner : List Char) : .group inner ∉ (piecesOf (Text.trim text)).1 :=
          not_group (pieced_piecesOf _) inner none rfl (trimmed.guarded.resolve_left id) trimmed.tidy
        refine (Lists.flatten _ stem single).bind ?_
        rintro flat _ ⟨flatStems, rfl⟩
        split
        · exact .reject _
        · exact .reject _
        · exact .reject _
        · exact all.basic flatStems

theorem basic_step (stems : Stems False source text) :
    Lists source (Compile.basic tags (fuel + 1) text) fun e ks => e.keywords = ks := by
  have boolean {text : List Char} (stems : Stems False source text) : Lists source
      (do let e ← Compile.basic tags fuel (Text.trim text); condition e)
      fun e ks => e.keywords = ks := by
    refine (all.basic stems.trim).bind ?_
    rintro e _ rfl
    exact .condition e
  unfold Compile.basic
  split
  · exact .reject _
  · split
    · next separator combine parts found =>
      obtain ⟨mem, rfl, -⟩ := combination?_eq_some found
      split
      · split <;> exact .reject _
      · obtain ⟨sign, cutting⟩ := cutting_separator mem
        have parts := stems.of_cuts (splits_splitAt sign text).cuts sign.some cutting
        refine (Lists.mapM fun part here => boolean (parts part here)).bind ?_
        rintro es _ rfl
        refine .pure ?_
        rw [(parts_of_combination mem es).2, exprsKeywords_eq, List.append_nil]
    · split
      · next left function right found =>
        obtain ⟨operator, mem, -, -, rfl, outside⟩ := comparison?_eq_some found
        obtain ⟨some, cutting⟩ := cutting_operator mem
        obtain ⟨first, second⟩ := stems.around _ outside some cutting
        refine (all.arguments (first.append_comma outside second)).bind ?_
        rintro args _ rfl
        exact .call _ args
      · split
        · next rest =>
          have behind := (stems.around (s := []) ['!'] rfl (List.cons_ne_nil _ _) (by decide)).2
          refine (all.basic behind.trim).bind ?_
          rintro e _ rfl
          refine (Lists.condition e).bind ?_
          intro e' ks same
          refine .pure ?_
          rw [Expr.keywords, same, List.append_nil]
        · refine (Lists.slot? _).bind ?_
          rintro slot _ ⟨rfl, none, -⟩
          split
          · next e => exact absurd rfl (none e)
          · exact .reject _
          · exact .reject _
        · split
          · exact .reject _
          · refine (Lists.slot? _).bind ?_
            rintro slot _ ⟨rfl, -, here⟩
            split
            · next raw =>
              refine (all.arguments (here raw rfl)).bind ?_
              rintro args _ rfl
              exact .call _ args
            · exact .reject _

theorem arguments_step (stems : Stems False source raw) :
    Lists source (Compile.arguments tags (fuel + 1) raw)
      fun args ks => operandsKeywords args = ks := by
  unfold Compile.arguments
  simp only []
  split
  · exact .pure rfl
  · simp only [operandsKeywords_eq]
    refine .mapM fun item mem => ?_
    split
    · exact .reject _
    · exact all.argument (stems.trim.items item mem)

theorem argument_step (stems : Stems False source item) :
    Lists source (Compile.argument tags (fuel + 1) item) fun a ks => a.keywords = ks := by
  unfold Compile.argument
  split
  · exact .literal item
  · split
    · refine (Lists.slot? _).bind ?_
      rintro slot _ ⟨rfl, none, here⟩
      split
      · next e => exact absurd rfl (none e)
      · next raw =>
        refine (all.arguments (here raw rfl)).bind ?_
        rintro args _ rfl
        split
        · next value =>
          refine .pure ?_
          rw [operandsKeywords, operandsKeywords, List.append_nil, List.append_nil, List.nil_append]
        · exact .reject _
      · exact .reject _
    · split
      · refine (all.start stems).bind ?_
        rintro e _ rfl
        exact .pure (List.append_nil _).symm
      · exact .word item

end Listed

/-- Every step lists the keywords of its result in order, with any amount of fuel. -/
theorem listed (tags : Option TagStore) (source : List Char) (fuel : Nat) :
    Listed tags source fuel := by
  induction fuel with
  | zero =>
    refine ⟨fun _ => ?_, fun _ => ?_, fun _ => ?_, fun _ => ?_⟩ <;> exact .exhausted
  | succ fuel ih => exact ⟨ih.start_step, ih.basic_step, ih.arguments_step, ih.argument_step⟩

/-- Where all parentheses are those of calls, the keywords are listed as they first appear in the
expression. -/
theorem listed_in_order {text : String} (plain : Unescaped text.toList)
    (guarded : Guarded none {} (solid text.toList)) {c : Compiled}
    (h : compile tags text = .ok c) : c.keywords = c.expr.keywords.eraseDups := by
  obtain ⟨-, e, d, started, -, rfl⟩ := run_eq_ok.1 (compile_eq_ok.1 h)
  obtain ⟨d', started', same⟩ := start_solid plain started
  have stems : Stems False (solid text.toList) (solid text.toList) :=
    ⟨tidy_solid (fun _ => rfl) plain, .verbatim List.infix_rfl, .inr guarded⟩
  have empty : Ungrouped (solid text.toList) {} :=
    ⟨fun _ mem => absurd mem List.not_mem_nil, fun _ mem => absurd mem List.not_mem_nil⟩
  obtain ⟨-, ks, noted, rfl⟩ := (listed tags _ _).start stems {} e d' empty started'
  rw [← same]
  exact noted.trans (noteAll_nil _)

/-- A compiled constraint lists all keywords of its expression, each one once, and its level is the
highest one of those in the list. It lists no others, unless a placeholder was left in a text literal
or a bare word of the expression. Where outside of literals there are no backslashes, all parentheses
are those of calls and braces only begin arguments, the list is in the order in which the keywords
first appear in the expression from left to right. -/
theorem keywords_listed (tags : Option TagStore) (text : String) {c : Compiled}
    (h : compile tags text = .ok c) :
    c.keywords.Nodup ∧ c.level = Level.highest c.keywords ∧
      (∀ k ∈ c.expr.keywords, k ∈ c.keywords) ∧
      ((∀ s ∈ c.expr.writings, ∀ n, ¬placeholder n <:+: s.toList) →
        ∀ k ∈ c.keywords, k ∈ c.expr.keywords) ∧
      (Unescaped text.toList → Guarded none {} (solid text.toList) →
        c.keywords = c.expr.keywords.eraseDups) := by
  obtain ⟨nodup, level, kept⟩ := mem_or_spilled h
  obtain ⟨d, known, named, -⟩ := (mentions tags).of_compile h
  refine ⟨nodup, level, fun k mem => ?_, fun none k mem => ?_,
    fun plain guarded => listed_in_order plain guarded h⟩
  · rw [known]
    exact named k mem
  · refine (kept k mem).resolve_right ?_
    rintro ⟨s, written, n, left⟩
    exact none s written n left

/-- Calls side by side and within a call, and a keyword that appears twice. -/
theorem keywords_of_calls : Unescaped "percent > 5 && isGT(age, dtos(size)) || percent < 90".toList ∧
    Guarded none {} (solid "percent > 5 && isGT(age, dtos(size)) || percent < 90".toList) ∧
    ∃ c, compile none "percent > 5 && isGT(age, dtos(size)) || percent < 90" = .ok c ∧
      c.expr.writings = [] ∧ c.expr.keywords = [.percent, .age, .size, .percent] ∧
      c.keywords = [.percent, .age, .size] ∧ c.level = .time := by
  have plain : Unescaped "percent > 5 && isGT(age, dtos(size)) || percent < 90".toList := by decide
  have guarded : Guarded none {}
      (solid "percent > 5 && isGT(age, dtos(size)) || percent < 90".toList) := by decide +kernel
  obtain ⟨c, compiled, known⟩ := ok_of_map
    (by decide +kernel :
      (compile none "percent > 5 && isGT(age, dtos(size)) || percent < 90").toOption.map
        (fun c => (c.expr.writings, c.expr.keywords)) = some ([], [.percent, .age, .size, .percent]))
  obtain ⟨none, keywords⟩ := Prod.mk.inj known
  obtain ⟨-, level, -, -, order⟩ := keywords_listed _ _ compiled
  have listed : c.keywords = [.percent, .age, .size] := by
    rw [order plain guarded, keywords]
    decide
  refine ⟨plain, guarded, c, compiled, none, keywords, listed, ?_⟩
  rw [level, listed]
  decide

/-- What is in parentheses that are not those of a call is listed before what is to the left of them.
Where it is an operand of a comparison, it is lost but for its keywords. -/
theorem keywords_of_groups :
    (∃ c, compile none "age > 5 && (size > 1)" = .ok c ∧ c.keywords = [.size, .age] ∧
      c.expr.keywords = [.age, .size]) ∧
    ∃ c, compile none "-(age > 1) > 1" = .ok c ∧ c.keywords = [.age] ∧ c.level = .time ∧
      c.expr.keywords = [] := by
  constructor
  · obtain ⟨c, compiled, known⟩ := ok_of_map (by decide +kernel :
      (compile none "age > 5 && (size > 1)").toOption.map (fun c => (c.keywords, c.expr.keywords)) =
        some ([.size, .age], [.age, .size]))
    exact ⟨c, compiled, (Prod.mk.inj known).1, (Prod.mk.inj known).2⟩
  · obtain ⟨c, compiled, known⟩ := ok_of_map (by decide +kernel :
      (compile none "-(age > 1) > 1").toOption.map
        (fun c => (c.keywords, c.level, c.expr.keywords)) = some ([.age], .time, []))
    obtain ⟨keywords, known⟩ := Prod.mk.inj known
    exact ⟨c, compiled, keywords, (Prod.mk.inj known).1, (Prod.mk.inj known).2⟩

end Compile

end TagRules

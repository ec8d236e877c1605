import TagRules.Proofs.Expr.Comparison
import TagRules.Proofs.Expr.Reading
import TagRules.Proofs.Expr.Termination

/-!
# Comparisons and calls of their functions

The text of a comparison takes another way through the compiler than the call of its function with
the same operands. Both come down to one step: the operands, one after the other, and then the call
(`compared`). All that is different is that in a comparison the arguments of an operand are behind a
placeholder, which has to stand for one value (`Term.referred`). No function of no argument or of
several ones yields a number, so the other form is refused there as well.
-/

namespace TagRules

namespace Compile

variable {tags : Option TagStore} {fuel : Nat} {x y : Term} {operator : List Char} {f : Builtin}

/-- What an operator is made of. -/
theorem operator_facts (mem : (operator, f) ∈ Builtin.comparisons) : operator ≠ [] ∧
      (∀ c ∈ operator, Ordinary c ∧ c ≠ ',' ∧ Text.isLetterOrDigit c = false ∧ c ∉ signs ['^']) ∧
        ∃ c ∈ operator, c ∈ ['(', '=', '<', '>'] := by
  have all : ∀ p ∈ Builtin.comparisons, p.1 ≠ [] ∧
      (∀ c ∈ p.1, Ordinary c ∧ c ≠ ',' ∧ Text.isLetterOrDigit c = false ∧ c ∉ signs ['^']) ∧
        ∃ c ∈ p.1, c ∈ ['(', '=', '<', '>'] := by
    decide
  exact all _ mem

/-- The pieces of a comparison of terms. -/
theorem piecesOf_comparison (first : x.Proper) (second : y.Proper)
    (mem : (operator, f) ∈ Builtin.comparisons) :
    piecesOf (x.text ++ (operator ++ y.text)) =
      (x.pieces ++ (operator.map .plain ++ y.pieces), .complete) := by
  obtain ⟨some, plain, -⟩ := operator_facts mem
  obtain ⟨afterName, cut⟩ := first.piecesFrom_text (operator ++ y.text)
  obtain ⟨afterName', cut'⟩ := second.piecesFrom_text []
  obtain ⟨escaped, passes⟩ := first.closed
  obtain ⟨escaped', passes'⟩ := second.closed
  have between := piecesFrom_outside (q := Quote.after {} x.text)
    (Quote.outside_of_forall fun c mem =>
      ⟨(plain c mem).1.2.1, (plain c mem).1.2.2.1, (plain c mem).1.2.2.2.2⟩) afterName y.text
  have name : (operator.getLast?.map Text.isLetterOrDigit).getD afterName = false := by
    rw [List.getLast?_eq_some_getLast some, Option.map_some, Option.getD_some]
    exact (plain _ (List.getLast_mem some)).2.2.1
  have place : (Quote.after {} x.text).after operator = {} := by
    rw [Quote.after_of_pass passes]
    exact Quote.after_sign rfl some fun c mem => ⟨(plain c mem).1.1, (plain c mem).1.2.2.2.1⟩
  have outside : (Quote.after {} y.text).inside = false := by rw [Quote.after_of_pass passes']
  rw [List.append_nil] at cut'
  rw [piecesOf, cut, between, name, place, cut']
  simp [consPieces, piecesFrom, outside]

/-- A flat comparison of terms is read as the call of its function. -/
theorem basic_terms (first : x.Proper) (second : y.Proper)
    (mem : (operator, f) ∈ Builtin.comparisons) (n k : Nat) :
    basic tags (fuel + 2) (x.flat n ++ (operator ++ y.flat k)) = (do
      let a ← argument tags fuel (x.flat n)
      let b ← argument tags fuel (y.flat k)
      call tags f.name.toList [a, b]) := by
  obtain ⟨some, plain, -⟩ := operator_facts mem
  have left := Item.flat first n
  have right := Item.flat second k
  have signs : ∀ c ∈ signs ['^'], c ∈ operatorSigns := by decide
  have comparing : ∀ c ∈ ['=', '!', '<', '>'], c ∈ operatorSigns := by decide
  have place : (Quote.after {} (x.flat n)).after operator = {} :=
    Quote.after_sign (first.inside_flat n) some fun c mem =>
      ⟨(plain c mem).1.1, (plain c mem).1.2.2.2.1⟩
  have whole : combination? (x.flat n ++ (operator ++ y.flat k)) = none := by
    refine combination?_eq_none (Quote.outside_append.2 ⟨?_, Quote.outside_append.2 ⟨?_, ?_⟩⟩)
    · exact (first.unsigned_flat n).imp fun c other sign => other (signs c sign)
    · exact Quote.outside_of_forall fun c mem => (plain c mem).2.2.2
    · rw [place]
      exact (second.unsigned_flat k).imp fun c other sign => other (signs c sign)
  have cut := comparison?_append mem left.some
    ((first.unsigned_flat n).imp fun c other sign => other (comparing c sign))
    (first.inside_flat n) right.some (second.head_flat k)
  have items : ∀ item ∈ [x.flat n, y.flat k], Item item :=
    List.forall_mem_cons.2 ⟨left, List.forall_mem_singleton.2 right⟩
  have joined : x.flat n ++ ',' :: y.flat k = joinWith [','] [x.flat n, y.flat k] := by
    simp [joinWith]
  have passes : Inner (joinWith [','] [x.flat n, y.flat k]) :=
    inner_joinWith (by decide) fun item mem => (items item mem).closed
  rw [basic.eq_def]
  simp only [whole, cut]
  rw [if_neg (by simp [left.some]), joined,
    arguments_eq items (Quote.solid_of_pass passes.choose_spec)]
  simp only [List.mapM_cons, List.mapM_nil, bind_assoc, pure_bind]

/-- The call of a comparison with two operands. -/
def compared (tags : Option TagStore) (f : Builtin) (first second : Compile Operand) :
    Compile Expr := do
  let a ← first
  let b ← second
  call tags f.name.toList [a, b]

/-- The operands of a comparison are flattened, one after the other. -/
theorem flatten_comparison (tags : Option TagStore) (fuel : Nat) {pieces : List Piece}
    (form : pieces.map Piece.solid = x.pieces ++ (operator.map .plain ++ y.pieces)) (d : Draft) :
    ∃ more k, StateT.run (flatten tags (fuel + 1) pieces) d =
        .ok (x.flat d.slots.length ++ (operator ++ y.flat k), { d with slots := d.slots ++ more }) ∧
      x.Held (d.slots ++ more) d.slots.length ∧ y.Held (d.slots ++ more) k := by
  obtain ⟨front, back, rfl, first, rest⟩ := List.map_eq_append_iff.1 form
  obtain ⟨between, back, rfl, sign, second⟩ := List.map_eq_append_iff.1 rest
  obtain ⟨parts, more, run, flat, held⟩ := flatten_term tags fuel first d
  obtain ⟨parts', more', run', flat', held'⟩ :=
    flatten_term tags fuel second { d with slots := d.slots ++ more }
  simp only [] at run' flat' held'
  rw [List.append_assoc] at run' held'
  refine ⟨more ++ more', (d.slots ++ more).length, ?_, held.mono ⟨more', List.append_assoc ..⟩,
    held'⟩
  have signs : (operator.map ([·])).flatten = operator := List.flatMap_singleton' operator
  rw [flatten_succ, List.mapM_append, List.mapM_append, eq_map_plain sign, mapM_part_plain]
  simp only [bind_assoc, pure_bind]
  rw [bind_run_of_ok run, bind_run_of_ok run', pure_run, List.flatten_append, List.flatten_append,
    signs, flat, flat']

theorem local_compared (tags : Option TagStore) (f : Builtin) {first second : Compile Operand}
    (left : Local first) (right : Local second) : Local (compared tags f first second) :=
  left.bind fun _ => right.bind fun _ => .call ..

/-- The text of a comparison is an item. -/
theorem item_comparison (first : x.Proper) (second : y.Proper)
    (mem : (operator, f) ∈ Builtin.comparisons) : Item (x.text ++ (operator ++ y.text)) := by
  obtain ⟨some, plain, -⟩ := operator_facts mem
  exact .around (.of_proper first) some (fun c mem => (plain c mem).1)
    (fun mem => (plain ',' mem).2.1 rfl) (.of_proper second)

/-- A comparison is what its operands are behind their placeholders, and then the call. -/
theorem start_comparison (tags : Option TagStore) (first : x.Proper) (second : y.Proper)
    (mem : (operator, f) ∈ Builtin.comparisons) {text : List Char}
    (form : solid text = x.text ++ (operator ++ y.text))
    (enough : 4 * text.count '(' + 6 ≤ fuel) (d : Draft) : ∃ k more, StateT.run (start tags fuel text) d =
      (StateT.run (compared tags f (x.referred tags d.slots.length) (y.referred tags k)) d).map
        fun (e, d') => (e, { d' with slots := d.slots ++ more }) := by
  obtain ⟨fuel, rfl⟩ : ∃ k, fuel = k + 3 := ⟨fuel - 3, by omega⟩
  have item := item_comparison first second mem
  obtain ⟨c, inside, sign⟩ := (operator_facts mem).2.2
  have composite : Composite (x.text ++ (operator ++ y.text)) := ⟨c, by simp [inside], sign⟩
  have parens : (solid text).count '(' = text.count '(' := Quote.count_solid {} rfl
  rw [form, List.count_append, List.count_append] at parens
  obtain ⟨pieces, same, -, started⟩ := start_of_solid tags (fuel + 2) form item.closed.inner.tight
    (steady_of_form form item.smooth) composite (piecesOf_comparison first second mem)
  obtain ⟨more, k, run, held, held'⟩ := flatten_comparison tags (fuel + 1) same d
  have reads : Acts (d.slots ++ more)
      (basic tags (fuel + 2) (x.flat d.slots.length ++ (operator ++ y.flat k)))
      (compared tags f (x.referred tags d.slots.length) (y.referred tags k)) := by
    rw [basic_terms first second mem]
    refine (flat_acts first held (by omega)).bind (fun a => ?_) fun a => ?_
    · exact (flat_acts second held' (by omega)).bind (fun b => .of_local (.call ..)) fun b => .call ..
    · exact (y.local_referred tags k).bind fun b => .call ..
  obtain ⟨more', run'⟩ := reads { d with slots := d.slots ++ more } (List.prefix_refl _)
  refine ⟨k, more ++ more', ?_⟩
  rw [(local_compared tags f (x.local_referred tags _) (y.local_referred tags k)).run_eq] at run'
  rw [started, bind_run_of_ok run, run']
  cases StateT.run (compared tags f (x.referred tags d.slots.length) (y.referred tags k)) d with
  | error failure => rfl
  | ok result => simp [Except.map]

/-! ### Outcomes -/

/-- There is enough fuel for the parentheses of a text. -/
theorem parens_le_fuelFor (text : List Char) : 4 * text.count '(' + 6 ≤ fuelFor text := by
  have twice : 8 * 2 * (text.count '(' + 2) ≤ fuelFor text :=
    Nat.mul_le_mul_right _ (Nat.mul_le_mul_left 8 (Nat.le_add_left _ _))
  omega

theorem blank_of_solid {text : List Char} {c : Char} (mem : c ∈ solid text)
    (black : Text.isBlank c = false) : Text.blank text = false := by
  have inside : c ∈ text := (Quote.solid_sublist _ _).subset mem
  exact List.all_eq_false.2 ⟨c, inside, by simp [black]⟩

/-- To compile the text is to take the step, but for the slots. -/
structure Starts (tags : Option TagStore) (text : String) (m : Compile Expr) : Prop where
  written : Text.blank text.toList = false
  aside : Local m
  started : ∃ more, StateT.run (start tags (fuelFor text.toList) text.toList) {} =
    (StateT.run m {}).map fun (e, d) => (e, { d with slots := more })

namespace Starts

variable {s t : String} {m : Compile Expr}

theorem compile_eq_match (h : Starts tags s m) : compile tags s =
    match StateT.run m {} with
    | .ok (e, d) => if e.kind = .bool then .ok (compiledOf e d) else .error (.notBoolean e.canonical)
    | .error (.rejected e) => .error e
    | .error .exhausted => .error (.unsupported s) := by
  obtain ⟨more, started⟩ := h.started
  rw [compile, Compile.run_eq, h.written, started]
  cases StateT.run m {} with
  | error failure => cases failure <;> rfl
  | ok result =>
    obtain ⟨e, d⟩ := result
    simp only [Except.map, Except.bind, Bool.false_eq_true, if_false]
    by_cases kind : e.kind = .bool
    · rw [if_pos kind, if_pos kind]
      rfl
    · rw [if_neg kind, if_neg kind]

/-- What is the same step has the same outcome. -/
theorem compile_eq (first : Starts tags s m) (second : Starts tags t m) :
    compile tags s = compile tags t := by
  rw [first.compile_eq_match, second.compile_eq_match]
  have ends : Ends [] m := .of_local first.aside
  have ends := (ends {} (List.prefix_refl _)).1
  split <;> first | rfl | contradiction

theorem compile_of_error {e : CompileError} (h : Starts tags s m)
    (run : StateT.run m {} = .error (.rejected e)) : compile tags s = .error e := by
  rw [h.compile_eq_match, run]

/-- A comparison starts with its operands behind their placeholders. -/
theorem of_comparison (tags : Option TagStore) (first : x.Proper) (second : y.Proper)
    (mem : (operator, f) ∈ Builtin.comparisons)
    (form : solid s.toList = x.text ++ (operator ++ y.text)) :
    ∃ n k, Starts tags s (compared tags f (x.referred tags n) (y.referred tags k)) := by
  obtain ⟨k, more, started⟩ :=
    start_comparison tags first second mem form (parens_le_fuelFor s.toList) {}
  obtain ⟨c, inside, sign⟩ := (operator_facts mem).2.2
  refine ⟨0, k, blank_of_solid (c := c) (by simp [form, inside]) ?_, ?_, more, started⟩
  · have black : ∀ c ∈ ['(', '=', '<', '>'], Text.isBlank c = false := by decide
    exact black c sign
  · exact local_compared tags f (x.local_referred tags _) (y.local_referred tags k)

/-- The call of the function starts with its operands. -/
theorem of_call (tags : Option TagStore) (first : x.Proper) (second : y.Proper)
    (mem : (operator, f) ∈ Builtin.comparisons)
    (form : solid s.toList = (Term.call f.name [x, y]).text) :
    Starts tags s (compared tags f (x.meaning tags) (y.meaning tags)) := by
  have all : ∀ p ∈ Builtin.comparisons, Builtin.ofName? p.2.name = some p.2 := by
    decide +kernel
  have each : ∀ t ∈ [x, y], t.Proper :=
    List.forall_mem_cons.2 ⟨first, List.forall_mem_singleton.2 second⟩
  have fuel := parens_le_fuelFor s.toList
  obtain ⟨more, started⟩ := start_terms tags (all _ mem) each form
    (Nat.le_of_add_right_le fuel) {} (List.prefix_refl _)
  have same : termMeanings tags [x, y] >>= call tags f.name.toList =
      compared tags f (x.meaning tags) (y.meaning tags) := by
    simp only [termMeanings, compared, bind_assoc, pure_bind]
  rw [same] at started
  refine ⟨blank_of_solid (c := '(') ?_ rfl, ?_, more, started⟩
  · rw [form, Term.text]
    simp
  · exact local_compared tags f (x.local_meaning tags) (y.local_meaning tags)

end Starts

/-! ### Operands that are not single -/

/-- Behind a placeholder an operand is what it is, or not the only one. -/
theorem referred_run (tags : Option TagStore) (n : Nat) (t : Term) (d : Draft) :
    StateT.run (t.referred tags n) d = StateT.run (t.meaning tags) d ∨
      ∃ key, StateT.run (t.referred tags n) d = .error (.rejected (.ambiguousReference key)) := by
  cases t with
  | call name args =>
    rw [Term.referred, Term.meaning]
    cases run : StateT.run (termMeanings tags args) d with
    | error failure =>
      left
      rw [bind_run_of_error run, bind_run_of_error run]
    | ok result =>
      obtain ⟨values, d₁⟩ := result
      rw [bind_run_of_ok run, bind_run_of_ok run]
      unfold value
      split
      · exact .inl rfl
      · exact .inr ⟨_, rfl⟩
  | _ => exact .inl rfl

theorem length_termMeanings {args : List Term} {values : List Operand} {d d' : Draft}
    (run : StateT.run (termMeanings tags args) d = .ok (values, d')) :
    values.length = args.length := by
  induction args generalizing values d with
  | nil =>
    cases run
    rfl
  | cons t args ih =>
    obtain ⟨a, d₁, -, rest⟩ := bind_eq_ok.1 run
    obtain ⟨values', d₂, run', done⟩ := bind_eq_ok.1 rest
    cases done
    rw [List.length_cons, ih run', List.length_cons]

/-- A call of no argument or of several ones yields no number. -/
theorem wrong_of_not_single {t : Term} (several : ¬t.Single) {a : Operand} {d d' : Draft}
    (run : StateT.run (t.meaning tags) d = .ok (a, d')) : notNumeric?.wrong a ≠ none := by
  cases t with
  | call name args =>
    obtain ⟨values, d₁, given, rest⟩ := bind_eq_ok.1 run
    obtain ⟨e, d₂, called, done⟩ := bind_eq_ok.1 rest
    obtain ⟨f, args', p, d₃, -, fit, -, -, rfl, -⟩ := call_eq_ok.1 called
    cases done
    have kind : (Expr.call f (String.ofList name.toList) args' p).kind ≠ .number := by
      intro number
      obtain ⟨a, rfl⟩ := exists_singleton number fit
      exact several (length_termMeanings given).symm
    rw [notNumeric?.wrong, if_neg kind]
    exact Option.some_ne_none _
  | _ => exact absurd trivial several

/-- No comparison has an operand that yields no number. -/
theorem compared_rejects (tags : Option TagStore) (several : ¬(x.Single ∧ y.Single))
    (mem : (operator, f) ∈ Builtin.comparisons) (d : Draft) : ∃ e,
      StateT.run (compared tags f (x.meaning tags) (y.meaning tags)) d = .error (.rejected e) := by
  have ends : Ends [] (compared tags f (x.meaning tags) (y.meaning tags)) :=
    .of_local (local_compared tags f (x.local_meaning tags) (y.local_meaning tags))
  cases run : StateT.run (compared tags f (x.meaning tags) (y.meaning tags)) d with
  | error failure =>
    cases failure with
    | rejected e => exact ⟨e, rfl⟩
    | exhausted => exact absurd run (ends d List.nil_prefix).1
  | ok result =>
    obtain ⟨e, d'⟩ := result
    obtain ⟨a, d₁, first, rest⟩ := bind_eq_ok.1 run
    obtain ⟨b, d₂, second, called⟩ := bind_eq_ok.1 rest
    obtain ⟨f', args, p, d₃, named, -, numeric, -⟩ := call_eq_ok.1 called
    have all : ∀ p ∈ Builtin.comparisons, Builtin.ofName? p.2.name = some p.2 ∧
        p.2.signature = .numbers := by
      decide +kernel
    obtain ⟨named', signature⟩ := all _ mem
    rw [String.ofList_toList, named'] at named
    cases named
    have right : List.findSome? notNumeric?.wrong [a, b] = none := by rwa [signature] at numeric
    rw [List.findSome?_eq_none_iff] at right
    refine absurd ⟨?_, ?_⟩ several
    · by_contra several
      exact wrong_of_not_single several first (right a (by simp))
    · by_contra several
      exact wrong_of_not_single several second (right b (by simp))

/-- Behind placeholders, operands are compared as they are, or one of them is not the only one. -/
theorem compared_referred (tags : Option TagStore) (f : Builtin) (x y : Term) (n k : Nat)
    (d : Draft) :
    StateT.run (compared tags f (x.referred tags n) (y.referred tags k)) d =
        StateT.run (compared tags f (x.meaning tags) (y.meaning tags)) d ∨
      ∃ key, StateT.run (compared tags f (x.referred tags n) (y.referred tags k)) d =
        .error (.rejected (.ambiguousReference key)) := by
  unfold compared
  obtain same | ⟨key, refused⟩ := referred_run tags n x d
  · cases run : StateT.run (x.meaning tags) d with
    | error failure =>
      left
      rw [bind_run_of_error run, bind_run_of_error (same.trans run)]
    | ok result =>
      obtain ⟨a, d₁⟩ := result
      rw [bind_run_of_ok run, bind_run_of_ok (same.trans run)]
      obtain same' | ⟨key, refused⟩ := referred_run tags k y d₁
      · left
        rw [StateT.run_bind, StateT.run_bind, same']
      · exact .inr ⟨key, bind_run_of_error refused⟩
  · exact .inr ⟨key, bind_run_of_error refused⟩

/-- A comparison between operands is compiled like the call of its function with them, wherever the
blanks are: to the same condition or the same error, unless an operand is a call that has not
exactly one argument. Then neither is accepted, and the errors are the same or the comparison is
said to have an ambiguous reference. -/
theorem comparison_like_call (tags : Option TagStore) {operator : List Char} {f : Builtin}
    (mem : (operator, f) ∈ Builtin.comparisons) {x y : Term} (first : x.Proper)
    (second : y.Proper) {comparison called : String}
    (form : solid comparison.toList = x.text ++ (operator ++ y.text))
    (form' : solid called.toList = (Term.call f.name [x, y]).text) :
    (x.Single ∧ y.Single → compile tags comparison = compile tags called) ∧
      (¬(x.Single ∧ y.Single) → ∃ e e', compile tags comparison = .error e ∧
        compile tags called = .error e' ∧ (e = e' ∨ ∃ key, e = .ambiguousReference key)) := by
  obtain ⟨n, k, starts⟩ := Starts.of_comparison tags first second mem form
  have starts' := Starts.of_call tags first second mem form'
  refine ⟨fun ⟨single, single'⟩ => ?_, fun several => ?_⟩
  · rw [Term.referred_of_single single, Term.referred_of_single single'] at starts
    exact starts.compile_eq starts'
  · obtain ⟨e', refused⟩ := compared_rejects tags several mem {}
    obtain same | ⟨key, ambiguous⟩ := compared_referred tags f x y n k {}
    · exact ⟨e', e', starts.compile_of_error (same.trans refused), starts'.compile_of_error refused,
        .inl rfl⟩
    · exact ⟨_, e', starts.compile_of_error ambiguous, starts'.compile_of_error refused,
        .inr ⟨key, rfl⟩⟩

/-- An operand may be a call, with blanks in it. -/
theorem comparison_of_spaced_call :
    Term.Proper (.word "age".toList) ∧ Term.Proper (.call "h2s" [.word ['3']]) ∧
      solid "age >= h2s( 3 )".toList = "age>=h2s(3)".toList ∧
      compile none "age >= h2s( 3 )" = compile none "isGE(age, h2s(3))" := by
  have first : Term.Proper (.word "age".toList) := .word (by decide) (by decide)
  have three : Term.Proper (.word ['3']) := .word (by decide) (by decide)
  have named : Builtin.ofName? "h2s" = some .hoursToSeconds := by decide +kernel
  have second : Term.Proper (.call "h2s" [.word ['3']]) :=
    .call named (List.forall_mem_singleton.2 three)
  have mem : (['>', '='], Builtin.isGE) ∈ Builtin.comparisons := by decide
  exact ⟨first, second, by decide +kernel,
    (comparison_like_call none mem first second (by decide +kernel) (by decide +kernel)).1
      ⟨trivial, rfl⟩⟩

/-- The errors differ where an operand is a call without arguments: the comparison looks for the one
value of a placeholder before it asks for a number. -/
theorem comparison_unlike_call :
    Term.Proper (.call "isPaused" []) ∧ Term.Proper (.word ['1']) ∧
      (['>'], Builtin.isGT) ∈ Builtin.comparisons ∧
      solid "isPaused() > 1".toList =
        (Term.call "isPaused" []).text ++ (['>'] ++ (Term.word ['1']).text) ∧
      solid "isGT(isPaused(),1)".toList =
        (Term.call Builtin.isGT.name [.call "isPaused" [], .word ['1']]).text ∧
      (∃ key, compile none "isPaused() > 1" = .error (.ambiguousReference key)) ∧
      ∃ text, compile none "isGT(isPaused(),1)" = .error (.notNumeric text) := by
  have named : Builtin.ofName? "isPaused" = some .isPaused := by decide +kernel
  have ambiguous : (compile none "isPaused() > 1").map (fun _ => ()) =
      .error (.ambiguousReference "{0}") := by decide +kernel
  have notNumeric : (compile none "isGT(isPaused(),1)").map (fun _ => ()) =
      .error (.notNumeric "isPaused()") := by decide +kernel
  exact ⟨.call named (by simp), .word (by decide) (by decide), by decide, by decide +kernel,
    by decide +kernel, ⟨_, error_of_map ambiguous⟩, ⟨_, error_of_map notNumeric⟩⟩

end Compile

end TagRules

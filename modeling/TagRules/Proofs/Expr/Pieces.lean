import TagRules.Proofs.Expr.Outside
import TagRules.Proofs.Expr.Token

/-!
# The pieces of a printed expression

Where the texts of all arguments are closed, so is the text of an expression, and it is cut at its
top-level parentheses into the pieces that it was printed from. One of these takes a slot, and the
text with the placeholder of that slot is flat.
-/

namespace TagRules

/-- The text of an argument that is no expression can be cut out whole and read again. -/
def Operand.Legible : Operand → Prop
  | .text s => Closed ('"' :: s.toList ++ ['"'])
  | .number n => n.Writable
  | .keyword _ => True
  | .bare word => Compile.Token word.toList (.bare word)
  | .expr _ => True

/-- The characters between the outermost parentheses of an expression. -/
def Expr.inside : Expr → List Char
  | .literal _ => []
  | .not e => e.chars
  | .or es => joinWith ['|', '|'] (exprsChars es)
  | .and es => joinWith ['&', '&'] (exprsChars es)
  | .xor es => joinWith ['^'] (exprsChars es)
  | .call _ _ args _ => joinWith [','] (operandsChars args)

/-- The characters before the outermost parentheses of an expression. -/
def Expr.front : Expr → List Char
  | .not _ => ['!']
  | .call _ name _ _ => name.toList
  | _ => []

/-- The piece that the outermost parentheses of an expression are cut out as. -/
def Expr.piece : Expr → Piece
  | .call _ _ args _ => .arguments (joinWith [','] (operandsChars args))
  | e => .group e.inside

/-- What the slot of an expression holds. -/
def Expr.slot : Expr → Slot
  | .not e => .expr e.prepared
  | .call _ _ args _ => .arguments (joinWith [','] (operandsChars args))
  | e => .expr e.prepared

/-- The flat text of an expression whose slot has a number. -/
def Expr.flat (n : Nat) : Expr → List Char
  | .not _ => '!' :: Compile.placeholder n
  | .call _ name _ _ => name.toList ++ '(' :: Compile.placeholder n ++ [')']
  | _ => Compile.placeholder n

/-- Put several pieces in front. -/
def consPieces (pieces : List Piece) (r : List Piece × Ending) : List Piece × Ending :=
  (pieces ++ r.1, r.2)

/-- Without parentheses and blanks outside of literals, characters are pieces of their own. -/
theorem piecesFrom_outside {q : Quote} {s : List Char}
    (plain : q.Outside (fun c => c ≠ '(' ∧ c ≠ ')' ∧ Text.isBlank c = false) s) (afterName : Bool)
    (rest : List Char) : piecesFrom q afterName (s ++ rest) = consPieces (s.map .plain)
      (piecesFrom (q.after s) ((s.getLast?.map Text.isLetterOrDigit).getD afterName) rest) := by
  induction s generalizing q afterName with
  | nil => rfl
  | cons c s ih =>
    have step : piecesFrom q afterName (c :: (s ++ rest)) =
        consPiece (.plain c) (piecesFrom (q.next c) (Text.isLetterOrDigit c) (s ++ rest)) := by
      rw [piecesFrom.eq_def]
      simp only []
      split
      · rfl
      · next out =>
        obtain ⟨notOpen, notClose, solid⟩ := plain.1 (by simpa using out)
        rw [if_neg notOpen, if_neg notClose, if_neg (by simp [solid])]
    rw [List.cons_append, step, ih plain.2]
    cases s <;> rfl

/-- Ordinary characters leave the place as it is. -/
theorem Quote.after_ordinary {s : List Char} (ordinary : ∀ c ∈ s, Ordinary c) :
    Quote.after {} s = {} := by
  induction s with
  | nil => rfl
  | cons c s ih =>
    rw [after, List.foldl_cons, next_of_ordinary (ordinary c List.mem_cons_self)]
    exact ih fun d mem => ordinary d (List.mem_cons_of_mem _ mem)

/-- Ordinary characters are pieces of their own. -/
theorem piecesFrom_ordinary {s : List Char} (ordinary : ∀ c ∈ s, Ordinary c) (afterName : Bool)
    (rest : List Char) : piecesFrom {} afterName (s ++ rest) = consPieces (s.map .plain)
      (piecesFrom {} ((s.getLast?.map Text.isLetterOrDigit).getD afterName) rest) := by
  have cut := piecesFrom_outside (q := {}) (Quote.outside_of_forall fun c mem =>
    ⟨(ordinary c mem).2.1, (ordinary c mem).2.2.1, (ordinary c mem).2.2.2.2⟩) afterName rest
  rwa [Quote.after_ordinary ordinary] at cut

/-- Parentheses are cut out whole. -/
theorem piecesFrom_paren {s : List Char} (inner : Inner s) (afterName : Bool) (rest : List Char) :
    piecesFrom {} afterName ('(' :: s ++ ')' :: rest) =
      consPiece (if afterName then .arguments s else .group s) (piecesFrom {} false rest) := by
  have trimmed := inner.trim_eq_self
  obtain ⟨escaped, passes⟩ := inner
  have opens : Quote.next {} '(' = {} := rfl
  have closes : Quote.next ⟨false, escaped⟩ ')' = {} := Quote.next_paren escaped (.inr rfl)
  rw [List.cons_append, piecesFrom.eq_def]
  simp only [opens, Bool.false_eq_true, if_false, if_true]
  rw [piecesWithin_pass passes, List.append_nil, piecesWithin.eq_def]
  simp only [closes, Bool.false_eq_true, if_false, List.reverse_reverse, trimmed]
  rfl

/-- A name with parentheses after it is cut into its letters and the arguments. -/
theorem piecesFrom_call {name inner : List Char} (some : name ≠ []) (letters : ∀ c ∈ name, Letter c)
    (closed : Inner inner) (rest : List Char) :
    piecesFrom {} false (name ++ ('(' :: inner ++ ')' :: rest)) =
      consPieces (name.map .plain) (consPiece (.arguments inner) (piecesFrom {} false rest)) := by
  have named : (name.getLast?.map Text.isLetterOrDigit).getD false = true := by
    rw [List.getLast?_eq_some_getLast some, Option.map_some, Option.getD_some]
    exact (letters _ (List.getLast_mem some)).2.2.2
  rw [piecesFrom_ordinary fun c mem => (letters c mem).1, named, piecesFrom_paren closed]
  rfl

/-- What a placeholder is made of. -/
theorem Compile.placeholder_ordinary (n : Nat) :
    ∀ c ∈ placeholder n, Ordinary c ∧ Neutral c ∧ c ∉ [',', '!'] := by
  intro c mem
  rcases List.mem_append.1 mem with mem | mem
  · rcases List.mem_cons.1 mem with rfl | mem
    · decide
    · obtain ⟨ordinary, neutral, other⟩ :=
        inWord_of_isDigit (List.all_eq_true.1 (Digits.all_isDigit_ofNat n) c mem)
      simp only [List.mem_cons, List.not_mem_nil, or_false, not_or] at other ⊢
      exact ⟨ordinary, neutral, other.1, other.2.2⟩
  · rw [List.mem_singleton.1 mem]
    decide

/-- A placeholder is neutral and not blank. -/
theorem Compile.placeholder_neutral (n : Nat) :
    ∀ c ∈ placeholder n, Neutral c ∧ Text.isBlank c = false := fun c mem =>
  ⟨(placeholder_ordinary n c mem).2.1, (placeholder_ordinary n c mem).1.2.2.2.2⟩

theorem Compile.closed_placeholder (n : Nat) : Closed (placeholder n) :=
  closed_of_ordinary fun c mem => ⟨(placeholder_ordinary n c mem).1, fun comma =>
    (placeholder_ordinary n c mem).2.2 (comma ▸ List.mem_cons_self)⟩

namespace Expr

variable {separator : List Char} {combine : List Expr → Expr}

theorem inside_combine (mem : (separator, combine) ∈ Compile.combinations) (es : List Expr) :
    (combine es).inside = joinWith separator (es.map (·.chars)) := by
  cases Compile.Combination.of_mem mem <;> rw [inside, exprsChars_eq]

theorem front_combine (mem : (separator, combine) ∈ Compile.combinations) (es : List Expr) :
    (combine es).front = [] ∧ (combine es).piece = .group (combine es).inside ∧
      (combine es).slot = .expr (combine es).prepared ∧
      ∀ n, (combine es).flat n = Compile.placeholder n := by
  cases Compile.Combination.of_mem mem <;> exact ⟨rfl, rfl, rfl, fun _ => rfl⟩

namespace Formed

variable {e : Expr}

/-- The text of an expression ends with its only parentheses at the top. -/
theorem chars_eq {leaf : Operand → Prop} (h : e.Formed leaf) :
    e.chars = e.front ++ '(' :: e.inside ++ [')'] := by
  cases h with
  | notLiteral b => rw [Expr.chars]; rfl
  | not => rw [Expr.chars]; rfl
  | combination mem =>
    rw [chars_combine mem, (front_combine mem _).1, inside_combine mem]
    rfl
  | call => rw [Expr.chars]; rfl

theorem paren_mem {leaf : Operand → Prop} (h : e.Formed leaf) : '(' ∈ e.chars := by
  rw [h.chars_eq]
  simp

/-- What stands before the parentheses. -/
theorem front_letters {leaf : Operand → Prop} (h : e.Formed leaf) :
    ∀ c ∈ e.front, Ordinary c ∧ Neutral c ∧ c ∉ [',', '{'] := by
  cases h with
  | notLiteral =>
    change ∀ c ∈ ['!'], _
    decide
  | not =>
    change ∀ c ∈ ['!'], _
    decide
  | combination mem =>
    rw [(front_combine mem _).1]
    exact fun c mem => absurd mem List.not_mem_nil
  | call named =>
    intro c mem
    have letter := (Builtin.letters named).2 c mem
    refine ⟨letter.1, letter.2.1, fun mem => letter.2.2.1 ?_⟩
    exact List.mem_append_left ['!'] mem

/-- The text of a legible argument is closed if it is not an expression, or a closed one. -/
theorem closed_operand {a : Operand} (legible : a.Legible)
    (nested : ∀ e, .expr e = a → Closed e.chars) : Closed a.chars := by
  cases a with
  | text s => rwa [Operand.chars]
  | number n =>
    rw [Operand.chars]
    exact (Compile.token_number legible).closed
  | keyword k =>
    rw [Operand.chars]
    exact (Compile.token_keyword k).closed
  | bare word =>
    rw [Operand.chars]
    exact legible.closed
  | expr e =>
    rw [Operand.chars]
    exact nested e rfl

/-- The text of an expression is closed if what stands within its parentheses can stand there. -/
theorem closed_of_inner {leaf : Operand → Prop} (h : e.Formed leaf) (inner : Inner e.inside) :
    Closed e.chars := by
  rw [h.chars_eq, List.append_assoc]
  refine Closed.ordinary_append (fun c mem => (h.front_letters c mem).1) (fun comma => ?_)
    (closed_paren inner)
  exact (h.front_letters ',' comma).2.2 (by decide)

/-- The text of an expression is closed, and what stands within its parentheses can stand there. -/
theorem inner (h : e.Formed Operand.Legible) : Inner e.inside := by
  induction h with
  | notLiteral b => cases b <;> exact ⟨false, by decide⟩
  | not formed kind ih => exact (formed.closed_of_inner ih).inner
  | combination mem several each kinds ih =>
    rename_i separator combine es
    obtain ⟨c, back, rfl, ordinary⟩ := Compile.separator_eq mem
    rw [inside_combine mem]
    refine inner_joinWith (fun d mem => (ordinary d mem).1) fun item mem => ?_
    obtain ⟨e, here, rfl⟩ := List.mem_map.1 mem
    exact (each e here).closed_of_inner (ih e here)
  | call named fit numeric spelled legible nested ih =>
    rename_i f name args p
    change Inner (joinWith [','] (operandsChars args))
    rw [operandsChars_eq]
    refine inner_joinWith (by decide) fun item mem => ?_
    obtain ⟨a, here, rfl⟩ := List.mem_map.1 mem
    refine closed_operand (legible a here) fun e same => ?_
    subst same
    exact (nested e here).closed_of_inner (ih e here)

theorem closed (h : e.Formed Operand.Legible) : Closed e.chars :=
  h.closed_of_inner h.inner

/-- The pieces of the text of an expression. -/
theorem piecesFrom_chars (h : e.Formed Operand.Legible) (rest : List Char) :
    piecesFrom {} false (e.chars ++ rest) =
      consPieces (e.front.map .plain) (consPiece e.piece (piecesFrom {} false rest)) := by
  have ordinary := fun c mem => (h.front_letters c mem).1
  rw [h.chars_eq, List.append_assoc, List.append_assoc, piecesFrom_ordinary ordinary]
  have paren := piecesFrom_paren h.inner
    ((e.front.getLast?.map Text.isLetterOrDigit).getD false) rest
  rw [List.singleton_append, paren]
  congr 2
  cases h with
  | notLiteral => rfl
  | not => rfl
  | combination mem =>
    obtain ⟨front, piece, -⟩ := front_combine mem ‹_›
    rw [front, piece]
    rfl
  | call named =>
    obtain ⟨some, letters⟩ := Builtin.letters named
    rename_i f name args p _ _ _ _ _
    have last := letters _ (List.getLast_mem some)
    have front : (Expr.call f name args p).front = name.toList := rfl
    rw [front, List.getLast?_eq_some_getLast some, Option.map_some, Option.getD_some,
      last.2.2.2, if_pos rfl]
    rfl

/-- The flat text of an expression is neutral and not blank. -/
theorem flat_neutral {leaf : Operand → Prop} (h : e.Formed leaf) (n : Nat) :
    e.flat n ≠ [] ∧ ∀ c ∈ e.flat n, Neutral c ∧ Text.isBlank c = false := by
  have here := Compile.placeholder_neutral n
  have letters := h.front_letters
  have front : ∀ c ∈ e.front, Neutral c ∧ Text.isBlank c = false :=
    fun c mem => ⟨(letters c mem).2.1, (letters c mem).1.2.2.2.2⟩
  have negation (x : Expr) : (Expr.not x).flat n ≠ [] ∧
      ∀ c ∈ (Expr.not x).flat n, Neutral c ∧ Text.isBlank c = false := by
    refine ⟨List.cons_ne_nil _ _, fun c mem => ?_⟩
    rcases List.mem_cons.1 mem with rfl | mem
    · decide
    · exact here c mem
  cases h with
  | notLiteral => exact negation _
  | not => exact negation _
  | combination mem =>
    rw [(front_combine mem _).2.2.2]
    exact ⟨List.cons_ne_nil _ _, here⟩
  | call =>
    refine ⟨by simp [flat], fun c mem => ?_⟩
    simp only [flat, List.mem_append, List.mem_cons, List.not_mem_nil, or_false] at mem
    rcases mem with (mem | rfl | mem) | rfl
    · exact front c mem
    · decide
    · exact here c mem
    · decide

end Formed

end Expr

end TagRules

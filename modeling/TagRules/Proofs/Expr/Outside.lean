import TagRules.Proofs.Expr.Lossless

/-!
# What is outside of literals

`Quote.Outside p` says that the characters of a text that are outside of its literals satisfy `p`,
and `Quote.solid` is a text without its blanks there. A text is `Steady` if its literals are those
of its solid form; a backslash can prevent that if nothing but blanks is between it and a quote. The
cuts go through a steady text and its solid form side by side: they find the same arguments, and
pieces that are each other's solid forms. Texts with no backslash outside of their literals
(`Unescaped`) are steady.
-/

namespace TagRules

namespace Quote

variable {p p' : Char → Prop} {q q' : Quote} {c : Char} {s t : List Char}

theorem after_of_pass {commas : Bool} {depth depth' : Nat}
    (h : q.pass commas depth s = some (q', depth')) : q.after s = q' := by
  induction s generalizing q depth with
  | nil =>
    cases h
    rfl
  | cons c s ih =>
    obtain ⟨next, -, rest⟩ := pass_cons.1 h
    exact ih rest

/-- The characters outside of literals satisfy a condition. A quote that ends a literal is outside.
-/
def Outside (p : Char → Prop) (q : Quote) : List Char → Prop
  | [] => True
  | c :: rest => ((q.next c).inside = false → p c) ∧ (q.next c).Outside p rest

instance decidableOutside (p : Char → Prop) [DecidablePred p] (q : Quote) :
    (s : List Char) → Decidable (q.Outside p s)
  | [] => inferInstanceAs (Decidable True)
  | c :: rest =>
    have := decidableOutside p (q.next c) rest
    inferInstanceAs (Decidable (_ ∧ _))

/-- A text without its blanks outside of literals. -/
def solid (q : Quote) : List Char → List Char
  | [] => []
  | c :: rest =>
    if !(q.next c).inside && Text.isBlank c then (q.next c).solid rest
    else c :: (q.next c).solid rest

theorem Outside.imp (h : q.Outside p s) (le : ∀ c, p c → p' c) : q.Outside p' s := by
  induction s generalizing q with
  | nil => trivial
  | cons c s ih => exact ⟨fun out => le c (h.1 out), ih h.2⟩

theorem outside_of_forall (plain : ∀ c ∈ s, p c) : q.Outside p s := by
  induction s generalizing q with
  | nil => trivial
  | cons c s ih =>
    exact ⟨fun _ => plain c List.mem_cons_self, ih fun d mem => plain d (List.mem_cons_of_mem _ mem)⟩

theorem outside_append : q.Outside p (s ++ t) ↔ q.Outside p s ∧ (q.after s).Outside p t := by
  induction s generalizing q with
  | nil => exact (and_iff_right trivial).symm
  | cons c s ih => exact (and_congr_right fun _ => ih).trans and_assoc.symm

theorem solid_append : q.solid (s ++ t) = q.solid s ++ (q.after s).solid t := by
  induction s generalizing q with
  | nil => rfl
  | cons c s ih =>
    rw [List.cons_append, solid, solid, ih]
    split <;> rfl

theorem solid_sublist (q : Quote) (s : List Char) : (q.solid s).Sublist s := by
  induction s generalizing q with
  | nil => exact .slnil
  | cons c s ih =>
    rw [solid]
    split
    · exact (ih _).cons c
    · exact (ih _).cons_cons c

theorem ink_solid (q : Quote) (s : List Char) : Text.ink (q.solid s) = Text.ink s := by
  induction s generalizing q with
  | nil => rfl
  | cons c s ih =>
    rw [solid, Text.ink_cons]
    split
    · next blank =>
      simp only [Bool.and_eq_true] at blank
      rw [ih, if_pos blank.2, Nat.add_zero]
    · rw [Text.ink_cons, ih]

theorem count_solid (q : Quote) (black : Text.isBlank c = false) :
    (q.solid s).count c = s.count c := by
  induction s generalizing q with
  | nil => rfl
  | cons d s ih =>
    rw [solid, List.count_cons]
    split
    · next blank =>
      simp only [Bool.and_eq_true] at blank
      have other : d ≠ c := by
        rintro rfl
        simp [black] at blank
      rw [ih, if_neg (by simpa using other), Nat.add_zero]
    · rw [List.count_cons, ih]

theorem mem_solid (q : Quote) (black : Text.isBlank c = false) : c ∈ q.solid s ↔ c ∈ s := by
  rw [← List.count_pos_iff, count_solid q black, List.count_pos_iff]

/-- A text that passes has no blanks to lose. -/
theorem solid_of_pass {commas : Bool} {depth : Nat} {r : Quote × Nat}
    (h : q.pass commas depth s = some r) : q.solid s = s := by
  induction s generalizing q depth with
  | nil => rfl
  | cons c s ih =>
    obtain ⟨next, step, rest⟩ := pass_cons.1 h
    have kept : (!(q.next c).inside && Text.isBlank c) = false := by
      cases step with
      | inside within => simp [within]
      | opens _ paren => simp [paren, show Text.isBlank '(' = false from rfl]
      | closes _ paren => simp [paren, show Text.isBlank ')' = false from rfl]
      | plain _ _ _ solid => simp [solid]
    rw [solid, kept, ih rest]
    rfl

/-- A text that does not end with a blank does not do so without some blanks. -/
theorem getLast?_solid (q : Quote) (black : Text.isBlank c = false) :
    s.getLast? = some c → (q.solid s).getLast? = some c := by
  intro last
  obtain ⟨front, rfl⟩ := List.getLast?_eq_some_iff.1 last
  simp [solid_append, solid, black]

/-- A blank outside of literals stays at the place at the start. -/
theorem next_of_isBlank (blank : Text.isBlank c = true) : Quote.next {} c = {} :=
  next_eq (next_inside_of_isBlank blank) (by rintro rfl; exact absurd blank (by decide))

theorem solid_of_blank (blank : Text.blank s = true) : Quote.solid {} s = [] := by
  induction s with
  | nil => rfl
  | cons c s ih =>
    simp only [Text.blank, List.all_cons, Bool.and_eq_true] at blank
    rw [solid, next_of_isBlank blank.1, blank.1, ih blank.2]
    rfl

theorem after_of_blank (blank : Text.blank s = true) : Quote.after {} s = {} := by
  induction s with
  | nil => rfl
  | cons c s ih =>
    simp only [Text.blank, List.all_cons, Bool.and_eq_true] at blank
    rw [after, List.foldl_cons, next_of_isBlank blank.1]
    exact ih blank.2

end Quote

/-- After a sign outside of literals, the place is the one at the start. -/
theorem Quote.after_sign {q : Quote} {sign : List Char} (outside : q.inside = false)
    (some : sign ≠ []) (plain : ∀ c ∈ sign, isQuote c = false ∧ c ≠ '\\') : q.after sign = {} := by
  induction sign generalizing q with
  | nil => exact absurd rfl some
  | cons c sign ih =>
    obtain ⟨noQuote, noEscape⟩ := plain c List.mem_cons_self
    have next := Quote.next_eq ((Quote.next_of_not_isQuote noQuote).trans outside) noEscape
    cases sign with
    | nil => exact next
    | cons d sign =>
      rw [after, List.foldl_cons, next]
      exact ih rfl (List.cons_ne_nil d sign) fun e mem => plain e (List.mem_cons_of_mem _ mem)

/-- A text and its solid form agree on what is within literals, read from two places. -/
def Quote.Steady (q q' : Quote) : List Char → Prop
  | [] => q'.inside = q.inside
  | c :: rest =>
    if !(q.next c).inside && Text.isBlank c then (q.next c).Steady q' rest
    else q'.next c = q.next c ∧ (q.next c).Steady (q.next c) rest

/-- Where no backslash is outside of literals, blanks there leave the place as it is. -/
theorem Quote.steady_of_outside {q : Quote} {s : List Char} (start : q.inside = false → q = {})
    (plain : q.Outside (· ≠ '\\') s) : q.Steady q s := by
  induction s generalizing q with
  | nil => rfl
  | cons c s ih =>
    have later := ih (fun out => next_eq out (plain.1 out)) plain.2
    rw [Steady]
    split
    · next blank =>
      simp only [Bool.and_eq_true, Bool.not_eq_true'] at blank
      have out := (next_inside_of_isBlank blank.2).symm.trans blank.1
      have same : q.next c = q := by rw [start out, next_of_isBlank blank.2]
      rwa [same] at later ⊢
    · exact ⟨rfl, later⟩

/-- A text that is its own solid form is steady. -/
theorem Quote.steady_of_solid_eq {q : Quote} {s : List Char} (same : q.solid s = s) :
    q.Steady q s := by
  induction s generalizing q with
  | nil => rfl
  | cons c s ih =>
    rw [solid] at same
    rw [Steady]
    split at same
    · have short := (solid_sublist (q.next c) s).length_le
      rw [same, List.length_cons] at short
      omega
    · next kept =>
      rw [if_neg kept]
      exact ⟨rfl, ih (List.cons.inj same).2⟩

/-- The parts of a steady text are steady. -/
theorem Quote.Steady.append {q q' : Quote} {s t : List Char} (inside : q'.inside = q.inside)
    (h : q.Steady q' (s ++ t)) :
    q.Steady q' s ∧ ∃ r : Quote, r.inside = (q.after s).inside ∧ (q.after s).Steady r t := by
  induction s generalizing q q' with
  | nil => exact ⟨inside, q', inside, h⟩
  | cons c s ih =>
    rw [List.cons_append, Steady] at h
    rw [Steady]
    split at h
    · next blank =>
      rw [if_pos blank]
      simp only [Bool.and_eq_true] at blank
      exact ih (inside.trans (next_inside_of_isBlank blank.2).symm) h
    · next kept =>
      rw [if_neg kept]
      obtain ⟨first, rest⟩ := ih rfl h.2
      exact ⟨⟨h.1, first⟩, rest⟩

/-- Without the blanks at its ends a steady text is steady. -/
theorem Quote.Steady.trim {s : List Char} (h : Quote.Steady {} {} s) :
    Quote.Steady {} {} (Text.trim s) := by
  have skip (front t : List Char) (blank : Text.blank front = true)
      (h : Quote.Steady {} {} (front ++ t)) : Quote.Steady {} {} t := by
    induction front with
    | nil => exact h
    | cons c front ih =>
      simp only [Text.blank, List.all_cons, Bool.and_eq_true] at blank
      rw [List.cons_append, Steady, next_of_isBlank blank.1, blank.1] at h
      exact ih blank.2 h
  obtain ⟨front, back, blank, -, form⟩ := Text.exists_trim s
  rw [form] at h
  exact skip front _ blank (h.append rfl).1

/-- No quote of a text is escaped. -/
def Quote.Smooth (q : Quote) : List Char → Prop
  | [] => True
  | c :: rest => (isQuote c = true → q.escaped = false) ∧ (q.next c).Smooth rest

theorem Quote.smooth_append {q : Quote} {s t : List Char} :
    q.Smooth (s ++ t) ↔ q.Smooth s ∧ (q.after s).Smooth t := by
  induction s generalizing q with
  | nil => exact (and_iff_right trivial).symm
  | cons c s ih => exact (and_congr_right fun _ => ih).trans and_assoc.symm

theorem Quote.smooth_of_not_isQuote {q : Quote} {s : List Char}
    (plain : ∀ c ∈ s, isQuote c = false) : q.Smooth s := by
  induction s generalizing q with
  | nil => trivial
  | cons c s ih =>
    refine ⟨fun quote => ?_, ih fun d mem => plain d (List.mem_cons_of_mem _ mem)⟩
    simp [plain c List.mem_cons_self] at quote

/-- A text is steady if no quote of its solid form is escaped. -/
theorem Quote.steady_of_smooth {q q' : Quote} {s : List Char} (inside : q'.inside = q.inside)
    (escaped : q.escaped = true → q'.escaped = true) (smooth : q'.Smooth (q.solid s)) :
    q.Steady q' s := by
  induction s generalizing q q' with
  | nil => exact inside
  | cons c s ih =>
    rw [solid] at smooth
    rw [Steady]
    split
    · next blank =>
      rw [if_pos blank] at smooth
      simp only [Bool.and_eq_true] at blank
      refine ih (inside.trans (next_inside_of_isBlank blank.2).symm) (fun escaped => ?_) smooth
      have backslash : c = '\\' := by simpa [next] using escaped
      exact absurd blank.2 (backslash ▸ by decide)
    · next kept =>
      rw [if_neg kept] at smooth
      have same : q'.next c = q.next c := by
        cases quote : isQuote c with
        | false => simp [next, quote, inside]
        | true =>
          have plain := smooth.1 quote
          have plain' : q.escaped = false := by simpa [plain] using mt escaped
          simp [next, quote, inside, plain, plain']
      exact ⟨same, ih rfl id (same ▸ smooth.2)⟩

/-- A text without its blanks outside of literals. -/
def solid (s : List Char) : List Char :=
  Quote.solid {} s

/-- No backslash is outside of literals. -/
def Unescaped (s : List Char) : Prop :=
  Quote.Outside (· ≠ '\\') {} s

instance (s : List Char) : Decidable (Unescaped s) :=
  Quote.decidableOutside _ {} s

/-- A text that may stand in parentheses has no blanks to lose. -/
theorem Inner.solid_eq_self {s : List Char} (h : Inner s) : solid s = s := by
  obtain ⟨escaped, passes⟩ := h
  exact Quote.solid_of_pass passes

theorem Unescaped.steady {s : List Char} (h : Unescaped s) : Quote.Steady {} {} s :=
  Quote.steady_of_outside (fun _ => rfl) h

theorem Text.trimStart_append {front : List Char} (blank : Text.blank front = true) (s : List Char) :
    Text.trimStart (front ++ s) = Text.trimStart s :=
  List.dropWhile_append_of_pos (List.all_eq_true.1 blank)

theorem Text.trimEnd_append {back : List Char} (blank : Text.blank back = true) (s : List Char) :
    Text.trimEnd (s ++ back) = Text.trimEnd s := by
  rw [trimEnd, List.reverse_append, List.dropWhile_append_of_pos, trimEnd]
  exact fun c mem => List.all_eq_true.1 blank c (List.mem_reverse.1 mem)

/-- A trimmed text is what stands between blanks. -/
theorem Text.trim_eq {front s back : List Char} (blank : Text.blank front = true)
    (blank' : Text.blank back = true) (tight : Tight s) : Text.trim (front ++ s ++ back) = s := by
  rw [trim, List.append_assoc, trimStart_append blank]
  cases s with
  | nil =>
    have none := trimStart_append blank' []
    rw [List.append_nil] at none
    rw [List.nil_append, none]
    rfl
  | cons c s =>
    have begins (t : List Char) : trimStart (c :: t) = c :: t :=
      List.dropWhile_cons_of_neg (by simp [tight.1 c rfl])
    have whole := tight.trim_eq_self
    rw [trim, begins] at whole
    rw [List.cons_append, begins, ← List.cons_append, trimEnd_append blank', whole]

theorem Text.tight_trim (s : List Char) : Tight (Text.trim s) := by
  have heads (s : List Char) : ∀ c ∈ (s.dropWhile isBlank).head?, isBlank c = false := by
    intro c first
    have stops := List.head?_dropWhile_not isBlank s
    rw [first] at stops
    exact stops
  refine ⟨fun c first => heads s c ?_, fun c last => ?_⟩
  · have front := List.reverse_prefix.2 ((trimStart s).reverse.dropWhile_suffix isBlank)
    rw [List.reverse_reverse] at front
    obtain ⟨back, form⟩ := front
    rw [trim, trimEnd] at first
    rw [← trimStart, ← form, List.head?_append, first]
    rfl
  · rw [trim, trimEnd, List.getLast?_reverse] at last
    exact heads _ c last

theorem tight_solid {s : List Char} (tight : Tight s) : Tight (solid s) := by
  refine ⟨fun c first => ?_, fun c last => ?_⟩
  · cases s with
    | nil => cases first
    | cons d s =>
      have black := tight.1 d rfl
      rw [solid, Quote.solid, black, Bool.and_false] at first
      cases first
      exact black
  · rcases List.eq_nil_or_concat s with rfl | ⟨front, d, rfl⟩
    · cases last
    · have final := List.getLast?_concat (l := front) (a := d)
      rw [← List.concat_eq_append] at final
      have black := tight.2 d final
      rw [solid, Quote.getLast?_solid {} black final] at last
      cases last
      exact black

/-- A text without blanks at its ends does not lose everything. -/
theorem Tight.solid_ne_nil {s : List Char} (tight : Tight s) (some : s ≠ []) : solid s ≠ [] := by
  obtain ⟨c, rest, rfl⟩ := List.exists_cons_of_ne_nil some
  exact List.ne_nil_of_mem ((Quote.mem_solid {} (tight.1 c rfl)).2 List.mem_cons_self)

theorem blank_solid (s : List Char) : Text.blank (solid s) = Text.blank s := by
  rw [Bool.eq_iff_iff, Text.blank, Text.blank, List.all_eq_true, List.all_eq_true]
  refine ⟨fun all c mem => ?_, fun all c mem => all c ((Quote.solid_sublist _ _).subset mem)⟩
  cases black : Text.isBlank c with
  | true => rfl
  | false => rw [← black, all c ((Quote.mem_solid {} black).2 mem)]

theorem solid_trim (s : List Char) : solid (Text.trim s) = Text.trim (solid s) := by
  obtain ⟨front, back, blank, blank', form⟩ := Text.exists_trim s
  have lost : Text.blank ((Quote.after {} (front ++ Text.trim s)).solid back) = true :=
    List.all_eq_true.2 fun c mem => List.all_eq_true.1 blank' c ((Quote.solid_sublist _ _).subset mem)
  have whole : solid s = [] ++ solid (Text.trim s) ++
      (Quote.after {} (front ++ Text.trim s)).solid back := by
    refine (congrArg solid form).trans ?_
    rw [solid, Quote.solid_append, Quote.solid_append, Quote.solid_of_blank blank,
      Quote.after_of_blank blank]
    rfl
  rw [whole, Text.trim_eq rfl lost (tight_solid (Text.tight_trim s))]

variable {p : Char → Prop} {q : Quote} {s : List Char}

theorem Quote.Outside.trim (h : Quote.Outside p {} s) : Quote.Outside p {} (Text.trim s) := by
  obtain ⟨front, back, blank, -, form⟩ := Text.exists_trim s
  rw [form, outside_append, outside_append, after_of_blank blank] at h
  exact h.1.2

/-- The items of a list of arguments, with commas between them, are the list without its blanks outside of
literals. -/
theorem joinWith_argumentsFrom (q : Quote) (depth : Nat) (s : List Char) :
    joinWith [','] (argumentsFrom q depth s) = q.solid s := by
  induction s generalizing q depth with
  | nil => rfl
  | cons c s ih =>
    rw [argumentsFrom_cons, Quote.solid]
    split
    · next comma =>
      obtain ⟨-, rfl, -⟩ := comma
      rw [joinWith_cons _ _ (argumentsFrom_ne_nil _ _ _), ih, if_neg (by simp [Text.isBlank])]
      rfl
    · split
      · next blank => rw [ih, if_pos (by simp [blank])]
      · next kept => rw [joinWith_consFirst, ih, if_neg (by simpa using kept)]

theorem sheds_solid (q : Quote) (s : List Char) : Sheds s (q.solid s) := by
  induction s generalizing q with
  | nil => exact .nil
  | cons c s ih =>
    rw [Quote.solid]
    split
    · next blank =>
      simp only [Bool.and_eq_true] at blank
      exact .drop blank.2 (ih _)
    · exact .keep c (ih _)

/-- The items of a list of arguments, with commas between them, are the list without some blanks. -/
theorem sheds_argumentsOf (s : List Char) : Sheds s (joinWith [','] (argumentsOf s)) := by
  rw [argumentsOf, joinWith_argumentsFrom]
  exact sheds_solid {} s

/-- Blanks outside of literals make no difference to the items of a list of arguments. -/
theorem argumentsFrom_solid {q' : Quote} (steady : q.Steady q' s) (depth : Nat) :
    argumentsFrom q' depth (q.solid s) = argumentsFrom q depth s := by
  induction s generalizing q q' depth with
  | nil => rfl
  | cons c s ih =>
    rw [Quote.Steady] at steady
    rw [Quote.solid]
    split at steady
    · next blank =>
      rw [if_pos blank, ih steady]
      simp only [Bool.and_eq_true, Bool.not_eq_true'] at blank
      have other (d : Char) (black : Text.isBlank d = false) : c ≠ d := by
        rintro rfl
        simp [black] at blank
      rw [argumentsFrom.eq_def _ _ (c :: s)]
      simp [blank, other '(' rfl, other ')' rfl, other ',' rfl]
    · next kept =>
      obtain ⟨same, steady⟩ := steady
      rw [if_neg kept, argumentsFrom, argumentsFrom, same]
      simp only [ih steady]

/-- A piece without the blanks outside of literals. -/
def Piece.solid : Piece → Piece
  | plain c => plain c
  | arguments inner => arguments (TagRules.solid inner)
  | group inner => group (TagRules.solid inner)

/-- The pieces of a cut without the blanks outside of literals. -/
def solidPieces (r : List Piece × Ending) : List Piece × Ending :=
  (r.1.map Piece.solid, r.2)

/-- The inside of parentheses, one character longer and without blanks. -/
theorem solid_concat (inner : List Char) (c : Char) : solid (c :: inner).reverse =
    solid inner.reverse ++ (Quote.after {} inner.reverse).solid [c] := by
  rw [List.reverse_cons, solid, Quote.solid_append]
  rfl

/-- A text without blanks is cut into the same pieces without blanks. -/
theorem piecesFrom_solid {q' : Quote} (steady : q.Steady q' s) :
    (∀ afterName, piecesFrom q' afterName (q.solid s) = solidPieces (piecesFrom q afterName s)) ∧
    ∀ afterName depth inner, Quote.after {} inner.reverse = q →
      piecesWithin q' afterName depth (solid inner.reverse).reverse (q.solid s) =
        solidPieces (piecesWithin q afterName depth inner s) := by
  induction s generalizing q q' with
  | nil =>
    refine ⟨fun _ => ?_, fun _ _ _ _ => rfl⟩
    have ends : q'.inside = q.inside := steady
    simp only [Quote.solid, piecesFrom, ends]
    rfl
  | cons c s ih =>
    have longer (inner : List Char) (here : Quote.after {} inner.reverse = q) :
        Quote.after {} (c :: inner).reverse = q.next c := by
      rw [List.reverse_cons, Quote.after_append, here]
      rfl
    rw [Quote.Steady] at steady
    rw [Quote.solid]
    split at steady
    · next blank =>
      obtain ⟨outside, within⟩ := ih steady
      rw [if_pos blank]
      have blank' := blank
      simp only [Bool.and_eq_true, Bool.not_eq_true'] at blank'
      have other (d : Char) (black : Text.isBlank d = false) : c ≠ d := by
        rintro rfl
        simp [black] at blank'
      refine ⟨fun afterName => ?_, fun afterName depth inner here => ?_⟩
      · rw [outside, piecesFrom.eq_def q afterName (c :: s)]
        simp [blank', other '(' rfl, other ')' rfl]
      · have step := within afterName depth (c :: inner) (longer inner here)
        rw [solid_concat, here, Quote.solid, if_pos blank, Quote.solid, List.append_nil] at step
        rw [step, piecesWithin.eq_def q afterName depth inner (c :: s)]
        simp [blank', other '(' rfl, other ')' rfl]
    · next kept =>
      obtain ⟨same, steady⟩ := steady
      obtain ⟨outside, within⟩ := ih steady
      rw [if_neg kept]
      refine ⟨fun afterName => ?_, fun afterName depth inner here => ?_⟩
      · rw [piecesFrom.eq_def q afterName (c :: s), piecesFrom.eq_def]
        simp only [same]
        split
        · rw [outside]
          rfl
        · next out =>
          have out : (q.next c).inside = false := by simpa using out
          split
          · next opens => exact within afterName 0 [] (Quote.next_eq out (by rw [opens]; decide)).symm
          · split
            · rfl
            · split
              · next blank => exact absurd (by rw [out, blank]; rfl) kept
              · rw [outside]
                rfl
      · have step (depth : Nat) := within afterName depth (c :: inner) (longer inner here)
        rw [solid_concat, here, Quote.solid, if_neg kept] at step
        simp only [Quote.solid, List.reverse_append, List.reverse_singleton,
          List.singleton_append] at step
        rw [piecesWithin.eq_def q afterName depth inner (c :: s), piecesWithin.eq_def]
        simp only [same]
        split
        · exact step depth
        · split
          · exact step _
          · split
            · cases depth with
              | succ depth => exact step depth
              | zero =>
                simp only [outside, List.reverse_reverse, ← solid_trim]
                cases afterName <;> rfl
            · exact step depth

/-- A text that stands after an opening parenthesis outside of literals, but for blanks around it. -/
def Enclosed (q : Quote) (s inner : List Char) : Prop :=
  ∃ front text back, s = front ++ '(' :: (text ++ back) ∧ ((q.after front).next '(').inside = false ∧
    inner = Text.trim text

theorem Enclosed.cons {c : Char} {inner : List Char} (h : Enclosed (q.next c) s inner) :
    Enclosed q (c :: s) inner := by
  obtain ⟨front, text, back, rfl, out, same⟩ := h
  exact ⟨c :: front, text, back, rfl, out, same⟩

theorem Enclosed.append {front inner : List Char} (h : Enclosed (q.after front) s inner) :
    Enclosed q (front ++ s) inner := by
  obtain ⟨before, text, back, rfl, out, same⟩ := h
  refine ⟨front ++ before, text, back, (List.append_assoc _ _ _).symm, ?_, same⟩
  rwa [Quote.after_append]

/-- What is in the parentheses of pieces is enclosed. -/
theorem Pieced.enclosed {afterName : Bool} {r : List Piece × Ending} (h : Pieced q afterName s r) :
    ∀ piece ∈ r.1, ∀ inner, piece.inside? = some inner → Enclosed q s inner := by
  induction h with
  | done => exact fun _ mem => absurd mem List.not_mem_nil
  | plain _ _ ih =>
    intro piece mem inner inside
    rcases List.mem_cons.1 mem with rfl | mem
    · cases inside
    · exact (ih piece mem inner inside).cons
  | blank _ _ _ ih => exact fun piece mem inner inside => (ih piece mem inner inside).cons
  | @paren q afterName text s r opens closes _ ih =>
    intro piece mem inner inside
    rcases List.mem_cons.1 mem with rfl | mem
    · refine ⟨[], text, ')' :: s, rfl, opens, ?_⟩
      cases afterName <;> cases inside <;> rfl
    · have behind : Enclosed (q.after ('(' :: text ++ [')'])) s inner := by
        rw [Quote.after_paren opens closes]
        exact ih piece mem inner inside
      simpa using behind.append
  | extraClose => exact fun _ mem => absurd mem List.not_mem_nil
  | missingClose => exact fun _ mem => absurd mem List.not_mem_nil

/-- What is enclosed satisfies a condition outside of literals if the text does. -/
theorem Quote.Outside.enclosed {inner : List Char} (holds : q.Outside p s)
    (enclosed : Enclosed q s inner) : Quote.Outside p {} inner := by
  obtain ⟨front, text, back, rfl, out, rfl⟩ := enclosed
  have later := (outside_append.1 holds).2.2
  rw [next_eq out (by decide)] at later
  exact (outside_append.1 later).1.trim

/-- What is enclosed in a steady text is steady. -/
theorem Quote.Steady.enclosed {q' : Quote} {inner : List Char} (inside : q'.inside = q.inside)
    (steady : q.Steady q' s) (enclosed : Enclosed q s inner) : Quote.Steady {} {} inner := by
  obtain ⟨front, text, back, rfl, out, rfl⟩ := enclosed
  obtain ⟨-, r, -, later⟩ := steady.append inside
  have black : Text.isBlank '(' = false := rfl
  rw [Steady, black, Bool.and_false, if_neg Bool.false_ne_true, next_eq out (by decide)] at later
  exact (later.2.append rfl).1.trim

/-- A list of arguments without blanks is cut into its items at commas. -/
theorem cuts_argumentsFrom (depth : Nat) (black : q.Outside (Text.isBlank · = false) s) :
    Cuts [','] q s (argumentsFrom q depth s) := by
  induction s generalizing q depth with
  | nil => exact .last
  | cons c s ih =>
    have later := ih (q.opened depth c) black.2
    rw [argumentsFrom_cons]
    split
    · next comma =>
      obtain ⟨out, rfl, -⟩ := comma
      have whole : Cuts [','] q ([] ++ ([','] ++ s)) ([] :: _) := .more out later
      exact whole
    · split
      · next blank => exact absurd blank.2 (by simp [black.1 blank.1])
      · exact later.consFirst

/-- No parenthesis is open behind a character that opens none. -/
theorem Quote.opened_zero {c : Char} (notOpen : c ≠ '(') : q.opened 0 c = 0 := by
  rw [opened, if_neg notOpen, Nat.zero_sub, ite_self, ite_self]

/-- An item without parentheses has no comma outside of literals. -/
theorem outside_argumentsFrom (depth : Nat) (black : q.Outside (Text.isBlank · = false) s) :
    ∃ first rest, argumentsFrom q depth s = first :: rest ∧
      (depth = 0 → '(' ∉ first → q.Outside (· ≠ ',') first) ∧
      ∀ item ∈ rest, '(' ∉ item → Quote.Outside (· ≠ ',') {} item := by
  induction s generalizing q depth with
  | nil => exact ⟨[], [], rfl, fun _ _ => trivial, fun _ mem => absurd mem List.not_mem_nil⟩
  | cons c s ih =>
    obtain ⟨first, rest, form, plain, others⟩ := ih (q.opened depth c) black.2
    rw [argumentsFrom_cons, form]
    split
    · next comma =>
      obtain ⟨out, rfl, rfl⟩ := comma
      have plain := plain (Quote.opened_zero (by decide))
      rw [Quote.next_eq out (by decide)] at plain
      refine ⟨[], first :: rest, rfl, fun _ _ => trivial, ?_⟩
      exact List.forall_mem_cons.2 ⟨plain, others⟩
    · next comma =>
      split
      · next blank => exact absurd blank.2 (by simp [black.1 blank.1])
      · refine ⟨c :: first, rest, rfl, ?_, others⟩
        rintro rfl paren
        obtain ⟨notOpen, later⟩ := not_or.1 (mt List.mem_cons.2 paren)
        exact ⟨fun out same => comma ⟨out, same, rfl⟩,
          plain (Quote.opened_zero (Ne.symm notOpen)) later⟩

end TagRules

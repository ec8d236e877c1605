/-!
# Blanks

The characters with the property `White_Space`, and the operations on text that refer to them.
Text under analysis is a list of characters; `trim` is pinned down by saying that nothing but
blanks is dropped and that no blank is left at either end.
-/

namespace TagRules.Text

/-- The twenty-five characters with the property `White_Space`. -/
def isBlank (c : Char) : Bool :=
  let n := c.toNat
  (9 ≤ n && n ≤ 13) || n = 0x20 || n = 0x85 || n = 0xA0 || n = 0x1680 ||
    (0x2000 ≤ n && n ≤ 0x200A) || n = 0x2028 || n = 0x2029 || n = 0x202F || n = 0x205F ||
    n = 0x3000

/-- Drop the blanks in front. -/
def trimStart (s : List Char) : List Char :=
  s.dropWhile isBlank

/-- Drop the blanks at the end. -/
def trimEnd (s : List Char) : List Char :=
  (s.reverse.dropWhile isBlank).reverse

/-- Drop the blanks at both ends. -/
def trim (s : List Char) : List Char :=
  trimEnd (trimStart s)

@[simp] theorem trimStart_nil : trimStart [] = [] := rfl

@[simp] theorem trimEnd_nil : trimEnd [] = [] := rfl

@[simp] theorem trim_nil : trim [] = [] := rfl

/-- A text of blanks alone is empty once trimmed. -/
def blank (s : List Char) : Bool :=
  s.all isBlank

/-- How many characters of a text are not blank. -/
def ink (s : List Char) : Nat :=
  s.countP (!isBlank ·)

@[simp] theorem ink_nil : ink [] = 0 := rfl

theorem ink_cons (c : Char) (s : List Char) :
    ink (c :: s) = ink s + if isBlank c then 0 else 1 := by
  rw [ink, List.countP_cons, ink]
  cases isBlank c <;> rfl

@[simp] theorem ink_append (s t : List Char) : ink (s ++ t) = ink s + ink t :=
  List.countP_append

theorem ink_parenthesized (s : List Char) : ink ('(' :: s ++ [')']) = ink s + 2 := by
  rw [List.cons_append, ink_cons, ink_append]
  rfl

/-- A part of a text has no more of it. -/
theorem ink_le_of_infix {s t : List Char} (h : s <:+: t) : ink s ≤ ink t :=
  h.sublist.countP_le

theorem ink_pos {c : Char} {s : List Char} (mem : c ∈ s) (solid : isBlank c = false) :
    0 < ink s :=
  List.countP_pos_iff.2 ⟨c, mem, by simp [solid]⟩

/-- `trim` on strings. -/
def trimmed (s : String) : String :=
  String.ofList (trim s.toList)

/-- The text in lower case, ASCII letters only. -/
def lowerAscii (s : List Char) : List Char :=
  s.map Char.toLower

/-- Equality up to the case of ASCII letters. -/
def eqIgnoringCase (s t : List Char) : Bool :=
  lowerAscii s == lowerAscii t

end TagRules.Text

import TagRules.Text.Blank
import TagRules.Text.Folding

/-!
# Flags of a pattern

Flags say how the rest of a pattern is read: whether case counts, what a dot and the anchors stand
for, whether characters beyond ASCII belong to the named classes, and whether blanks and comments
may stand between the parts of the pattern.
-/

namespace TagRules.Pattern

open Text (Ranges)

/-- The flags in force at a place of a pattern. -/
structure Flags where
  caseless : Bool := true
  multiline : Bool := false
  dotAll : Bool := false
  carriage : Bool := false
  unicode : Bool := true
  verbose : Bool := false
  /-- A repetition prefers few turns, and a question mark after it asks for many. -/
  swapGreed : Bool := false
deriving DecidableEq, Repr

namespace Flags

/-- Close a set under case, where the flags say so. -/
def fold (f : Flags) (s : Ranges) : Ranges :=
  if f.caseless then if f.unicode then s.closeCase else s.closeAsciiCase else s

/-- The characters that a character in a pattern stands for. -/
def literal (f : Flags) (c : Char) : Ranges :=
  if f.caseless then if f.unicode then .ofCaseVariants c else (Ranges.single c).closeAsciiCase
  else .single c

/-- A set that a pattern may hold: without the flag for all scripts only ASCII is allowed. -/
def allowed? (f : Flags) (s : Ranges) : Option Ranges :=
  if f.unicode || s.isAscii then some s else none

/-- A set closed under case and then, where asked for, replaced by its complement. -/
def close? (f : Flags) (negated : Bool) (s : Ranges) : Option Ranges :=
  f.allowed? (if negated then (f.fold s).compl else f.fold s)

/-- Set or clear one flag. -/
def assign? (f : Flags) (c : Char) (on : Bool) : Option Flags :=
  match c with
  | 'i' => some { f with caseless := on }
  | 'm' => some { f with multiline := on }
  | 's' => some { f with dotAll := on }
  | 'R' => some { f with carriage := on }
  | 'u' => some { f with unicode := on }
  | 'x' => some { f with verbose := on }
  | 'U' => some { f with swapGreed := on }
  | _ => none

/-- Read flags up to a colon or a closing parenthesis: no flag twice, no minus twice or at the end.
Returns the flags, whether any was written, and the rest that begins with the closing character. -/
def readFrom (f : Flags) (on : Bool) (seen : List Char) : List Char →
    Option (Flags × Bool × List Char)
  | [] => none
  | c :: rest =>
    if c = ':' ∨ c = ')' then
      if seen.head? = some '-' then none else some (f, !seen.isEmpty, c :: rest)
    else if seen.contains c then none
    else if c = '-' then readFrom f false (c :: seen) rest
    else (f.assign? c on).bind fun f => readFrom f on (c :: seen) rest

/-- The set of characters that a dot stands for. -/
def dot (f : Flags) : Ranges :=
  if f.dotAll then .all
  else if f.carriage then ((Ranges.single '\r').union (.single '\n')).compl
  else (Ranges.single '\n').compl

/-! ## Blanks and comments -/

/-- Drop blanks and comments, possibly from within a comment on. A comment goes from a number sign
to the end of the line. -/
def dropSpaceFrom : Bool → List Char → List Char
  | _, [] => []
  | true, c :: rest => dropSpaceFrom (c ≠ '\n') rest
  | false, c :: rest =>
    if Text.isBlank c then dropSpaceFrom false rest
    else if c = '#' then dropSpaceFrom true rest
    else c :: rest

/-- Drop blanks and comments, where they do not count. -/
def dropSpace (f : Flags) (s : List Char) : List Char :=
  if f.verbose then dropSpaceFrom false s else s

theorem length_dropSpaceFrom_le (comment : Bool) (s : List Char) :
    (dropSpaceFrom comment s).length ≤ s.length := by
  fun_induction dropSpaceFrom comment s <;> simp_all <;> omega

theorem length_dropSpace_le (f : Flags) (s : List Char) :
    (f.dropSpace s).length ≤ s.length := by
  unfold dropSpace
  split
  · exact length_dropSpaceFrom_le false s
  · exact Nat.le_refl _

theorem length_lt_of_dropSpace {f : Flags} {s rest : List Char} {c : Char}
    (h : f.dropSpace s = c :: rest) : rest.length < s.length := by
  have := f.length_dropSpace_le s
  rw [h, List.length_cons] at this
  omega

/-- The leading characters of a kind, and what follows them. Blanks and comments before each of them
and after the last one are dropped, where they do not count. -/
def takeWhile (f : Flags) (p : Char → Bool) (s : List Char) : List Char × List Char :=
  match h : f.dropSpace s with
  | [] => ([], [])
  | c :: rest =>
    have : rest.length < s.length := length_lt_of_dropSpace h
    if p c then
      let (cs, after) := f.takeWhile p rest
      (c :: cs, after)
    else ([], c :: rest)
termination_by s.length

/-- Exactly `n` characters, without the blanks and comments before each of them that do not
count. -/
def takeExactly (f : Flags) : Nat → List Char → Option (List Char × List Char)
  | 0, s => some ([], s)
  | n + 1, s =>
    match f.dropSpace s with
    | c :: rest => (f.takeExactly n rest).map fun (cs, rest) => (c :: cs, rest)
    | [] => none

/-- The characters up to a closing brace and what follows it. -/
def readBraced (f : Flags) (s : List Char) : Option (List Char × List Char) :=
  match f.takeWhile (· ≠ '\x7d') s with
  | (inside, _ :: rest) => some (inside, rest)
  | (_, []) => none

end Flags

end TagRules.Pattern

/-!
# Sets of characters given by ranges

A set of characters is a list of inclusive ranges of code points in increasing order, no two of
which touch. Every operation returns such a list, so that equal sets are equal lists. The tables
are kept as text in the notation of the character database, `41-5A 61-7A AA`, in hexadecimal, so
that they can be compared with it by eye; `100-136/2` stands for every other code point of a range.
-/

namespace TagRules.Text

/-- Inclusive ranges of code points. -/
structure Ranges where
  list : List (Nat × Nat)
deriving DecidableEq, Repr

namespace Ranges

/-- Membership of a code point. -/
def holds (r : Ranges) (code : Nat) : Bool :=
  r.list.any fun range => range.1 ≤ code && code ≤ range.2

/-- Membership of a character. -/
def contains (r : Ranges) (c : Char) : Bool :=
  r.holds c.toNat

/-- The largest code point. -/
def top : Nat := 0x10FFFF

/-- The empty set. -/
def none : Ranges := ⟨[]⟩

/-- All code points. -/
def all : Ranges := ⟨[(0, top)]⟩

/-- One character. -/
def single (c : Char) : Ranges := ⟨[(c.toNat, c.toNat)]⟩

/-- The only character of a set that has just one. -/
def single? (r : Ranges) : Option Char :=
  match r.list with
  | [(lo, hi)] => if lo = hi then some (Char.ofNat lo) else Option.none
  | _ => Option.none

/-- The code points after those of the ASCII characters are not in the set. -/
def isAscii (r : Ranges) : Bool :=
  r.list.all fun range => range.2 < 0x80

/-! ## Normal form -/

/-- A range followed by more that begin no earlier: ranges that overlap or touch are joined. -/
def joinFrom (r : Nat × Nat) : List (Nat × Nat) → List (Nat × Nat)
  | [] => [r]
  | s :: rest =>
    if s.1 ≤ r.2 + 1 then joinFrom (r.1, max r.2 s.2) rest else r :: joinFrom s rest

/-- Join ranges that overlap or touch, in increasing order of their first members. -/
def join : List (Nat × Nat) → List (Nat × Nat)
  | [] => []
  | r :: rest => joinFrom r rest

/-- The set of the members of some ranges. -/
def ofList (ranges : List (Nat × Nat)) : Ranges :=
  ⟨join (ranges.mergeSort fun r s => r.1 ≤ s.1)⟩

theorem any_joinFrom (code : Nat) (r : Nat × Nat) (l : List (Nat × Nat)) (hr : r.1 ≤ r.2)
    (hl : ∀ s ∈ l, s.1 ≤ s.2) (hs : (r :: l).Pairwise fun a b => a.1 ≤ b.1) :
    (joinFrom r l).any (fun s => s.1 ≤ code && code ≤ s.2) =
      (r :: l).any (fun s => s.1 ≤ code && code ≤ s.2) := by
  induction l generalizing r with
  | nil => rfl
  | cons s rest ih =>
    have hsl := hl s (by simp)
    obtain ⟨hrs, hrest⟩ := List.pairwise_cons.1 hs
    have h1 := hrs s (by simp)
    unfold joinFrom
    split
    · rename_i h
      rw [ih (r.1, max r.2 s.2) (by simp only; omega) (fun t ht => hl t (by simp [ht]))
        (List.pairwise_cons.2
          ⟨fun t ht => hrs t (by simp [ht]), (List.pairwise_cons.1 hrest).2⟩)]
      simp only [List.any_cons, ← Bool.or_assoc]
      congr 1
      rw [Bool.eq_iff_iff]
      simp only [Bool.and_eq_true, Bool.or_eq_true, decide_eq_true_eq]
      omega
    · rw [List.any_cons, ih s hsl (fun t ht => hl t (by simp [ht])) hrest]
      rfl

/-- A set holds what one of the ranges it is made of holds. -/
theorem holds_ofList (code : Nat) (l : List (Nat × Nat)) (hl : ∀ s ∈ l, s.1 ≤ s.2) :
    (ofList l).holds code = l.any (fun s => s.1 ≤ code && code ≤ s.2) := by
  have hp := List.mergeSort_perm l fun r s => decide (r.1 ≤ s.1)
  have hs : (l.mergeSort fun r s => decide (r.1 ≤ s.1)).Pairwise
      fun r s => decide (r.1 ≤ s.1) = true :=
    List.pairwise_mergeSort (by simp only [decide_eq_true_eq]; omega)
      (by simp only [Bool.or_eq_true, decide_eq_true_eq]; omega) l
  have hany : (l.mergeSort fun r s => r.1 ≤ s.1).any (fun s => s.1 ≤ code && code ≤ s.2) =
      l.any (fun s => s.1 ≤ code && code ≤ s.2) := hp.any_eq
  rw [← hany]
  simp only [holds, ofList]
  revert hs hp
  generalize l.mergeSort (fun r s => decide (r.1 ≤ s.1)) = m
  intro hp hs
  cases m with
  | nil => rfl
  | cons r rest =>
    exact any_joinFrom code r rest (hl r (hp.mem_iff.1 (by simp)))
      (fun s hs => hl s (hp.mem_iff.1 (by simp [hs]))) (hs.imp (by simp))

/-! ## Operations -/

/-- The union of two sets. -/
def union (r s : Ranges) : Ranges :=
  ofList (r.list ++ s.list)

/-- The union of several sets. -/
def unions (sets : List Ranges) : Ranges :=
  ofList (sets.flatMap list)

/-- What lies between the ranges of a list from a code point on. -/
def gapsFrom (code : Nat) : List (Nat × Nat) → List (Nat × Nat)
  | [] => if code ≤ top then [(code, top)] else []
  | r :: rest =>
    if code < r.1 then (code, r.1 - 1) :: gapsFrom (r.2 + 1) rest else gapsFrom (r.2 + 1) rest

/-- The code points that are not in the set. -/
def compl (r : Ranges) : Ranges :=
  ⟨gapsFrom 0 r.list⟩

/-- The common members of two sets. -/
def inter (r s : Ranges) : Ranges :=
  (r.compl.union s.compl).compl

/-- The members of the first set that are not in the second. -/
def diff (r s : Ranges) : Ranges :=
  (r.compl.union s).compl

/-- The members of exactly one of two sets. -/
def symmDiff (r s : Ranges) : Ranges :=
  (r.diff s).union (s.diff r)

/-! ## Reading -/

/-- The value of a hexadecimal digit; anything else counts as zero. -/
def hexDigit (c : Char) : Nat :=
  if '0' ≤ c && c ≤ '9' then c.toNat - '0'.toNat
  else if 'A' ≤ c && c ≤ 'F' then c.toNat - 'A'.toNat + 10
  else 0

/-- The number written by hexadecimal digits. -/
def hex (s : String) : Nat :=
  s.foldl (fun n c => 16 * n + hexDigit c) 0

/-- One range: a single code point or two joined by a hyphen. -/
def range (s : String) : Nat × Nat :=
  match s.splitOn "-" with
  | [lo, hi] => (hex lo, hex hi)
  | _ => (hex s, hex s)

/-- An entry of a table: a range, or the members of a range at a distance given after a slash. -/
def entry (s : String) : List (Nat × Nat) :=
  match s.splitOn "/" with
  | [written, step] =>
    let (lo, hi) := range written
    (List.range ((hi - lo) / hex step + 1)).map fun n =>
      (lo + n * hex step, lo + n * hex step)
  | _ => [range s]

/-- The lines of a table as one text. -/
def table (lines : List String) : String :=
  " ".intercalate lines

/-- Read a table: entries separated by blanks. -/
def read (s : String) : Ranges :=
  ofList (((s.splitOn " ").filter (· ≠ "")).flatMap entry)

end Ranges

end TagRules.Text

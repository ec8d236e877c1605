/-!
# Dictionaries in key order

A `Dict κ ν` maps keys to values and lists its entries by increasing key. Keys are identities: a
number tells them apart and orders them (`Numbered`). The order is part of the type, so two
dictionaries that answer every look-up alike are equal (`Dict.ext_get?`).
-/

namespace TagRules

/-- Identities told apart by a number. -/
class Numbered (κ : Type) where
  number : κ → Nat
  number_injective : ∀ {a b : κ}, number a = number b → a = b

export Numbered (number)

namespace Numbered

variable {κ : Type} [Numbered κ]

@[simp] theorem number_inj {a b : κ} : number a = number b ↔ a = b :=
  ⟨number_injective, fun h => h ▸ rfl⟩

instance : DecidableEq κ := fun _ _ => decidable_of_iff _ number_inj

end Numbered

instance : Numbered Nat := ⟨id, id⟩

/-- Entries by strictly increasing key. -/
structure Dict (κ ν : Type) [Numbered κ] where
  entries : List (κ × ν)
  increasing : entries.Pairwise fun a b => number a.1 < number b.1

namespace Dict

variable {κ ν : Type} [Numbered κ]

/-- The value at a key in a list of entries. -/
def lookIn (k : κ) : List (κ × ν) → Option ν
  | [] => none
  | (a, v) :: rest => if number a = number k then some v else lookIn k rest

/-- Put a value at a key, in order. -/
def putIn (k : κ) (v : ν) : List (κ × ν) → List (κ × ν)
  | [] => [(k, v)]
  | (a, w) :: rest =>
    if number k < number a then (k, v) :: (a, w) :: rest
    else if number a = number k then (k, v) :: rest
    else (a, w) :: putIn k v rest

/-- Leave out a key. -/
def dropFrom (k : κ) (entries : List (κ × ν)) : List (κ × ν) :=
  entries.filter fun e => number e.1 ≠ number k

theorem mem_putIn {k : κ} {v : ν} {e : κ × ν} {l : List (κ × ν)} (h : e ∈ putIn k v l) :
    e = (k, v) ∨ e ∈ l := by
  induction l with
  | nil => simpa [putIn] using h
  | cons a l ih =>
    obtain ⟨a, w⟩ := a
    simp only [putIn] at h
    split at h
    · simpa using h
    · split at h
      · rcases List.mem_cons.1 h with h | h
        · exact .inl h
        · exact .inr (List.mem_cons_of_mem _ h)
      · rcases List.mem_cons.1 h with h | h
        · exact .inr (h ▸ List.mem_cons_self)
        · exact (ih h).imp_right (List.mem_cons_of_mem _)

theorem increasing_putIn (k : κ) (v : ν) {l : List (κ × ν)}
    (h : l.Pairwise fun a b => number a.1 < number b.1) :
    (putIn k v l).Pairwise fun a b => number a.1 < number b.1 := by
  induction l with
  | nil => simp [putIn]
  | cons a l ih =>
    obtain ⟨a, w⟩ := a
    obtain ⟨first, rest⟩ := List.pairwise_cons.1 h
    simp only [putIn]
    split
    · next lt =>
      refine List.pairwise_cons.2 ⟨fun e he => ?_, h⟩
      rcases List.mem_cons.1 he with rfl | he
      · exact lt
      · exact Nat.lt_trans lt (first e he)
    · split
      · next eq => exact List.pairwise_cons.2 ⟨fun e he => eq ▸ first e he, rest⟩
      · next ge ne =>
        refine List.pairwise_cons.2 ⟨fun e he => ?_, ih rest⟩
        rcases mem_putIn he with rfl | he
        · exact Nat.lt_of_le_of_ne (Nat.le_of_not_lt ge) ne
        · exact first e he

/-- The dictionary without entries. -/
def empty : Dict κ ν := ⟨[], .nil⟩

instance : EmptyCollection (Dict κ ν) := ⟨empty⟩

instance : Inhabited (Dict κ ν) := ⟨empty⟩

/-- The value at a key. -/
def get? (d : Dict κ ν) (k : κ) : Option ν :=
  lookIn k d.entries

/-- The key has a value. -/
def contains (d : Dict κ ν) (k : κ) : Bool :=
  (d.get? k).isSome

/-- Give a key a value. -/
def insert (d : Dict κ ν) (k : κ) (v : ν) : Dict κ ν :=
  ⟨putIn k v d.entries, increasing_putIn k v d.increasing⟩

/-- Take a key out. -/
def erase (d : Dict κ ν) (k : κ) : Dict κ ν :=
  ⟨dropFrom k d.entries, d.increasing.filter _⟩

/-- Change the value at a key, where there is one. -/
def modify (d : Dict κ ν) (k : κ) (f : ν → ν) : Dict κ ν :=
  match d.get? k with
  | some v => d.insert k (f v)
  | none => d

/-- The keys in order. -/
def keys (d : Dict κ ν) : List κ :=
  d.entries.map (·.1)

/-- The values in the order of their keys. -/
def values (d : Dict κ ν) : List ν :=
  d.entries.map (·.2)

/-- The number of entries. -/
def size (d : Dict κ ν) : Nat :=
  d.entries.length

/-- There are no entries. -/
def isEmpty (d : Dict κ ν) : Bool :=
  d.entries.isEmpty

/-- A dictionary from a list; a later entry replaces an earlier one of the same key. -/
def ofList (l : List (κ × ν)) : Dict κ ν :=
  l.foldl (fun d e => d.insert e.1 e.2) empty

@[simp] theorem get?_empty (k : κ) : (empty : Dict κ ν).get? k = none := rfl

theorem lookIn_putIn_self (k : κ) (v : ν) (l : List (κ × ν)) : lookIn k (putIn k v l) = some v := by
  induction l with
  | nil => simp [putIn, lookIn]
  | cons a l ih =>
    obtain ⟨a, w⟩ := a
    simp only [putIn]
    split
    · simp [lookIn]
    · split
      · simp [lookIn]
      · next ne => simp only [lookIn, if_neg ne, ih]

theorem lookIn_putIn_of_ne {k j : κ} (h : number k ≠ number j) (v : ν) (l : List (κ × ν)) :
    lookIn j (putIn k v l) = lookIn j l := by
  induction l with
  | nil => simp only [putIn, lookIn, if_neg h]
  | cons a l ih =>
    obtain ⟨a, w⟩ := a
    simp only [putIn]
    split
    · simp only [lookIn, if_neg h]
    · split
      · next eq =>
        have : number a ≠ number j := eq ▸ h
        simp only [lookIn, if_neg h, if_neg this]
      · simp only [lookIn, ih]

@[simp] theorem get?_insert_self (d : Dict κ ν) (k : κ) (v : ν) :
    (d.insert k v).get? k = some v :=
  lookIn_putIn_self k v d.entries

theorem get?_insert_of_ne (d : Dict κ ν) {k j : κ} (h : k ≠ j) (v : ν) :
    (d.insert k v).get? j = d.get? j :=
  lookIn_putIn_of_ne (fun e => h (Numbered.number_injective e)) v d.entries

theorem get?_insert (d : Dict κ ν) (k j : κ) (v : ν) :
    (d.insert k v).get? j = if k = j then some v else d.get? j := by
  split
  · next h => subst h; simp
  · next h => exact d.get?_insert_of_ne h v

theorem lookIn_dropFrom_self (k : κ) (l : List (κ × ν)) : lookIn k (dropFrom k l) = none := by
  induction l with
  | nil => rfl
  | cons a l ih =>
    unfold dropFrom at *
    simp only [List.filter_cons]
    split
    · next h => simp only [lookIn, if_neg (of_decide_eq_true h), ih]
    · exact ih

theorem lookIn_dropFrom_of_ne {k j : κ} (h : number k ≠ number j) (l : List (κ × ν)) :
    lookIn j (dropFrom k l) = lookIn j l := by
  induction l with
  | nil => rfl
  | cons a l ih =>
    unfold dropFrom at *
    simp only [List.filter_cons]
    split
    · simp only [lookIn, ih]
    · next eq =>
      have eq : number a.1 = number k := by simpa using eq
      have : number a.1 ≠ number j := eq ▸ h
      simp only [lookIn, if_neg this, ih]

@[simp] theorem get?_erase_self (d : Dict κ ν) (k : κ) : (d.erase k).get? k = none :=
  lookIn_dropFrom_self k d.entries

theorem get?_erase_of_ne (d : Dict κ ν) {k j : κ} (h : k ≠ j) : (d.erase k).get? j = d.get? j :=
  lookIn_dropFrom_of_ne (fun e => h (Numbered.number_injective e)) d.entries

theorem get?_erase (d : Dict κ ν) (k j : κ) :
    (d.erase k).get? j = if k = j then none else d.get? j := by
  split
  · next h => subst h; simp
  · next h => exact d.get?_erase_of_ne h

theorem get?_modify (d : Dict κ ν) (k j : κ) (f : ν → ν) :
    (d.modify k f).get? j = if k = j then (d.get? j).map f else d.get? j := by
  unfold modify
  split
  · next v h =>
    rw [get?_insert]
    split
    · next e => subst e; simp [h]
    · rfl
  · next h =>
    split
    · next e => subst e; simp [h]
    · rfl

theorem lookIn_of_mem {k : κ} {v : ν} {l : List (κ × ν)}
    (h : l.Pairwise fun a b => number a.1 < number b.1) (hm : (k, v) ∈ l) :
    lookIn k l = some v := by
  induction l with
  | nil => cases hm
  | cons a l ih =>
    obtain ⟨first, rest⟩ := List.pairwise_cons.1 h
    rcases List.mem_cons.1 hm with rfl | hm
    · simp [lookIn]
    · have : number a.1 ≠ number k := Nat.ne_of_lt (first _ hm)
      simp only [lookIn, if_neg this, ih rest hm]

theorem mem_of_lookIn {k : κ} {v : ν} {l : List (κ × ν)} (h : lookIn k l = some v) :
    (k, v) ∈ l := by
  induction l with
  | nil => cases h
  | cons a l ih =>
    obtain ⟨a, w⟩ := a
    simp only [lookIn] at h
    split at h
    · next e =>
      cases h
      rw [Numbered.number_injective e]
      exact List.mem_cons_self
    · exact List.mem_cons_of_mem _ (ih h)

/-- The entries are what look-up finds. -/
theorem mem_entries {d : Dict κ ν} {k : κ} {v : ν} : (k, v) ∈ d.entries ↔ d.get? k = some v :=
  ⟨lookIn_of_mem d.increasing, mem_of_lookIn⟩

theorem isEmpty_iff {d : Dict κ ν} : d.isEmpty = true ↔ ∀ k, d.get? k = none := by
  unfold isEmpty
  rw [List.isEmpty_iff, List.eq_nil_iff_forall_not_mem]
  constructor
  · intro none k
    cases found : d.get? k with
    | none => rfl
    | some v => exact absurd (mem_entries.2 found) (none _)
  · intro none e mem
    have found : d.get? e.1 = some e.2 := mem_entries.1 mem
    rw [none] at found
    cases found

@[simp] theorem isEmpty_modify (d : Dict κ ν) (k : κ) (f : ν → ν) :
    (d.modify k f).isEmpty = d.isEmpty := by
  refine Bool.eq_iff_iff.2 ?_
  rw [isEmpty_iff, isEmpty_iff]
  refine forall_congr' fun j => ?_
  rw [get?_modify]
  split <;> simp

theorem mem_keys {d : Dict κ ν} {k : κ} : k ∈ d.keys ↔ d.contains k = true := by
  unfold keys contains
  rw [List.mem_map, Option.isSome_iff_exists]
  constructor
  · rintro ⟨⟨a, v⟩, h, rfl⟩
    exact ⟨v, mem_entries.1 h⟩
  · rintro ⟨v, h⟩
    exact ⟨(k, v), mem_entries.2 h, rfl⟩

theorem mem_values {d : Dict κ ν} {v : ν} : v ∈ d.values ↔ ∃ k, d.get? k = some v := by
  unfold values
  rw [List.mem_map]
  constructor
  · rintro ⟨⟨k, w⟩, h, rfl⟩
    exact ⟨k, mem_entries.1 h⟩
  · rintro ⟨k, h⟩
    exact ⟨(k, v), mem_entries.2 h, rfl⟩

/-- The keys are listed by strictly increasing number. -/
theorem keys_increasing (d : Dict κ ν) : d.keys.Pairwise fun a b => number a < number b :=
  List.pairwise_map.2 d.increasing

/-- No key is listed twice. -/
theorem keys_nodup (d : Dict κ ν) : d.keys.Nodup := by
  refine List.Pairwise.imp ?_ d.keys_increasing
  intro a b h e
  subst e
  exact Nat.lt_irrefl _ h

@[simp] theorem length_keys (d : Dict κ ν) : d.keys.length = d.size := by
  simp [keys, size]

theorem eq_of_lookIn_eq {l m : List (κ × ν)}
    (hl : l.Pairwise fun a b => number a.1 < number b.1)
    (hm : m.Pairwise fun a b => number a.1 < number b.1)
    (h : ∀ k, lookIn k l = lookIn k m) : l = m := by
  induction l generalizing m with
  | nil =>
    cases m with
    | nil => rfl
    | cons a m => simpa [lookIn] using h a.1
  | cons a l ih =>
    cases m with
    | nil => simpa [lookIn] using (h a.1)
    | cons b m =>
      obtain ⟨a, v⟩ := a
      obtain ⟨b, w⟩ := b
      obtain ⟨firstA, restA⟩ := List.pairwise_cons.1 hl
      obtain ⟨firstB, restB⟩ := List.pairwise_cons.1 hm
      have inB : (a, v) ∈ (b, w) :: m :=
        mem_of_lookIn ((h a).symm.trans (lookIn_of_mem hl List.mem_cons_self))
      have inA : (b, w) ∈ (a, v) :: l :=
        mem_of_lookIn ((h b).trans (lookIn_of_mem hm List.mem_cons_self))
      have heads : (a, v) = (b, w) := by
        rcases List.mem_cons.1 inB with e | inB
        · exact e
        rcases List.mem_cons.1 inA with e | inA
        · exact e.symm
        have := firstB _ inB
        have := firstA _ inA
        simp only at *
        omega
      cases heads
      congr 1
      refine ih restA restB fun k => ?_
      by_cases hk : number a = number k
      · have none_of {n : List (κ × ν)} (hn : ∀ e ∈ n, number a < number e.1) :
            lookIn k n = none := by
          cases hs : lookIn k n with
          | none => rfl
          | some x =>
            have := hn _ (mem_of_lookIn hs)
            simp only at this
            omega
        rw [none_of firstA, none_of firstB]
      · simpa only [lookIn, if_neg hk] using h k

/-- Dictionaries that answer every look-up alike are equal. -/
theorem ext_get? {d e : Dict κ ν} (h : ∀ k, d.get? k = e.get? k) : d = e := by
  obtain ⟨l, hl⟩ := d
  obtain ⟨m, hm⟩ := e
  cases eq_of_lookIn_eq hl hm h
  rfl

/-- Nothing is left out where there is nothing. -/
theorem erase_of_get?_eq_none {d : Dict κ ν} {k : κ} (none : d.get? k = none) : d.erase k = d := by
  refine ext_get? fun j => ?_
  rw [get?_erase]
  split
  · next same => rw [← same, none]
  · rfl

/-- Change every value. -/
def map {μ : Type} (f : ν → μ) (d : Dict κ ν) : Dict κ μ :=
  ⟨d.entries.map fun e => (e.1, f e.2), List.pairwise_map.2 d.increasing⟩

@[simp] theorem get?_map {μ : Type} (f : ν → μ) (d : Dict κ ν) (k : κ) :
    (d.map f).get? k = (d.get? k).map f := by
  have entries (l : List (κ × ν)) : lookIn k (l.map fun e => (e.1, f e.2)) = (lookIn k l).map f := by
    induction l with
    | nil => rfl
    | cons e l ih =>
      simp only [List.map_cons, lookIn, ih]
      split <;> rfl
  exact entries d.entries

@[simp] theorem values_map {μ : Type} (f : ν → μ) (d : Dict κ ν) :
    (d.map f).values = d.values.map f := by
  simp only [values, map, List.map_map]
  rfl

end Dict

end TagRules

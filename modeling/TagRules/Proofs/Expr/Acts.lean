import TagRules.Proofs.Expr.Local
import TagRules.Proofs.Expr.Steps

/-!
# What a step does apart from the slots

A step that fills slots and follows placeholders may do the same as one that knows nothing of slots,
but for the slots that it leaves behind (`Acts`). This holds of one step after another, so a text
that is flattened and read again can be seen as what it says. Calls with their placeholders are read
here by equations between steps.
-/

namespace TagRules

namespace Compile

variable {α β γ : Type}

/-- From drafts with some slots, the first step does what the second one does and only adds slots.
-/
def Acts (slots : List Slot) (m n : Compile α) : Prop :=
  ∀ d, slots <+: d.slots → ∃ more, StateT.run m d =
    (StateT.run n d).map fun (a, d') => (a, { d' with slots := d.slots ++ more })

namespace Acts

variable {slots slots' : List Slot} {m n : Compile α}

theorem mono (h : Acts slots m n) (front : slots <+: slots') : Acts slots' m n :=
  fun d here => h d (front.trans here)

theorem of_local (h : Local m) : Acts slots m m := by
  intro d _
  refine ⟨[], ?_⟩
  cases run : StateT.run m d with
  | error failure => rfl
  | ok result =>
    obtain ⟨a, d'⟩ := result
    rw [List.append_nil, ← h.slots_eq run]
    rfl

theorem bind {k l : α → Compile β} (first : Acts slots m n)
    (second : ∀ a, Acts slots (k a) (l a)) (aside : ∀ a, Local (l a)) :
    Acts slots (m >>= k) (n >>= l) := by
  intro d here
  obtain ⟨more, run⟩ := first d here
  cases plain : StateT.run n d with
  | error failure =>
    rw [plain] at run
    exact ⟨[], (bind_run_of_error run).trans (by rw [bind_run_of_error plain]; rfl)⟩
  | ok result =>
    obtain ⟨a, d₁⟩ := result
    rw [plain] at run
    obtain ⟨more', run'⟩ := second a { d₁ with slots := d.slots ++ more }
      (here.trans (List.prefix_append _ _))
    rw [(aside a).run_eq d₁ (d.slots ++ more)] at run'
    refine ⟨more ++ more', (bind_run_of_ok run).trans (run'.trans ?_)⟩
    rw [bind_run_of_ok plain]
    cases StateT.run (l a) d₁ with
    | error failure => rfl
    | ok result => simp [Except.map]

/-- A step for each element of a list. -/
theorem mapM {f g : β → Compile α} {l : List β} (aside : ∀ b, Local (g b))
    (each : ∀ b ∈ l, Acts slots (f b) (g b)) : Acts slots (l.mapM f) (l.mapM g) := by
  induction l with
  | nil => exact .of_local (.pure _)
  | cons b l ih =>
    rw [List.mapM_cons, List.mapM_cons]
    refine (each b List.mem_cons_self).bind (fun a => ?_) fun a => ?_
    · exact (ih fun b mem => each b (List.mem_cons_of_mem _ mem)).bind
        (fun _ => .of_local (.pure _)) fun _ => .pure _
    · exact .bind (.mapM aside l) fun _ => .pure _

/-- A slot is filled and known to what follows. -/
theorem fill {slot : Slot} {k : List Char → Compile α} (aside : Local n)
    (after : ∀ d : Draft, slots <+: d.slots →
      Acts (d.slots ++ [slot]) (k (placeholder d.slots.length)) n) :
    Acts slots (fill slot >>= k) n := by
  intro d here
  obtain ⟨more, run⟩ := after d here { d with slots := d.slots ++ [slot] } (List.prefix_refl _)
  rw [aside.run_eq] at run
  refine ⟨slot :: more, (bind_run_of_ok (fill_run slot d)).trans (run.trans ?_)⟩
  cases StateT.run n d with
  | error failure => rfl
  | ok result => simp [Except.map]

/-- What is in a slot is found behind its placeholder. -/
theorem slot? {n' : Nat} {slot : Slot} {k : Option Slot → Compile α}
    (at' : slots[n']? = some slot) (found : Acts slots (k (some slot)) n) :
    Acts slots (slot? (placeholder n') >>= k) n := by
  intro d here
  obtain ⟨more, run⟩ := found d here
  refine ⟨more, (bind_run_of_ok (Gives.slot? (getElem?_mono here at')).1).trans run⟩

end Acts

end Compile

end TagRules

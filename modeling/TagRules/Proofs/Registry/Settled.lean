import TagRules.Proofs.Expr.Dependencies
import TagRules.Proofs.Registry.Progress
import TagRules.Proofs.Registry.Snapshot

/-!
# Settled constraints

A constraint is settled for a subject if deciding it again would change nothing. What its truth
depends on is the memberships in the tags that it tests, and compiling notes these as dependencies,
so a change in any other constrained tag leaves it settled (`Registry.Consistent.truth_eq`).
-/

namespace TagRules

/-- A constraint asks for no change of the membership of a subject. -/
structure Constraint.Settled (w : World) (r : SubjectRecord) (s : Services) (c : Constraint) :
    Prop where
  adds : c.truth w r s = true → c.options.autoAdd = true → s.store.isTagged c.tag r.id = true
  removes : c.truth w r s = false → c.options.autoRemove = true →
    s.store.isTagged c.tag r.id = false

theorem Constraint.Settled.congr {w : World} {r : SubjectRecord} {s t : Services} {c : Constraint}
    (h : c.Settled w r s) (truth : c.truth w r t = c.truth w r s)
    (member : t.store.isTagged c.tag r.id = s.store.isTagged c.tag r.id) : c.Settled w r t where
  adds holds allowed := member.trans (h.adds (truth.symm.trans holds) allowed)
  removes fails allowed := member.trans (h.removes (truth.symm.trans fails) allowed)

theorem Constraint.compiled_of_expr? {c : Constraint} {e : Expr} (h : c.expr? = some e) :
    ∃ result, c.compiled = .ok result ∧ result.expr = e ∧ c.dependsOn = result.dependsOn := by
  unfold expr? at h
  split at h
  · next result ok =>
    exact ⟨result, ok, Option.some.inj h, by simp only [dependsOn, ok]⟩
  · cases h

/-- The constraint was compiled when the store had the same tags under the same names as now, and
all tags that have a constraint now were constrainable. -/
def Constraint.UpToDate (constraints : Dict TagId Constraint) (store : TagStore)
    (c : Constraint) : Prop :=
  ∃ earlier : TagStore, earlier.Filed ∧ c.compiled = compile (some earlier) c.text ∧
    (∀ u, (earlier.tag? u).map (·.name) = (store.tag? u).map (·.name)) ∧
    ∀ u tag, constraints.contains u = true → earlier.tag? u = some tag → tag.constrainable = true

/-- What a constraint that was made has compiled: its text, for the tags of the store. -/
theorem Constraint.build_compiled (store : TagStore) (serial : Nat) (tag : TagId)
    (text options : String) (enabled : Bool) {c : Constraint}
    (made : c = (build store serial tag text options enabled).1) :
    c.compiled = compile (some (store.setDiagnostic tag none)) c.text := by
  rw [made]
  rfl

/-- Rules without cycles for existing tags, compiled for the tags as they are, whose expressions ask
about tags by `hasTag` only. -/
structure Registry.Consistent (r : Registry) : Prop where
  filed : ∀ tag c, r.constraints.get? tag = some c → c.tag = tag
  acyclic : Constraint.Acyclic r.constraints
  tags : ∀ tag, r.constraints.contains tag = true → (r.store.tag? tag).isSome = true
  upToDate : ∀ tag c, r.constraints.get? tag = some c → c.UpToDate r.constraints r.store
  plain : ∀ tag c e, r.constraints.get? tag = some c → c.expr? = some e → e.Plain

/-- Services that differ from others in the memberships of a subject in constrained tags, and in
nothing else that constraints can see. -/
structure Services.Drift (w : World) (r : SubjectRecord) (constraints : Dict TagId Constraint)
    (s t : Services) : Prop where
  alike : (s.view w r).Alike (t.view w r)
  tags : ∀ u, t.store.tag? u = s.store.tag? u
  others : ∀ u, constraints.contains u = false →
    t.store.isTagged u r.id = s.store.isTagged u r.id

namespace Services.Drift

variable {w : World} {r : SubjectRecord} {constraints : Dict TagId Constraint} {s t u : Services}

theorem refl (s : Services) : Drift w r constraints s s :=
  ⟨.of_eq rfl, fun _ => rfl, fun _ _ => rfl⟩

theorem trans (first : Drift w r constraints s t) (second : Drift w r constraints t u) :
    Drift w r constraints s u where
  alike := first.alike.trans second.alike
  tags v := (second.tags v).trans (first.tags v)
  others v h := (second.others v h).trans (first.others v h)

end Services.Drift

namespace Constraint.UpToDate

variable {w : World} {record : SubjectRecord} {constraints : Dict TagId Constraint}
  {store : TagStore} {c : Constraint} {s t : Services}

/-- A name that a constraint tests gives the same answer if the memberships in the tags that the
constraint depends on are the same. -/
theorem any_name_eq (upToDate : c.UpToDate constraints store) {e : Expr}
    (compiled : c.expr? = some e) (tags : ∀ u, s.store.tag? u = store.tag? u)
    (drift : s.Drift w record constraints t)
    (same : ∀ u ∈ c.dependsOn, t.store.isTagged u record.id = s.store.isTagged u record.id)
    {name : String} (tested : name ∈ e.tagNames) :
    (s.store.tagsOf record.id).any (·.name == name) =
      (t.store.tagsOf record.id).any (·.name == name) := by
  have agree (u : TagId) (x : Tag) (at' : s.store.tag? u = some x) (named : x.name = name) :
      t.store.isTagged u record.id = s.store.isTagged u record.id := by
    cases constrained : constraints.contains u with
    | false => exact drift.others u constrained
    | true =>
      -- The tag was there under this name when the constraint was compiled, so it was noted.
      obtain ⟨earlier, filed, compiled', names, constrainable⟩ := upToDate
      have before : (earlier.tag? u).map (·.name) = some name := by
        rw [names u, ← tags u, at', Option.map_some, named]
      obtain ⟨y, there, named'⟩ := Option.map_eq_some_iff.1 before
      obtain ⟨result, ok, rfl, dependsOn⟩ := Constraint.compiled_of_expr? compiled
      refine same u ?_
      rw [dependsOn, ← filed u y there]
      exact Compile.mem_dependsOn (compiled'.symm.trans ok) tested
        (TagStore.mem_tagsByName.2 ⟨⟨u, there⟩, named'⟩) (constrainable u y constrained there)
  rw [Bool.eq_iff_iff, TagStore.any_name_tagsOf, TagStore.any_name_tagsOf]
  constructor
  · rintro ⟨u, x, at', named, member⟩
    exact ⟨u, x, (drift.tags u).trans at', named, (agree u x at' named).trans member⟩
  · rintro ⟨u, x, at', named, member⟩
    have at' := (drift.tags u).symm.trans at'
    exact ⟨u, x, at', named, (agree u x at' named).symm.trans member⟩

/-- The truth of a constraint depends on memberships in its dependencies only. -/
theorem truth_eq (upToDate : c.UpToDate constraints store)
    (byName : ∀ e, c.expr? = some e → e.ByName) (tags : ∀ u, s.store.tag? u = store.tag? u)
    (drift : s.Drift w record constraints t)
    (same : ∀ u ∈ c.dependsOn, t.store.isTagged u record.id = s.store.isTagged u record.id) :
    c.truth w record s = c.truth w record t := by
  cases compiled : c.expr? with
  | none => simp only [Constraint.truth, compiled]
  | some e =>
    rw [Constraint.truth_eq_reading compiled, Constraint.truth_eq_reading compiled]
    refine congrArg Value.truth ((byName e compiled).reading_congr ?_ drift.alike
      fun name tested => upToDate.any_name_eq compiled tags drift same tested)
    exact ⟨rfl, rfl, rfl, fun _ => rfl⟩

end Constraint.UpToDate

/-- The truth of a constraint depends on memberships in its dependencies only. -/
theorem Registry.Consistent.truth_eq {w : World} {record : SubjectRecord} {r : Registry}
    {c : Constraint} {s t : Services} (consistent : r.Consistent) {tag : TagId}
    (found : r.constraints.get? tag = some c)
    (tags : ∀ u, s.store.tag? u = r.store.tag? u) (drift : s.Drift w record r.constraints t)
    (same : ∀ u ∈ c.dependsOn, t.store.isTagged u record.id = s.store.isTagged u record.id) :
    c.truth w record s = c.truth w record t :=
  (consistent.upToDate tag c found).truth_eq
    (fun e compiled => (consistent.plain tag c e found compiled).byName) tags drift same

end TagRules

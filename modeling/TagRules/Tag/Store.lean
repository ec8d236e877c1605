import TagRules.Subject.Basic
import TagRules.Tag.Basic

/-!
# The tag store

The store holds for each tag its descriptor and its members with the time each joined, and for each
tag at most one diagnostic of its constraint. Descriptor and members are one entry, so a tag without
descriptor has no members. Every change of membership is logged.
-/

namespace TagRules

/-- A change of membership. -/
inductive Change where
  | added (tag : TagId) (subject : SubjectId)
  | removed (tag : TagId) (subject : SubjectId)
deriving DecidableEq, Repr

namespace Change

/-- The tag of a change. -/
def tag : Change → TagId
  | added t _ => t
  | removed t _ => t

/-- The subject of a change. -/
def subject : Change → SubjectId
  | added _ s => s
  | removed _ s => s

end Change

/-- A tag and its members with the times they joined. -/
structure Roll where
  tag : Tag
  members : Dict SubjectId Instant

/-- Tags, members, diagnostics and the log of changes, newest first. -/
structure TagStore where
  rolls : Dict TagId Roll := {}
  diagnostics : Dict TagId String := {}
  log : List Change := []
deriving Inhabited

namespace TagStore

/-- The descriptor of a tag. -/
def tag? (s : TagStore) (t : TagId) : Option Tag :=
  (s.rolls.get? t).map (·.tag)

/-- All descriptors in the order of their identities. -/
def allTags (s : TagStore) : List Tag :=
  s.rolls.values.map (·.tag)

/-- The tags of a name. -/
def tagsByName (s : TagStore) (name : String) : List Tag :=
  s.allTags.filter (·.name == name)

/-- The first tag of a name. -/
def idOf? (s : TagStore) (name : String) : Option TagId :=
  (s.allTags.find? (·.name == name)).map (·.id)

/-- When a subject joined a tag. -/
def addedTime? (s : TagStore) (t : TagId) (subject : SubjectId) : Option Instant :=
  (s.rolls.get? t).bind (·.members.get? subject)

/-- A subject is a member of a tag. -/
def isTagged (s : TagStore) (t : TagId) (subject : SubjectId) : Bool :=
  (s.addedTime? t subject).isSome

/-- The tags that a subject carries. -/
def tagsOf (s : TagStore) (subject : SubjectId) : List Tag :=
  (s.rolls.values.filter (·.members.contains subject)).map (·.tag)

/-- The members of a tag in the order of their identities. -/
def members (s : TagStore) (t : TagId) : List SubjectId :=
  ((s.rolls.get? t).map (·.members.keys)).getD []

/-- The number of members of a tag. -/
def memberCount (s : TagStore) (t : TagId) : Nat :=
  ((s.rolls.get? t).map (·.members.size)).getD 0

/-- The diagnostic of a tag. -/
def diagnostic? (s : TagStore) (t : TagId) : Option String :=
  s.diagnostics.get? t

/-- The changes of membership, oldest first. -/
def changes (s : TagStore) : List Change :=
  s.log.reverse

/-- Put in a tag. A descriptor of the same identity is replaced and its members stay. -/
def insertTag (s : TagStore) (tag : Tag) : TagStore :=
  let members := ((s.rolls.get? tag.id).map (·.members)).getD {}
  { s with rolls := s.rolls.insert tag.id ⟨tag, members⟩ }

/-- Take out a tag with its members and its diagnostic. -/
def removeTag (s : TagStore) (t : TagId) : TagStore :=
  { s with rolls := s.rolls.erase t, diagnostics := s.diagnostics.erase t }

/-- Change a descriptor, where there is one. -/
def updateTag (s : TagStore) (t : TagId) (f : Tag → Tag) : TagStore :=
  { s with rolls := s.rolls.modify t fun roll => { roll with tag := f roll.tag } }

/-- Add a subject to a tag. Nothing happens if the tag has no descriptor or the subject is a member
already. -/
def add (s : TagStore) (now : Instant) (t : TagId) (subject : SubjectId) : TagStore :=
  match s.rolls.get? t with
  | none => s
  | some roll =>
    if roll.members.contains subject then s
    else { s with
      rolls := s.rolls.insert t { roll with members := roll.members.insert subject now }
      log := .added t subject :: s.log }

/-- Remove a subject from a tag. Nothing happens if it is not a member. -/
def remove (s : TagStore) (t : TagId) (subject : SubjectId) : TagStore :=
  match s.rolls.get? t with
  | none => s
  | some roll =>
    if roll.members.contains subject then
      { s with
        rolls := s.rolls.insert t { roll with members := roll.members.erase subject }
        log := .removed t subject :: s.log }
    else s

/-- Set or clear the diagnostic of a tag, whether the tag exists or not. -/
def setDiagnostic (s : TagStore) (t : TagId) (message : Option String) : TagStore :=
  match message with
  | some m => { s with diagnostics := s.diagnostics.insert t m }
  | none => { s with diagnostics := s.diagnostics.erase t }

@[simp] theorem rolls_setDiagnostic (s : TagStore) (t : TagId) (m : Option String) :
    (s.setDiagnostic t m).rolls = s.rolls := by
  cases m <;> rfl

@[simp] theorem log_setDiagnostic (s : TagStore) (t : TagId) (m : Option String) :
    (s.setDiagnostic t m).log = s.log := by
  cases m <;> rfl

theorem diagnostic?_setDiagnostic (s : TagStore) (t u : TagId) (m : Option String) :
    (s.setDiagnostic t m).diagnostic? u = if t = u then m else s.diagnostic? u := by
  cases m with
  | none => exact Dict.get?_erase ..
  | some m => exact Dict.get?_insert ..

end TagStore

end TagRules

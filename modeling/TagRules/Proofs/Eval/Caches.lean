import TagRules.Eval.Services
import TagRules.Pattern.Search

/-!
# Caches

Evaluation keeps settings, file names and outcomes of patterns. Reading through these caches changes
no later answer at the same time. As long as parameters and files stay as they are, what was read is
what there is (`Services.Truthful`).
-/

namespace TagRules

/-- Leaving out entries that a search skips anyhow does not change what it finds. -/
theorem find?_filter_of_imp {p q : α → Bool} (l : List α) (h : ∀ a, p a = true → q a = true) :
    (l.filter q).find? p = l.find? p := by
  induction l with
  | nil => rfl
  | cons a l ih =>
    cases hq : q a with
    | true => simp only [List.filter_cons_of_pos hq, List.find?_cons, ih]
    | false =>
      have hp : p a = false := Bool.eq_false_iff.2 fun hp => by simp [h a hp] at hq
      simp only [List.filter_cons_of_neg (by simp [hq] : ¬q a = true), List.find?_cons, hp, ih]

/-- The outcome of a pattern for one reading of file names: the remembered one, else a new one. -/
def Services.outcome (s : Services) (id : SubjectId) (names : CachedNames) (p : Pattern) : Bool :=
  (s.outcome? id p names.stamp).getD (names.names.any p.search)

namespace SettingsCache

theorem cached?_keep_of_ne (c : SettingsCache) (ticks now : Nat) {key other : String}
    (value : Double) (h : other ≠ key) :
    (c.keep ticks key value).cached? now other = c.cached? now other := by
  have skip := find?_filter_of_imp
    (p := fun e : CachedSetting => e.key == other && now - e.readAt < c.lifetime)
    (q := (·.key != key)) c.entries (by simp_all)
  have first : (key == other) = false := beq_eq_false_iff_ne.2 (Ne.symm h)
  simp only [cached?, keep, List.find?_cons, first, Bool.false_and]
  exact congrArg (Option.map (·.value)) skip

/-- A number that was read just now is still there, unless nothing is ever kept. -/
theorem cached?_keep_self (c : SettingsCache) (ticks : Nat) (key : String) (value : Double) :
    (c.keep ticks key value).cached? ticks key = some value ∨
      (c.keep ticks key value).cached? ticks key = none := by
  by_cases h : 0 < c.lifetime
  · exact .inl (by simp [cached?, keep, h])
  · have : c.lifetime = 0 := by omega
    exact .inr (by simp [cached?, keep, this])

/-- Where nothing is kept, the answer is that of the source. -/
theorem get_of_cached?_eq_none {c : SettingsCache} {source : Option ConfigSource} {ticks : Nat}
    {key : String} (h : c.cached? ticks key = none) :
    (c.get source ticks key).1 = (get {} source ticks key).1 := by
  have empty : cached? {} ticks key = none := rfl
  cases hs : Setting.ofKey? key with
  | none => simp only [get, h, empty, hs]
  | some setting =>
    cases hv : source.bind (· setting.parameter) with
    | none => simp only [get, h, empty, hs, hv]
    | some value => simp only [get, h, empty, hs, hv]

theorem get_of_cached?_eq_some {c : SettingsCache} {source : Option ConfigSource} {ticks : Nat}
    {key : String} {value : Double} (h : c.cached? ticks key = some value) :
    c.get source ticks key = (.ok value, c) := by
  unfold get
  rw [h]

/-- A read either leaves the cache alone or keeps what it answers. -/
theorem get_snd (c : SettingsCache) (source : Option ConfigSource) (ticks : Nat) (key : String) :
    (c.get source ticks key).2 = c ∨
      ∃ value, c.cached? ticks key = none ∧ (c.get source ticks key).1 = .ok value ∧
        (c.get source ticks key).2 = c.keep ticks key value := by
  cases hc : c.cached? ticks key with
  | some value => exact .inl (by simp only [get, hc])
  | none =>
    cases hs : Setting.ofKey? key with
    | none => exact .inl (by simp only [get, hc, hs])
    | some setting =>
      cases hv : source.bind (· setting.parameter) with
      | none => exact .inl (by simp only [get, hc, hs, hv])
      | some value => exact .inr ⟨value, rfl, by simp only [get, hc, hs, hv], by
          simp only [get, hc, hs, hv]⟩

/-- Reading one setting does not change the answer for any. -/
theorem get_get (c : SettingsCache) (source : Option ConfigSource) (ticks : Nat)
    (key other : String) :
    ((c.get source ticks key).2.get source ticks other).1 = (c.get source ticks other).1 := by
  rcases c.get_snd source ticks key with kept | ⟨value, missing, answer, kept⟩
  · rw [kept]
  · rw [kept]
    by_cases same : other = key
    · subst same
      rcases c.cached?_keep_self ticks other value with h | h
      · rw [get_of_cached?_eq_some h, answer]
      · rw [get_of_cached?_eq_none h, get_of_cached?_eq_none missing]
    · have h := c.cached?_keep_of_ne ticks ticks value same
      cases hc : c.cached? ticks other with
      | some found => rw [get_of_cached?_eq_some (h.trans hc), get_of_cached?_eq_some hc]
      | none => rw [get_of_cached?_eq_none (h.trans hc), get_of_cached?_eq_none hc]

end SettingsCache

namespace Services

theorem outcome_rememberOutcome (s : Services) (id : SubjectId) (names : CachedNames)
    (p q : Pattern) :
    (s.rememberOutcome id ⟨p, names.stamp, s.outcome id names p⟩).outcome id names q =
      s.outcome id names q := by
  by_cases h : p = q
  · subst h
    simp [outcome, outcome?, rememberOutcome]
  · have skip := find?_filter_of_imp
      (p := fun m : CachedMatch => m.pattern == q && m.stamp == names.stamp)
      (q := (·.pattern != p)) ((s.outcomes.get? id).getD []) (by
        simp only [Bool.and_eq_true, beq_iff_eq, bne_iff_ne]
        rintro m ⟨rfl, -⟩
        exact Ne.symm h)
    simp only [outcome, outcome?, rememberOutcome, Dict.get?_insert_self, Option.getD_some,
      List.find?_cons, skip, beq_eq_false_iff_ne.2 h, Bool.false_and]

/-- Besides the new outcome there are only older ones. -/
theorem of_mem_rememberOutcome {s : Services} {id other : SubjectId} {m n : CachedMatch}
    (mem : n ∈ ((s.rememberOutcome id m).outcomes.get? other).getD []) :
    id = other ∧ n = m ∨ n ∈ (s.outcomes.get? other).getD [] := by
  simp only [rememberOutcome, Dict.get?_insert] at mem
  split at mem
  · next same =>
    subst same
    rcases List.mem_cons.1 mem with new | old
    · exact .inl ⟨rfl, new⟩
    · exact .inr (List.mem_filter.1 old).1
  · exact .inr mem

/-- What is not forgotten was there before. -/
theorem of_mem_forgetOutcomes {s : Services} {id other : SubjectId} {ps : List Pattern}
    {m : CachedMatch} (mem : m ∈ ((s.forgetOutcomes id ps).outcomes.get? other).getD []) :
    m ∈ (s.outcomes.get? other).getD [] := by
  simp only [forgetOutcomes, Dict.get?_modify] at mem
  split at mem
  · cases kept : s.outcomes.get? other with
    | none => simp [kept] at mem
    | some ms =>
      rw [kept, Option.map_some, Option.getD_some] at mem
      exact (List.mem_filter.1 mem).1
  · exact mem

theorem get?_forgetSubject (s : Services) (id other : SubjectId) :
    (s.forgetSubject id).fileNames.get? other =
      if id = other then none else s.fileNames.get? other :=
  Dict.get?_erase ..

/-- File names that are known are not read again. -/
theorem readFileNames_of_some {s : Services} {r : SubjectRecord} {names : CachedNames}
    (known : s.fileNames.get? r.id = some names) : s.readFileNames r = (names, s) := by
  simp only [readFileNames, known]

theorem readFileNames_of_none {s : Services} {r : SubjectRecord}
    (unknown : s.fileNames.get? r.id = none) :
    s.readFileNames r = (⟨s.nextStamp, r.fileNames⟩, { s with
      fileNames := s.fileNames.insert r.id ⟨s.nextStamp, r.fileNames⟩
      nextStamp := s.nextStamp + 1 }) := by
  simp only [readFileNames, unknown]

/-- Reading file names does nothing to the settings. -/
theorem settings_readFileNames (s : Services) (r : SubjectRecord) :
    (s.readFileNames r).2.settings = s.settings := by
  cases known : s.fileNames.get? r.id with
  | some names => rw [readFileNames_of_some known]
  | none => rw [readFileNames_of_none known]

/-- File names that were read are known. -/
theorem get?_readFileNames (s : Services) (r : SubjectRecord) :
    (s.readFileNames r).2.fileNames.get? r.id = some (s.readFileNames r).1 := by
  cases known : s.fileNames.get? r.id with
  | some names => rw [readFileNames_of_some known, known]
  | none =>
    rw [readFileNames_of_none known]
    exact Dict.get?_insert_self ..

/-- Reading file names a second time gives the same ones. -/
theorem readFileNames_readFileNames (s : Services) (r : SubjectRecord) :
    ((s.readFileNames r).2.readFileNames r).1 = (s.readFileNames r).1 := by
  rw [readFileNames_of_some (s.get?_readFileNames r)]

theorem readFileNames_fst_congr {s t : Services} (r : SubjectRecord)
    (names : s.fileNames = t.fileNames) (stamp : s.nextStamp = t.nextStamp) :
    (s.readFileNames r).1 = (t.readFileNames r).1 := by
  simp only [readFileNames, names, stamp]
  split <;> rfl

end Services

/-- A record is the one of the subject with its identity. -/
def World.Knows (w : World) (r : SubjectRecord) : Prop :=
  ∃ subject, w.subjects.get? r.id = some subject ∧ subject.record = r

/-- What the caches keep is what the parameters and the files of the subjects say. -/
structure Services.Truthful (w : World) (s : Services) : Prop where
  settings : ∀ key value, s.settings.cached? w.ticks key = some value →
    (SettingsCache.get {} w.config w.ticks key).1 = .ok value
  fileNames : ∀ id names, s.fileNames.get? id = some names →
    ∃ subject, w.subjects.get? id = some subject ∧ names.names = subject.record.fileNames
  outcomes : ∀ id, ∀ m ∈ (s.outcomes.get? id).getD [], ∃ subject,
    w.subjects.get? id = some subject ∧ m.matched = subject.record.fileNames.any m.pattern.search

namespace Services.Truthful

variable {w : World} {s : Services} {r : SubjectRecord}

/-- Only caches have to be truthful. -/
theorem congr {t : Services} (truthful : s.Truthful w) (settings : t.settings = s.settings)
    (fileNames : t.fileNames = s.fileNames) (outcomes : t.outcomes = s.outcomes) :
    t.Truthful w where
  settings := settings ▸ truthful.settings
  fileNames := fileNames ▸ truthful.fileNames
  outcomes := outcomes ▸ truthful.outcomes

/-- A setting is read as it is. -/
theorem get_setting (truthful : s.Truthful w) (key : String) :
    (s.settings.get w.config w.ticks key).1 = (SettingsCache.get {} w.config w.ticks key).1 := by
  cases kept : s.settings.cached? w.ticks key with
  | none => exact SettingsCache.get_of_cached?_eq_none kept
  | some value => rw [SettingsCache.get_of_cached?_eq_some kept, truthful.settings key value kept]

/-- File names are read as they are. -/
theorem names_eq (truthful : s.Truthful w) (known : w.Knows r) :
    (s.readFileNames r).1.names = r.fileNames := by
  obtain ⟨subject, found, rfl⟩ := known
  cases kept : s.fileNames.get? subject.record.id with
  | none => rw [readFileNames_of_none kept]
  | some names =>
    rw [readFileNames_of_some kept]
    obtain ⟨other, found', same⟩ := truthful.fileNames _ names kept
    cases found.symm.trans found'
    exact same

/-- A pattern has the outcome that it has on the file names as they are. -/
theorem outcome_eq (truthful : s.Truthful w) (known : w.Knows r) (p : Pattern) :
    s.outcome r.id (s.readFileNames r).1 p = r.fileNames.any p.search := by
  have names := truthful.names_eq known
  obtain ⟨subject, found, rfl⟩ := known
  unfold outcome outcome?
  cases kept : ((s.outcomes.get? subject.record.id).getD []).find? fun m =>
    m.pattern == p && m.stamp == (s.readFileNames subject.record).1.stamp with
  | none => rw [Option.map_none, Option.getD_none, names]
  | some m =>
    obtain ⟨other, found', same⟩ := truthful.outcomes _ m (List.mem_of_find?_eq_some kept)
    cases found.symm.trans found'
    have asked := List.find?_some kept
    simp only [Bool.and_eq_true, beq_iff_eq] at asked
    rw [Option.map_some, Option.getD_some, same, asked.1]

theorem readFileNames (truthful : s.Truthful w) (known : w.Knows r) :
    (s.readFileNames r).2.Truthful w := by
  cases kept : s.fileNames.get? r.id with
  | some names => rwa [readFileNames_of_some kept]
  | none =>
    rw [readFileNames_of_none kept]
    refine ⟨truthful.settings, fun id names kept => ?_, truthful.outcomes⟩
    obtain ⟨subject, found, rfl⟩ := known
    rw [Dict.get?_insert] at kept
    split at kept
    · next same =>
      cases kept
      exact ⟨subject, same ▸ found, rfl⟩
    · exact truthful.fileNames id names kept

theorem rememberOutcome (truthful : s.Truthful w) (known : w.Knows r) (p : Pattern) (stamp : Nat) :
    (s.rememberOutcome r.id ⟨p, stamp, r.fileNames.any p.search⟩).Truthful w := by
  refine ⟨truthful.settings, truthful.fileNames, fun id m mem => ?_⟩
  obtain ⟨subject, found, rfl⟩ := known
  rcases of_mem_rememberOutcome mem with ⟨rfl, rfl⟩ | old
  · exact ⟨subject, found, rfl⟩
  · exact truthful.outcomes id m old

theorem get_settings (truthful : s.Truthful w) (key : String) :
    Truthful w { s with settings := (s.settings.get w.config w.ticks key).2 } := by
  refine ⟨fun other value kept => ?_, truthful.fileNames, truthful.outcomes⟩
  rcases s.settings.get_snd w.config w.ticks key with same | ⟨answer, missing, read, same⟩
  · simp only [same] at kept
    exact truthful.settings other value kept
  · simp only [same] at kept
    by_cases asked : other = key
    · subst asked
      rcases s.settings.cached?_keep_self w.ticks other answer with now | now
      · cases now.symm.trans kept
        exact (SettingsCache.get_of_cached?_eq_none missing).symm.trans read
      · cases now.symm.trans kept
    · rw [SettingsCache.cached?_keep_of_ne _ _ _ _ asked] at kept
      exact truthful.settings other value kept

end Services.Truthful

end TagRules

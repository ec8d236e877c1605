/-!
# Files

Commands read and write files through `FileAccess`, so that what they do can be run and reasoned
about without a file system. A `Folder` holds files in memory; paths are followed in it from the
working directory, part by part, as the system follows them. Main statement: what has been written
to a path is read from it (`read_write`).
-/

namespace TagRules

/-- Why a file cannot be read or written. -/
inductive FileError where
  | missing
  | directory
  | notDirectory
  | nameTooLong
  | other (text : String)
deriving DecidableEq, Repr

/-- The wording of the system. -/
def FileError.text : FileError → String
  | missing => "No such file or directory (os error 2)"
  | directory => "Is a directory (os error 21)"
  | notDirectory => "Not a directory (os error 20)"
  | nameTooLong => "File name too long (os error 36)"
  | other text => text

/-- Reading and writing files by their paths. -/
structure FileAccess (m : Type → Type) where
  read : String → m (Except FileError String)
  write : String → String → m (Except FileError Unit)

/-! ## Paths -/

namespace FilePath

/-- The parts of a path between slashes. -/
def parts (path : String) : List String :=
  path.splitOn "/"

/-- A part that stays in a directory. -/
def staysPut (part : String) : Bool :=
  part = "" || part = "."

/-- The path with an ending added to its last name. Slashes and single dots behind the name are
dropped; a path that ends in two dots, or in nothing else, has no last name. -/
def withEnding? (ending path : String) : Option String :=
  match (parts path).reverse.dropWhile staysPut with
  | [] => none
  | last :: before =>
    if last = ".." then none
    else some ("/".intercalate (last :: before).reverse ++ ending)

end FilePath

/-! ## Folders -/

/-- A place among the files, as the names that lead to it from the working directory. It begins with
`..` as often as it leads out of that directory, and with `/` where it starts at the root. -/
abbrev Location := List String

/-- One directory up. -/
def Location.parent (l : Location) : Location :=
  if l = ["/"] then l
  else if l.getLast?.all (· = "..") then l ++ [".."]
  else l.dropLast

/-- A working directory: the files in and around it. -/
structure Folder where
  files : List (Location × String) := []
deriving DecidableEq, Repr, Inhabited

namespace Folder

/-- The longest name in bytes. -/
def maxName : Nat := 255

/-- The longest path in bytes. -/
def maxPath : Nat := 4095

/-- A folder with files that are given by their paths. -/
def ofFiles (files : List (String × String)) : Folder :=
  ⟨files.map fun (path, text) => ((FilePath.parts path).filter (!FilePath.staysPut ·), text)⟩

/-- The working directory, the ones around it and the root are directories, and so is what a file
lies in. -/
def isDirectory (f : Folder) (l : Location) : Bool :=
  l = ["/"] || l.all (· = "..") || f.files.any fun (file, _) => l.isPrefixOf file && l != file

/-- There is a file or a directory. -/
def holds (f : Folder) (l : Location) : Bool :=
  f.isDirectory l || (f.files.lookup l).isSome

/-- Follow one part of a path. -/
def step (f : Folder) (l : Location) (part : String) : Except FileError Location :=
  if !f.isDirectory l then .error .notDirectory
  else if FilePath.staysPut part then .ok l
  else if part = ".." then .ok l.parent
  else if maxName < part.utf8ByteSize then .error .nameTooLong
  else if f.holds (l ++ [part]) then .ok (l ++ [part])
  else .error .missing

/-- Follow parts of a path. -/
def walk (f : Folder) (l : Location) : List String → Except FileError Location
  | [] => .ok l
  | part :: rest =>
    match f.step l part with
    | .ok l => f.walk l rest
    | .error e => .error e

/-- Where a path starts. -/
def start (path : String) : Location :=
  if (FilePath.parts path).head? = some "" then ["/"] else []

/-- A path that can be followed at all. -/
def checkPath (path : String) : Except FileError Unit :=
  if path.isEmpty then .error .missing
  else if maxPath < path.utf8ByteSize then .error .nameTooLong
  else .ok ()

/-- Read a file. -/
def read (f : Folder) (path : String) : Except FileError String := do
  checkPath path
  let l ← f.walk (start path) (FilePath.parts path)
  match f.files.lookup l with
  | some text => .ok text
  | none => .error .directory

/-- Where a file is written: the last part has to be a name, and all before it a directory. -/
def target (f : Folder) (path : String) : Except FileError Location :=
  match (FilePath.parts path).reverse.dropWhile (· = "") with
  | [] => .error .directory
  | last :: before => do
    let l ← f.walk (start path) before.reverse
    if !f.isDirectory l then .error .notDirectory
    else if last = "." ∨ last = ".." ∨ (FilePath.parts path).getLast? = some "" then
      .error .directory
    else if maxName < last.utf8ByteSize then .error .nameTooLong
    else if f.isDirectory (l ++ [last]) then .error .directory
    else .ok (l ++ [last])

/-- Put a file at a place. -/
def put (f : Folder) (l : Location) (text : String) : Folder :=
  ⟨(l, text) :: f.files.filter (·.1 != l)⟩

/-- Write a file into a directory that exists. -/
def write (f : Folder) (path text : String) : Except FileError Folder := do
  checkPath path
  let l ← f.target path
  return f.put l text

/-- Access to the files of a folder. -/
def access : FileAccess (StateM Folder) where
  read path := do
    let f ← get
    return f.read path
  write path text := do
    let f ← get
    match f.write path text with
    | .ok f => do
      set f
      return .ok ()
    | .error e => return .error e

/-! ## Reading what was written -/

theorem lookup_put (f : Folder) (l : Location) (text : String) :
    (f.put l text).files.lookup l = some text := by
  simp [put]

theorem isDirectory_put {f : Folder} {l : Location} {text : String} {d : Location}
    (h : f.isDirectory d = true) : (f.put l text).isDirectory d = true := by
  simp only [isDirectory, Bool.or_eq_true, List.any_eq_true] at h ⊢
  rcases h with h | ⟨⟨file, content⟩, hfile, h⟩
  · exact .inl h
  · refine .inr ?_
    by_cases hl : file = l
    · exact ⟨(l, text), by simp [put], hl ▸ h⟩
    · exact ⟨(file, content), by simp [put, hfile, hl], h⟩

theorem holds_put {f : Folder} {l : Location} {text : String} {d : Location}
    (h : f.holds d = true) : (f.put l text).holds d = true := by
  simp only [holds, Bool.or_eq_true] at h ⊢
  rcases h with h | h
  · exact .inl (isDirectory_put h)
  · refine .inr ?_
    by_cases hd : d = l
    · simp [hd, lookup_put]
    · simp only [List.lookup_isSome_iff, put, List.mem_cons, List.mem_filter] at h ⊢
      obtain ⟨p, hp, hdp⟩ := h
      refine ⟨p, .inr ⟨hp, ?_⟩, hdp⟩
      have := (beq_iff_eq.1 hdp)
      simp [← this, hd]

theorem step_put {f : Folder} {l : Location} {text : String} {d e : Location} {part : String}
    (h : f.step d part = .ok e) : (f.put l text).step d part = .ok e := by
  unfold step at h ⊢
  split at h
  · cases h
  · rename_i hd
    have hd : f.isDirectory d = true := by simpa using hd
    simp only [isDirectory_put hd, Bool.not_true, Bool.false_eq_true, if_false]
    by_cases hstay : FilePath.staysPut part = true
    · simpa [hstay] using h
    · by_cases hup : part = ".."
      · simpa [hstay, hup] using h
      · by_cases hlong : maxName < part.utf8ByteSize
        · simp [hstay, hup, hlong] at h
        · by_cases hholds : f.holds (d ++ [part]) = true
          · simpa [hstay, hup, hlong, hholds, holds_put hholds] using h
          · simp [hstay, hup, hlong, hholds] at h

theorem walk_put {f : Folder} {l : Location} {text : String} {d e : Location}
    {parts : List String} (h : f.walk d parts = .ok e) :
    (f.put l text).walk d parts = .ok e := by
  induction parts generalizing d with
  | nil => exact h
  | cons part rest ih =>
    simp only [walk] at h ⊢
    split at h
    · rename_i hs
      rw [step_put hs]
      exact ih h
    · cases h

theorem walk_append {f : Folder} {d e : Location} {parts rest : List String}
    (h : f.walk d parts = .ok e) : f.walk d (parts ++ rest) = f.walk e rest := by
  induction parts generalizing d with
  | nil =>
    cases h
    rfl
  | cons part more ih =>
    simp only [walk, List.cons_append] at h ⊢
    split at h
    · exact ih h
    · cases h

/-- Where nothing is dropped behind the last part, the parts are the ones before it and itself. -/
theorem parts_eq_of_dropWhile {parts before : List String} {last : String}
    (h : parts.reverse.dropWhile (· = "") = last :: before) (hlast : parts.getLast? ≠ some "") :
    parts = before.reverse ++ [last] := by
  have hr : parts.reverse = last :: before := by
    cases hp : parts.reverse with
    | nil => simp [hp] at h
    | cons a rest =>
      have ha : a ≠ "" := by
        rintro rfl
        exact hlast (by rw [List.getLast?_eq_head?_reverse, hp]; rfl)
      simpa [hp, ha] using h
  rw [← List.reverse_reverse parts, hr, List.reverse_cons]

/-- A place where a file can be written is where its path leads once it is there. -/
theorem walk_target {f : Folder} {path text : String} {l : Location}
    (h : f.target path = .ok l) :
    (f.put l text).walk (start path) (FilePath.parts path) = .ok l := by
  unfold target at h
  split at h
  · cases h
  · rename_i last before hparts
    simp only [bind, Except.bind] at h
    split at h
    · cases h
    · rename_i d hd
      by_cases hdir : f.isDirectory d = true
      · by_cases hname : last = "." ∨ last = ".." ∨ (FilePath.parts path).getLast? = some ""
        · simp [hdir, hname] at h
        · by_cases hlong : maxName < last.utf8ByteSize
          · simp [hdir, hname, hlong] at h
          · by_cases hthere : f.isDirectory (d ++ [last]) = true
            · simp [hdir, hname, hlong, hthere] at h
            · simp only [hdir, Bool.not_true, Bool.false_eq_true, if_false, hname, hlong,
                hthere, Except.ok.injEq] at h
              subst h
              obtain ⟨hdot, hup, hlast⟩ : last ≠ "." ∧ last ≠ ".." ∧ _ := by
                simpa only [not_or] using hname
              have hall := parts_eq_of_dropWhile hparts hlast
              have hne : last ≠ "" := by
                rintro rfl
                simp [hall] at hlast
              rw [hall, walk_append (walk_put hd)]
              simp only [walk, step, isDirectory_put hdir, Bool.not_true, Bool.false_eq_true,
                if_false, FilePath.staysPut, hdot, hne, hup, hlong, holds, lookup_put,
                Option.isSome_some, Bool.or_true, if_true, decide_false, Bool.or_self]
      · simp [hdir] at h

/-- What has been written to a path is read from it. -/
theorem read_write {f g : Folder} {path text : String} (h : f.write path text = .ok g) :
    g.read path = .ok text := by
  simp only [write, bind, Except.bind] at h
  split at h
  · cases h
  · rename_i hpath
    split at h
    · cases h
    · rename_i l hl
      cases h
      simp only [read, bind, Except.bind, hpath, walk_target hl, lookup_put]

end Folder

end TagRules

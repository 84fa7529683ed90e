import Fixture.Proofs.Folder.Paths

/-!
# Where a path puts a file

A path puts a file where its last step leads, if that is a name which a file has or nothing
has yet. No path that leads to a directory does so. Once the file is there, the path leads to
it, and the directories are the ones that were there before.
-/

namespace Fixture

namespace Folder

variable {folder other : Folder} {path : String}

/-- A file has this name in this place, or may be given it. -/
def TakesFile (folder : Folder) (place : Place) (name : String) : Prop :=
  folder.step place name = .error .notFound ∨
    ∃ content, folder.step place name = .ok (.file content)

theorem takesFile_iff (folder : Folder) (place : Place) (name : String) :
    folder.TakesFile place name ↔
      ¬(name = "" ∨ name = ".") ∧ name ≠ ".." ∧ ¬maxStep < name.utf8ByteSize ∧
        Entries.get? folder.entries (Draft.key ⟨place, name⟩) ≠ some .directory := by
  unfold TakesFile step Draft.key
  by_cases hstay : name = "" ∨ name = "."
  · simp [hstay]
  by_cases hup : name = ".."
  · simp [hup]
  by_cases hlong : maxStep < name.utf8ByteSize
  · simp [hstay, hup, hlong]
  simp only [hstay, hup, hlong, if_false]
  rcases hget : Entries.get? folder.entries (nameOf (place ++ [name])) with
    _ | (_ | content)
  · simp [hup]
  · simp
  · simp [hup]

theorem takesFile_of_same (h : SameDirectories folder other) {place : Place} {name : String}
    (htakes : folder.TakesFile place name) : other.TakesFile place name := by
  rw [takesFile_iff] at htakes ⊢
  obtain ⟨hstay, hup, hlong, hfree⟩ := htakes
  exact ⟨hstay, hup, hlong, fun hget => hfree ((h.directory_iff _).2 hget)⟩

theorem lastStep_eq_some {before : List String} {name : String}
    (h : lastStep? path = some (before, name, false)) :
    stepsOf path = before ++ [name] ∧ name ≠ "" := by
  rw [lastStep?] at h
  rcases hsteps : (stepsOf path).reverse with _ | ⟨last, earlier⟩
  · exact absurd (List.reverse_eq_nil_iff.1 hsteps) (stepsOf_ne_nil path)
  · rw [hsteps] at h
    by_cases hlast : last = ""
    · -- an empty last step is a slash at the end
      split at h
      · cases h
      · simp [hlast] at h
    · simp only [List.dropWhile_cons, hlast, decide_false, Bool.false_eq_true, if_false,
        Option.some.injEq, Prod.mk.injEq] at h
      obtain ⟨hbefore, hname, _⟩ := h
      rw [← hbefore, ← hname]
      exact ⟨List.reverse_eq_cons_iff.1 hsteps, hlast⟩

theorem lastPlace_eq_ok {before : List String} {place : Place} {name : String}
    (hlast : lastStep? path = some (before, name, false))
    (hwalk : folder.walk (folder.origin path) before = .ok (.directory place))
    (hdots : ¬(name = "." ∨ name = "..")) (htakes : folder.TakesFile place name) :
    folder.lastPlace path = .ok (place, name) := by
  rw [lastPlace, hlast]
  simp only [hwalk, if_neg hdots]
  rcases htakes with hfree | ⟨content, hfile⟩
  · rw [hfree]
    rfl
  · rw [hfile]
    rfl

theorem of_lastPlace_eq_ok {place : Place} {name : String}
    (h : folder.lastPlace path = .ok (place, name)) :
    ∃ before, lastStep? path = some (before, name, false) ∧
      folder.walk (folder.origin path) before = .ok (.directory place) ∧
      ¬(name = "." ∨ name = "..") ∧ folder.TakesFile place name := by
  unfold lastPlace at h
  split at h
  · cases h
  rename_i before last slash hlast
  split at h
  · cases h
  · cases h
  rename_i reached hwalk
  split at h
  · cases h
  rename_i hdots
  split at h
  · rename_i hstep
    cases slash with
    | true => cases h
    | false =>
      obtain ⟨rfl, rfl⟩ := Prod.mk.inj (Except.ok.inj h)
      exact ⟨before, hlast, hwalk, hdots, Or.inl hstep⟩
  · cases h
  · rename_i content hstep
    cases slash with
    | true => cases h
    | false =>
      obtain ⟨rfl, rfl⟩ := Prod.mk.inj (Except.ok.inj h)
      exact ⟨before, hlast, hwalk, hdots, Or.inr ⟨content, hstep⟩⟩
  · cases slash <;> cases h

theorem target_eq_ok_iff (folder : Folder) (path : String) (place : Place) (name : String) :
    folder.target path = .ok (place, name) ↔
      '\x00' ∉ path.toList ∧ pathFault? path = none ∧
        folder.lastPlace path = .ok (place, name) := by
  unfold target
  by_cases hnull : '\x00' ∈ path.toList
  · simp [hnull]
  · cases hfault : pathFault? path with
    | some fault => simp [hnull]
    | none => simp [hnull]

theorem follow_eq_ok_iff (folder : Folder) (path : String) (node : Node) :
    folder.follow path = .ok node ↔
      '\x00' ∉ path.toList ∧ pathFault? path = none ∧
        folder.walk (folder.origin path) (stepsOf path) = .ok node := by
  unfold follow
  by_cases hnull : '\x00' ∈ path.toList
  · simp [hnull]
  · cases hfault : pathFault? path with
    | some fault => simp [hnull]
    | none => simp [hnull]

/-- Folders with the same directories agree on where a path puts a file. -/
theorem target_of_same (h : SameDirectories folder other) {place : Place} {name : String}
    (htarget : folder.target path = .ok (place, name)) :
    other.target path = .ok (place, name) := by
  rw [target_eq_ok_iff] at htarget ⊢
  obtain ⟨hnull, hfault, hplace⟩ := htarget
  obtain ⟨before, hlast, hwalk, hdots, htakes⟩ := of_lastPlace_eq_ok hplace
  rw [← h.origin_eq] at hwalk
  exact ⟨hnull, hfault, lastPlace_eq_ok hlast (walk_directory_of_same h hwalk) hdots
    (takesFile_of_same h htakes)⟩

theorem target_ne_ok_of_directory {reached : Place}
    (h : folder.follow path = .ok (.directory reached)) (place : Place) (name : String) :
    folder.target path ≠ .ok (place, name) := by
  intro htarget
  rw [follow_eq_ok_iff] at h
  rw [target_eq_ok_iff] at htarget
  obtain ⟨_, _, hfollow⟩ := h
  obtain ⟨_, _, hplace⟩ := htarget
  obtain ⟨before, hlast, hwalk, hdots, htakes⟩ := of_lastPlace_eq_ok hplace
  obtain ⟨hsteps, hne⟩ := lastStep_eq_some hlast
  rw [hsteps, walk_append, hwalk] at hfollow
  rcases htakes with hfree | ⟨content, hfile⟩
  · simp [walk_directory_cons, hfree] at hfollow
  · simp [walk_directory_cons, hfile] at hfollow

theorem same_putFile {draft : Draft}
    (hfree : Entries.get? folder.entries draft.key ≠ some .directory) (content : ByteArray) :
    SameDirectories folder (folder.putFile draft content) := by
  refine ⟨rfl, fun other => ?_⟩
  rw [putFile]
  by_cases hother : other = draft.key
  · rw [hother, Entries.get?_put_self]
    simp [hfree]
  · rw [Entries.get?_put_of_ne folder.entries hother]

theorem get?_putFile_of_ne {draft : Draft} {other : String} (h : other ≠ draft.key)
    (content : ByteArray) :
    Entries.get? (folder.putFile draft content).entries other =
      Entries.get? folder.entries other :=
  Entries.get?_put_of_ne folder.entries h _

/-- A file is read through the path that put it where it is. -/
theorem read_putFile {place : Place} {name : String} (h : folder.target path = .ok (place, name))
    (content : ByteArray) :
    (folder.putFile ⟨place, name⟩ content).read path = .ok content := by
  obtain ⟨hnull, hfault, hplace⟩ := (target_eq_ok_iff folder path place name).1 h
  obtain ⟨before, hlast, hwalk, hdots, htakes⟩ := of_lastPlace_eq_ok hplace
  obtain ⟨hsteps, hne⟩ := lastStep_eq_some hlast
  obtain ⟨hstay, hup, hlong, hfree⟩ := (takesFile_iff folder place name).1 htakes
  have hsame := same_putFile hfree content
  have hstep : (folder.putFile ⟨place, name⟩ content).step place name =
      .ok (.file content) := by
    have hput : Entries.get? (folder.putFile ⟨place, name⟩ content).entries
        (nameOf (place ++ [name])) = some (.file content) :=
      Entries.get?_put_self _ _ _
    rw [step, if_neg hstay, if_neg hup, if_neg hlong, hput]
  have hfollow : (folder.putFile ⟨place, name⟩ content).follow path = .ok (.file content) := by
    rw [follow_eq_ok_iff]
    refine ⟨hnull, hfault, ?_⟩
    rw [hsteps, walk_append, hsame.origin_eq, walk_directory_of_same hsame hwalk]
    simp [walk_directory_cons, hstep]
  rw [Folder.read, hfollow]

end Folder

end Fixture

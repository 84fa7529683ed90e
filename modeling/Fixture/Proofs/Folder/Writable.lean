import Fixture.Proofs.Folder.Draft

/-!
# Paths that name a file

A path names a file if its last step is a name, in a directory that is there, and if it does
not lead to a directory. It puts a file there exactly if it keeps the limits of the system,
which bound the name and the path. A draft beside the file has a limit of its own.
-/

namespace Fixture

namespace Folder

variable {folder : Folder} {path name : String} {place : Place}

/-- The path ends in a name without a slash after it, in a directory that is there, and leads
to no directory itself. -/
structure NamesFile (folder : Folder) (path : String) (place : Place) (name : String) :
    Prop where
  steps : ∃ before, stepsOf path = before ++ [name] ∧
    folder.walk (folder.origin path) before = .ok (.directory place)
  isName : name ≠ "" ∧ name ≠ "." ∧ name ≠ ".."
  noDirectory : ∀ reached, folder.follow path ≠ .ok (.directory reached)

/-- The path and the name at its end are not too long, and no character ends the path early. -/
structure KeepsLimits (path name : String) : Prop where
  noNull : '\x00' ∉ path.toList
  step_le : name.utf8ByteSize ≤ maxStep
  path_le : path.utf8ByteSize ≤ maxPath

theorem path_ne_empty {before : List String} (hsteps : stepsOf path = before ++ [name])
    (hname : name ≠ "") : path ≠ "" := by
  rintro rfl
  have hlast := congrArg List.getLast? hsteps
  rw [List.getLast?_concat] at hlast
  exact hname (Option.some.inj hlast).symm

theorem lastStep_of_steps {before : List String} (hsteps : stepsOf path = before ++ [name])
    (hname : name ≠ "") : lastStep? path = some (before, name, false) := by
  simp [lastStep?, hsteps, hname]

theorem NamesFile.takesFile (h : folder.NamesFile path place name)
    (hlimits : KeepsLimits path name) : folder.TakesFile place name := by
  obtain ⟨before, hsteps, hwalk⟩ := h.steps
  obtain ⟨hempty, hdot, hup⟩ := h.isName
  have hstay : ¬(name = "" ∨ name = ".") := fun hstay => hstay.elim hempty hdot
  have hlong : ¬maxStep < name.utf8ByteSize := Nat.not_lt.2 hlimits.step_le
  refine (takesFile_iff folder place name).2 ⟨hstay, hup, hlong, fun hdirectory => ?_⟩
  have hstep : folder.step place name = .ok (.directory (place ++ [name])) := by
    have hget : Entries.get? folder.entries (nameOf (place ++ [name])) = some .directory :=
      hdirectory
    rw [step, if_neg hstay, if_neg hup, if_neg hlong, hget]
  apply h.noDirectory (place ++ [name])
  rw [follow_eq_ok_iff]
  refine ⟨hlimits.noNull, pathFault_eq_none (path_ne_empty hsteps hempty) hlimits.path_le, ?_⟩
  rw [hsteps, walk_append, hwalk]
  simp only [walk_directory_cons, hstep, walk_nil]

/-- Within the limits a path that names a file puts one there. -/
theorem NamesFile.target_eq (h : folder.NamesFile path place name)
    (hlimits : KeepsLimits path name) : folder.target path = .ok (place, name) := by
  obtain ⟨before, hsteps, hwalk⟩ := h.steps
  obtain ⟨hempty, hdot, hup⟩ := h.isName
  rw [target_eq_ok_iff]
  exact ⟨hlimits.noNull, pathFault_eq_none (path_ne_empty hsteps hempty) hlimits.path_le,
    lastPlace_eq_ok (lastStep_of_steps hsteps hempty) hwalk (fun hdots => hdots.elim hdot hup)
      (h.takesFile hlimits)⟩

theorem NamesFile.exists_makeDraft_eq (h : folder.NamesFile path place name)
    (hnull : '\x00' ∉ path.toList) (hfits : folder.DraftFits path) :
    ∃ draft prepared, folder.makeDraft path = .ok (draft, prepared) := by
  obtain ⟨before, hsteps, hwalk⟩ := h.steps
  obtain ⟨parent, hparent⟩ := walk_parentPath_of_steps hsteps hwalk
  exact makeDraft_of_parent hnull hparent hfits

theorem NamesFile.keepsLimits (h : folder.NamesFile path place name) {reached : Place}
    {last : String} (htarget : folder.target path = .ok (reached, last)) :
    KeepsLimits path name := by
  obtain ⟨before, hsteps, _⟩ := h.steps
  obtain ⟨hnull, hfault, hplace⟩ := (target_eq_ok_iff folder path reached last).1 htarget
  obtain ⟨earlier, hlast, _, _, htakes⟩ := of_lastPlace_eq_ok hplace
  rw [lastStep_of_steps hsteps h.isName.1, Option.some.injEq, Prod.mk.injEq,
    Prod.mk.injEq] at hlast
  obtain ⟨_, rfl, _⟩ := hlast
  obtain ⟨_, _, hlong, _⟩ := (takesFile_iff folder reached name).1 htakes
  refine ⟨hnull, Nat.not_lt.1 hlong, ?_⟩
  by_contra hsize
  rw [pathFault?, if_neg (by simpa using path_ne_empty hsteps h.isName.1),
    if_pos (Nat.lt_of_not_le hsize)] at hfault
  cases hfault

end Folder

end Fixture

import Fixture.Folder.Replace
import Fixture.Proofs.Text.Pieces

/-!
# Walking along paths

A walk takes the steps of a path one after the other, and only directories can be left. So
where a walk leads to a directory depends on the directories alone: two folders that have
the same directories agree on it, and on the place and the name that a path gives to a file.
The steps to the folder itself and those of a path in it make the full path of what the path
leads to.
-/

namespace Fixture

namespace Folder

variable {folder other : Folder} {path : String}

/-! The steps of a path and the name that they make -/

theorem toList_nameOf (steps : List String) :
    (nameOf steps).toList = Text.joined '/' (steps.map String.toList) := by
  rw [nameOf, String.toList_intercalate]
  rfl

theorem stepsOf_ne_nil (path : String) : stepsOf path ≠ [] := by
  intro h
  exact Text.pieces_ne_nil '/' path.toList (List.map_eq_nil_iff.1 h)

theorem toList_map_stepsOf (path : String) :
    (stepsOf path).map String.toList = Text.pieces '/' path.toList := by
  rw [stepsOf, List.map_map]
  simp

theorem slash_not_mem_of_mem_stepsOf {step : String} (h : step ∈ stepsOf path) :
    '/' ∉ step.toList := by
  have hmem : step.toList ∈ Text.pieces '/' path.toList :=
    toList_map_stepsOf path ▸ List.mem_map_of_mem h
  exact Text.not_mem_of_mem_pieces hmem

theorem stepsOf_nameOf {steps : List String} (hne : steps ≠ [])
    (h : ∀ step ∈ steps, '/' ∉ step.toList) : stepsOf (nameOf steps) = steps := by
  have hparts : ∀ part ∈ steps.map String.toList, '/' ∉ part := by
    intro part hpart
    obtain ⟨step, hstep, rfl⟩ := List.mem_map.1 hpart
    exact h step hstep
  rw [stepsOf, toList_nameOf, Text.pieces_joined (by simpa using hne) hparts, List.map_map]
  simp

theorem nameOf_stepsOf (path : String) : nameOf (stepsOf path) = path := by
  apply String.toList_inj.1
  rw [toList_nameOf, toList_map_stepsOf, Text.joined_pieces]

theorem mem_nameOf_iff {c : Char} (hc : c ≠ '/') {steps : List String} :
    c ∈ (nameOf steps).toList ↔ ∃ step ∈ steps, c ∈ step.toList := by
  rw [toList_nameOf, Text.mem_joined_iff hc]
  constructor
  · rintro ⟨part, hpart, hmem⟩
    obtain ⟨step, hstep, rfl⟩ := List.mem_map.1 hpart
    exact ⟨step, hstep, hmem⟩
  · rintro ⟨step, hstep, hmem⟩
    exact ⟨step.toList, List.mem_map_of_mem hstep, hmem⟩

/-! Walks -/

@[simp] theorem walk_nil (folder : Folder) (node : Node) : folder.walk node [] = .ok node := by
  rw [walk]

theorem walk_file_cons (folder : Folder) (content : ByteArray) (name : String)
    (rest : List String) :
    folder.walk (.file content) (name :: rest) = .error .notADirectory := by
  rw [walk]

theorem walk_directory_cons (folder : Folder) (place : Place) (name : String)
    (rest : List String) :
    folder.walk (.directory place) (name :: rest) =
      match folder.step place name with
      | .error error => .error error
      | .ok node => folder.walk node rest := by
  cases hstep : folder.step place name with
  | error error => rw [walk, hstep]
  | ok node => rw [walk, hstep]

theorem walk_append (folder : Folder) (node : Node) (steps more : List String) :
    folder.walk node (steps ++ more) =
      match folder.walk node steps with
      | .error error => .error error
      | .ok reached => folder.walk reached more := by
  induction steps generalizing node with
  | nil => simp
  | cons name rest ih =>
    cases node with
    | file content => simp only [List.cons_append, walk_file_cons]
    | directory place =>
      rw [List.cons_append, walk_directory_cons, walk_directory_cons]
      cases folder.step place name with
      | error error => rfl
      | ok node => exact ih node

theorem directory_of_walk_append {node last : Node} {steps more : List String}
    (hne : more ≠ []) (h : folder.walk node (steps ++ more) = .ok last) :
    ∃ place, folder.walk node steps = .ok (.directory place) ∧
      folder.walk (.directory place) more = .ok last := by
  rw [walk_append] at h
  cases hreach : folder.walk node steps with
  | error error =>
    rw [hreach] at h
    cases h
  | ok reached =>
    rw [hreach] at h
    cases reached with
    | directory place => exact ⟨place, rfl, h⟩
    | file content =>
      obtain ⟨name, rest, rfl⟩ := List.exists_cons_of_ne_nil hne
      simp only [walk_file_cons] at h
      cases h

/-! Folders with the same directories -/

/-- The two folders have the same place, in trees with directories under the same names. -/
structure SameDirectories (folder other : Folder) : Prop where
  home_eq : folder.home = other.home
  directory_iff : ∀ name, Entries.get? folder.entries name = some .directory ↔
    Entries.get? other.entries name = some .directory

theorem SameDirectories.symm (h : SameDirectories folder other) :
    SameDirectories other folder :=
  ⟨h.home_eq.symm, fun name => (h.directory_iff name).symm⟩

theorem SameDirectories.origin_eq (h : SameDirectories folder other) (path : String) :
    other.origin path = folder.origin path := by
  rw [origin, origin, h.home_eq]

theorem step_directory_of_same (h : SameDirectories folder other) {place reached : Place}
    {name : String} (hstep : folder.step place name = .ok (.directory reached)) :
    other.step place name = .ok (.directory reached) := by
  unfold step at hstep ⊢
  split
  · rename_i hstay
    rwa [if_pos hstay] at hstep
  rename_i hstay
  rw [if_neg hstay] at hstep
  split
  · rename_i hup
    rwa [if_pos hup] at hstep
  rename_i hup
  rw [if_neg hup] at hstep
  split
  · rename_i hlong
    rwa [if_pos hlong] at hstep
  rename_i hlong
  rw [if_neg hlong] at hstep
  rcases hget : Entries.get? folder.entries (nameOf (place ++ [name])) with
    _ | (_ | content)
  · rw [hget] at hstep
    cases hstep
  · rw [hget] at hstep
    rw [(h.directory_iff _).1 hget]
    exact hstep
  · rw [hget] at hstep
    cases hstep

theorem walk_directory_of_same (h : SameDirectories folder other) {node : Node}
    {steps : List String} {reached : Place}
    (hwalk : folder.walk node steps = .ok (.directory reached)) :
    other.walk node steps = .ok (.directory reached) := by
  induction steps generalizing node with
  | nil => simpa using hwalk
  | cons name rest ih =>
    have hwalk : folder.walk node ([] ++ name :: rest) = .ok (.directory reached) := hwalk
    obtain ⟨place, hfirst, hrest⟩ :=
      directory_of_walk_append (List.cons_ne_nil name rest) hwalk
    rw [walk_nil, Except.ok.injEq] at hfirst
    subst hfirst
    rw [walk_directory_cons] at hrest ⊢
    cases hstep : folder.step place name with
    | error error =>
      rw [hstep] at hrest
      cases hrest
    | ok next =>
      rw [hstep] at hrest
      cases next with
      | directory between =>
        rw [step_directory_of_same h hstep]
        exact ih hrest
      | file content =>
        cases rest with
        | nil => simp at hrest
        | cons second rest => simp [walk_file_cons] at hrest

end Folder

end Fixture

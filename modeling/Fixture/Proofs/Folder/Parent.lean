import Fixture.Proofs.Folder.Paths

/-!
# The parent of a path

The parent of a path is written as the path is, up to some step, and what stays at the end is
left out of it. So where a path leads anywhere its parent leads to a directory, and what does
not occur in the path does not occur in the parent.
-/

namespace Fixture

namespace Folder

variable {folder : Folder} {path : String}

theorem settled_prefix (steps : List String) : settled steps <+: steps := by
  have hsuffix := List.dropWhile_suffix (l := steps.reverse)
    fun step => step = "" ∨ step = "."
  rw [settled, ← List.reverse_suffix, List.reverse_reverse]
  exact hsuffix

theorem exists_of_settled_ne_nil {steps : List String} (h : settled steps ≠ []) :
    ∃ back, back ≠ [] ∧ steps = settled (settled steps).dropLast ++ back := by
  obtain ⟨stays, hstays⟩ := settled_prefix steps
  obtain ⟨between, hbetween⟩ := settled_prefix (settled steps).dropLast
  refine ⟨between ++ [(settled steps).getLast h] ++ stays, by simp, ?_⟩
  rw [← List.append_assoc, ← List.append_assoc, hbetween, List.dropLast_concat_getLast, hstays]

/-- The parent of a path is written as some of its first steps. -/
theorem parentPath_cases (path : String) :
    parentPath path = "." ∨
      ∃ front back, front ≠ [] ∧ back ≠ [] ∧ stepsOf path = front ++ back ∧
        (parentPath path = "/" ∨ parentPath path = nameOf front ∧ nameOf front ≠ "") := by
  unfold parentPath
  split
  · exact Or.inl rfl
  rename_i first rest hsteps
  split
  · exact Or.inl rfl
  rename_i hsettled
  obtain ⟨back, hback, hrest⟩ := exists_of_settled_ne_nil hsettled
  refine Or.inr ⟨first :: settled (settled rest).dropLast, back, List.cons_ne_nil _ _, hback,
    ?_, ?_⟩
  · rw [hsteps, List.cons_append, ← hrest]
  · dsimp only
    split
    · exact Or.inl rfl
    · rename_i hempty
      exact Or.inr ⟨rfl, fun heq => hempty (by rw [heq]; rfl)⟩

theorem parentPath_ne_empty (path : String) : parentPath path ≠ "" := by
  rcases parentPath_cases path with hdot | ⟨front, _, _, _, _, hslash | ⟨hname, hne⟩⟩
  · rw [hdot]
    decide
  · rw [hslash]
    decide
  · rwa [hname]

theorem isAbsolute_nameOf {first : String} (h : '/' ∉ first.toList) (rest : List String) :
    isAbsolute (nameOf (first :: rest)) = decide (first = "" ∧ rest ≠ []) := by
  have hhead : first.toList.head? ≠ some '/' :=
    fun heq => h (List.mem_of_mem_head? heq)
  rw [isAbsolute, decide_eq_decide, toList_nameOf, List.map_cons]
  by_cases hrest : rest = []
  · rw [hrest, List.map_nil, Text.joined_singleton]
    simp [hhead]
  · rw [Text.joined_cons (by simpa using hrest)]
    cases hchars : first.toList with
    | nil =>
      have hempty : first = "" := String.toList_eq_nil_iff.1 hchars
      simp [hempty, hrest]
    | cons c cs =>
      have hempty : first ≠ "" := fun heq => by simp [heq] at hchars
      rw [hchars] at hhead
      simpa [hempty] using hhead

theorem origin_nameOf_append {front back : List String} (hback : back ≠ [])
    (h : ∀ step ∈ front ++ back, '/' ∉ step.toList) (hne : nameOf front ≠ "") :
    folder.origin (nameOf (front ++ back)) = folder.origin (nameOf front) := by
  cases front with
  | nil => exact absurd rfl hne
  | cons first rest =>
    have hfirst : '/' ∉ first.toList := h first (by simp)
    have habsolute : isAbsolute (nameOf (first :: (rest ++ back))) =
        isAbsolute (nameOf (first :: rest)) := by
      rw [isAbsolute_nameOf hfirst, isAbsolute_nameOf hfirst, decide_eq_decide]
      by_cases hrest : rest = []
      · have hnamed : first ≠ "" := by
          intro hempty
          rw [hempty, hrest] at hne
          exact hne rfl
        simp [hnamed]
      · simp [hrest, hback]
    rw [List.cons_append, origin, origin, habsolute]

theorem walk_parentPath_of_steps {before : List String} {name : String} {place : Place}
    (hsteps : stepsOf path = before ++ [name])
    (h : folder.walk (folder.origin path) before = .ok (.directory place)) :
    ∃ parent, folder.walk (folder.origin (parentPath path)) (stepsOf (parentPath path)) =
      .ok (.directory parent) := by
  rcases parentPath_cases path with hdot | ⟨front, back, hfront, hback, hparts, hparent⟩
  · rw [hdot]
    exact ⟨folder.home, rfl⟩
  · rcases hparent with hslash | ⟨hname, hne⟩
    · rw [hslash]
      exact ⟨[], rfl⟩
    · have hclean : ∀ step ∈ front ++ back, '/' ∉ step.toList := by
        intro step hstep
        exact slash_not_mem_of_mem_stepsOf (hparts ▸ hstep)
      have horigin : folder.origin path = folder.origin (nameOf front) := by
        rw [← nameOf_stepsOf path, hparts]
        exact origin_nameOf_append hback hclean hne
      have hwritten : stepsOf (nameOf front) = front :=
        stepsOf_nameOf hfront fun step hstep => hclean step (List.mem_append_left back hstep)
      have hprefix : front ++ back.dropLast = before := by
        rw [← List.dropLast_append_of_ne_nil hback, ← hparts, hsteps, List.dropLast_concat]
      rw [hname, hwritten, ← horigin]
      rw [← hprefix] at h
      by_cases hbetween : back.dropLast = []
      · rw [hbetween, List.append_nil] at h
        exact ⟨place, h⟩
      · obtain ⟨parent, hwalk, _⟩ := directory_of_walk_append hbetween h
        exact ⟨parent, hwalk⟩

/-- If a path leads anywhere its parent is a directory. -/
theorem walk_parentPath {node : Node}
    (h : folder.walk (folder.origin path) (stepsOf path) = .ok node) :
    ∃ place, folder.walk (folder.origin (parentPath path)) (stepsOf (parentPath path)) =
      .ok (.directory place) := by
  have hsteps := (List.dropLast_concat_getLast (stepsOf_ne_nil path)).symm
  rw [hsteps] at h
  obtain ⟨place, hwalk, _⟩ := directory_of_walk_append (List.cons_ne_nil _ _) h
  exact walk_parentPath_of_steps hsteps hwalk

theorem null_not_mem_parentPath (h : '\x00' ∉ path.toList) :
    '\x00' ∉ (parentPath path).toList := by
  rcases parentPath_cases path with hdot | ⟨front, back, _, _, hsteps, hslash | ⟨hname, _⟩⟩
  · rw [hdot]
    decide
  · rw [hslash]
    decide
  · rw [hname, mem_nameOf_iff (by decide)]
    rintro ⟨step, hstep, hmem⟩
    apply h
    rw [← nameOf_stepsOf path, mem_nameOf_iff (by decide), hsteps]
    exact ⟨step, List.mem_append_left back hstep, hmem⟩

theorem settled_concat {name : String} (h : ¬(name = "" ∨ name = ".")) (steps : List String) :
    settled (steps ++ [name]) = steps ++ [name] := by
  rw [settled, List.reverse_concat, List.dropWhile_cons_of_neg (by simpa using h),
    List.reverse_cons, List.reverse_reverse]

/-- Where the last two steps of a path do not stay, its parent is all of it but the last. -/
theorem parentPath_nameOf {front : List String} {last name : String} (hfront : front ≠ [])
    (hclean : ∀ step ∈ front ++ [last] ++ [name], '/' ∉ step.toList)
    (hlast : ¬(last = "" ∨ last = ".")) (hname : ¬(name = "" ∨ name = ".")) :
    parentPath (nameOf (front ++ [last] ++ [name])) = nameOf (front ++ [last]) := by
  obtain ⟨first, between, rfl⟩ := List.exists_cons_of_ne_nil hfront
  have hsettled : settled (between ++ [last] ++ [name]) = between ++ [last] ++ [name] :=
    settled_concat hname (between ++ [last])
  have hempty : (nameOf (first :: (between ++ [last]))).isEmpty = false := by
    rw [Bool.eq_false_iff]
    intro hempty
    have hmem : last.toList ∈ (first :: (between ++ [last])).map String.toList :=
      List.mem_map_of_mem (by simp)
    have hlength := Text.length_le_length_joined '/' hmem
    rw [← toList_nameOf, String.isEmpty_iff.1 hempty] at hlength
    have hnil : last.toList = [] := List.length_eq_zero_iff.1 (Nat.le_zero.1 hlength)
    exact hlast (Or.inl (String.toList_eq_nil_iff.1 hnil))
  unfold parentPath
  rw [stepsOf_nameOf (by simp) hclean]
  simp only [List.cons_append, hsettled]
  split
  · rename_i hnil
    simp at hnil
  · rw [List.dropLast_concat, settled_concat hlast, hempty]
    rfl

end Folder

end Fixture

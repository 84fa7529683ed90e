import Fixture.Proofs.Entries
import Fixture.Proofs.Folder.Parent
import Fixture.Proofs.Folder.Target

/-!
# Drafts

The name of a draft is longer than every name in the tree, so making a draft adds one entry
and taking it away gives back the tree that there was. The draft is a file, which leaves the
directories as they are. It can be made if the parent of the path is a directory and if its
full path is not too long, which a path that can be followed does not rule out. Apart from its
length a full path makes no difference: it leads where the path in the folder leads.
-/

namespace Fixture

namespace Folder

variable {folder prepared : Folder} {draft : Draft} {path : String}

/-! The name of a draft is new -/

theorem le_foldl_max (entries : Entries Entry) (bound : Nat) :
    bound ≤ entries.foldl (fun length entry => max length entry.1.length) bound ∧
      ∀ entry ∈ entries,
        entry.1.length ≤ entries.foldl (fun length entry => max length entry.1.length) bound := by
  induction entries generalizing bound with
  | nil => simp
  | cons first rest ih =>
    obtain ⟨hbound, hrest⟩ := ih (max bound first.1.length)
    rw [List.foldl_cons]
    constructor
    · exact Nat.le_trans (Nat.le_max_left _ _) hbound
    · intro entry hentry
      rcases List.mem_cons.1 hentry with rfl | hentry
      · exact Nat.le_trans (Nat.le_max_right _ _) hbound
      · exact hrest entry hentry

theorem length_lt_length_freshName {entry : String × Entry} (h : entry ∈ folder.entries) :
    entry.1.length < folder.freshName.length := by
  have hle := (le_foldl_max folder.entries 0).2 entry h
  have hdot : ".tmp".length = 4 := by decide
  rw [freshName, String.length_append, hdot, String.length_ofList, List.length_replicate]
  omega

theorem key_not_mem (folder : Folder) (place : Place) :
    Draft.key ⟨place, folder.freshName⟩ ∉ Entries.names folder.entries := by
  intro hmem
  obtain ⟨entry, hentry, hname⟩ := List.mem_map.1 hmem
  have hlt := length_lt_length_freshName hentry
  have hle : folder.freshName.length ≤ (Draft.key ⟨place, folder.freshName⟩).length := by
    rw [Draft.key, ← String.length_toList, ← String.length_toList, toList_nameOf]
    apply Text.length_le_length_joined
    simp
  rw [hname] at hlt
  exact absurd hlt (Nat.not_lt.2 hle)

/-- The second folder is the first with a draft under a new name. -/
structure Drafted (folder prepared : Folder) (draft : Draft) : Prop where
  key_not_mem : draft.key ∉ Entries.names folder.entries
  prepared_eq : prepared = folder.putFile draft ByteArray.empty

theorem Drafted.dropDraft_eq (h : Drafted folder prepared draft) :
    prepared.dropDraft draft = folder := by
  simp only [h.prepared_eq, dropDraft, putFile, Entries.filter_put_of_not_mem h.key_not_mem]

theorem Drafted.same (h : Drafted folder prepared draft) : SameDirectories folder prepared := by
  rw [h.prepared_eq]
  apply same_putFile
  rw [Entries.get?_eq_none_of_not_mem h.key_not_mem]
  intro hget
  cases hget

theorem Drafted.placeDraft_eq (h : Drafted folder prepared draft) {place : Place} {name : String}
    (htarget : prepared.target path = .ok (place, name)) (content : ByteArray) :
    prepared.placeDraft draft content path = .ok (folder.putFile ⟨place, name⟩ content) := by
  rw [placeDraft, htarget]
  simp only [h.dropDraft_eq]

/-! The full path of what a path leads to -/

/-- The folder stands in its tree where it says. -/
structure Rooted (folder : Folder) : Prop where
  isName : ∀ step ∈ folder.home, step ≠ "" ∧ '/' ∉ step.toList
  walk_home : folder.walk (.directory []) folder.home = .ok (.directory folder.home)

theorem exists_nameOf_concat_eq (front : List String) (last : String) :
    ∃ before, nameOf (front ++ [last]) = before ++ last := by
  by_cases hfront : front = []
  · refine ⟨"", ?_⟩
    rw [hfront, List.nil_append, nameOf, String.intercalate_singleton, String.empty_append]
  · refine ⟨nameOf front ++ "/", ?_⟩
    rw [nameOf, String.intercalate_append_of_ne_nil hfront (List.cons_ne_nil _ _),
      String.intercalate_singleton]
    rfl

theorem getLast?_homePath_ne (h : folder.Rooted) (hhome : folder.home ≠ []) :
    folder.homePath.toList.getLast? ≠ some '/' := by
  have hsteps := (List.dropLast_concat_getLast hhome).symm
  obtain ⟨hne, hslash⟩ := h.isName _ (List.getLast_mem hhome)
  obtain ⟨before, hname⟩ :=
    exists_nameOf_concat_eq folder.home.dropLast (folder.home.getLast hhome)
  rw [← hsteps] at hname
  rw [homePath, hname, ← String.append_assoc, String.toList_append, List.getLast?_append]
  intro hlast
  cases hend : (folder.home.getLast hhome).toList.getLast? with
  | none => exact hne (String.toList_eq_nil_iff.1 (List.getLast?_eq_none_iff.1 hend))
  | some c =>
    rw [hend, Option.some_or, Option.some.injEq] at hlast
    exact hslash (hlast ▸ List.mem_of_getLast? hend)

theorem joinPath_homePath (h : folder.Rooted) (hrelative : isAbsolute path = false) :
    joinPath folder.homePath path = nameOf ("" :: (folder.home ++ stepsOf path)) := by
  have hsteps := stepsOf_ne_nil path
  have htop : nameOf ("" :: (folder.home ++ stepsOf path)) =
      "/" ++ nameOf (folder.home ++ stepsOf path) := by
    rw [nameOf, String.intercalate_cons_of_ne_nil (by simp [hsteps]), String.empty_append]
    rfl
  rw [joinPath, if_neg (by simp [hrelative]), htop]
  by_cases hhome : folder.home = []
  · rw [homePath, hhome, List.nil_append, nameOf_stepsOf]
    rfl
  · rw [if_neg (getLast?_homePath_ne h hhome), homePath, nameOf, nameOf,
      String.intercalate_append_of_ne_nil hhome hsteps, ← nameOf, ← nameOf, nameOf_stepsOf]
    simp only [String.append_assoc]

/-- A path and the full path for it lead to the same. -/
theorem walk_joinPath (h : folder.Rooted) (path : String) :
    folder.walk (folder.origin (joinPath folder.homePath path))
        (stepsOf (joinPath folder.homePath path)) =
      folder.walk (folder.origin path) (stepsOf path) := by
  cases habsolute : isAbsolute path with
  | true => rw [joinPath, if_pos habsolute]
  | false =>
    -- the full path begins with the steps that lead from the top to the folder
    have hslash : ∀ step ∈ "" :: (folder.home ++ stepsOf path), '/' ∉ step.toList := by
      intro step hstep
      rcases List.mem_cons.1 hstep with rfl | hstep
      · decide
      · rcases List.mem_append.1 hstep with hhome | hpath
        · exact (h.isName step hhome).2
        · exact slash_not_mem_of_mem_stepsOf hpath
    have hfull : isAbsolute (joinPath folder.homePath path) = true := by
      rw [joinPath_homePath h habsolute, isAbsolute_nameOf (by decide)]
      simp [stepsOf_ne_nil]
    rw [origin, hfull, if_pos rfl, joinPath_homePath h habsolute,
      stepsOf_nameOf (List.cons_ne_nil _ _) hslash, walk_directory_cons]
    show folder.walk (.directory []) (folder.home ++ stepsOf path) = _
    rw [walk_append, h.walk_home, origin, habsolute]
    rfl

/-! Making a draft -/

/-- The full path of a draft for this path is not too long. -/
def DraftFits (folder : Folder) (path : String) : Prop :=
  (draftPath folder.homePath path sampleName).utf8ByteSize ≤ maxPath

theorem pathFault_eq_none (hne : path ≠ "") (hsize : path.utf8ByteSize ≤ maxPath) :
    pathFault? path = none := by
  rw [pathFault?, if_neg (by simpa using hne), if_neg (Nat.not_lt.2 hsize)]

theorem utf8ByteSize_le_joinPath (base path : String) :
    path.utf8ByteSize ≤ (joinPath base path).utf8ByteSize := by
  unfold joinPath
  split
  · exact Nat.le_refl _
  · split
    · rw [String.utf8ByteSize_append]
      exact Nat.le_add_left _ _
    · rw [String.utf8ByteSize_append]
      exact Nat.le_add_left _ _

theorem utf8ByteSize_add_le_joinPath (base : String) (h : isAbsolute path = false) :
    base.utf8ByteSize + path.utf8ByteSize ≤ (joinPath base path).utf8ByteSize := by
  rw [joinPath, if_neg (by simp [h])]
  split
  · exact Nat.le_of_eq String.utf8ByteSize_append.symm
  · rw [String.utf8ByteSize_append, String.utf8ByteSize_append]
    omega

theorem DraftFits.parentPath_le (h : folder.DraftFits path) :
    (parentPath path).utf8ByteSize ≤ maxPath :=
  calc
    (parentPath path).utf8ByteSize
    _ ≤ (joinPath folder.homePath (parentPath path)).utf8ByteSize :=
      utf8ByteSize_le_joinPath _ _
    _ ≤ (joinPath folder.homePath (parentPath path)).utf8ByteSize + sampleName.utf8ByteSize :=
      Nat.le_add_right _ _
    _ ≤ (draftPath folder.homePath path sampleName).utf8ByteSize :=
      utf8ByteSize_add_le_joinPath _ (by decide)
    _ ≤ maxPath := h

theorem of_makeDraft_eq_ok (h : folder.makeDraft path = .ok (draft, prepared)) :
    folder.DraftFits path ∧ Drafted folder prepared draft ∧
      ∃ place, folder.follow (parentPath path) = .ok (.directory place) := by
  unfold makeDraft at h
  dsimp only at h
  split at h
  · cases h
  rename_i hnull
  split at h
  · cases h
  rename_i hlong
  split at h
  · cases h
  · cases h
  rename_i place hwalk
  obtain ⟨rfl, rfl⟩ := Prod.mk.inj (Except.ok.inj h)
  have hfits : folder.DraftFits path := Nat.not_lt.1 hlong
  refine ⟨hfits, ⟨key_not_mem folder place, rfl⟩, place, ?_⟩
  rw [follow_eq_ok_iff]
  exact ⟨hnull, pathFault_eq_none (parentPath_ne_empty path) hfits.parentPath_le, hwalk⟩

/-- A draft is made if the parent of the path is a directory and its full path is not too long. -/
theorem makeDraft_of_parent (hnull : '\x00' ∉ path.toList) {place : Place}
    (hparent : folder.walk (folder.origin (parentPath path)) (stepsOf (parentPath path)) =
      .ok (.directory place))
    (hfits : folder.DraftFits path) :
    ∃ draft prepared, folder.makeDraft path = .ok (draft, prepared) := by
  unfold makeDraft
  dsimp only
  rw [if_neg (null_not_mem_parentPath hnull), if_neg (Nat.not_lt.2 hfits), hparent]
  exact ⟨_, _, rfl⟩

theorem makeDraft_of_follow {node : Node} (h : folder.follow path = .ok node)
    (hfits : folder.DraftFits path) :
    ∃ draft prepared, folder.makeDraft path = .ok (draft, prepared) := by
  obtain ⟨hnull, _, hwalk⟩ := (follow_eq_ok_iff folder path node).1 h
  obtain ⟨place, hparent⟩ := walk_parentPath hwalk
  exact makeDraft_of_parent hnull hparent hfits

/-! Steps that stay make a path longer and change nothing else -/

section Dots

variable {n : Nat} {rest : List String}

theorem isAbsolute_dots (hn : n ≠ 0) (rest : List String) :
    isAbsolute (nameOf (List.replicate n "." ++ rest)) = false := by
  obtain ⟨fewer, rfl⟩ := Nat.exists_eq_succ_of_ne_zero hn
  rw [List.replicate_succ, List.cons_append, isAbsolute_nameOf (by decide)]
  rfl

theorem utf8ByteSize_dots (n : Nat) (hrest : rest ≠ []) :
    (nameOf (List.replicate n "." ++ rest)).utf8ByteSize =
      2 * n + (nameOf rest).utf8ByteSize := by
  induction n with
  | zero => simp
  | succ n ih =>
    have hmore : List.replicate n "." ++ rest ≠ [] := by simp [hrest]
    have hname : nameOf ("." :: (List.replicate n "." ++ rest)) =
        "./" ++ nameOf (List.replicate n "." ++ rest) :=
      String.intercalate_cons_of_ne_nil hmore
    have hdot : "./".utf8ByteSize = 2 := by decide
    rw [List.replicate_succ, List.cons_append, hname, String.utf8ByteSize_append, ih, hdot]
    omega

theorem not_mem_dots {c : Char} (hdot : c ∉ ".".toList) (h : ∀ step ∈ rest, c ∉ step.toList) :
    ∀ step ∈ List.replicate n "." ++ rest, c ∉ step.toList := by
  intro step hstep
  rcases List.mem_append.1 hstep with hdots | hrest
  · rwa [List.eq_of_mem_replicate hdots]
  · exact h step hrest

theorem walk_dots (folder : Folder) (place : Place) (n : Nat) :
    folder.walk (.directory place) (List.replicate n ".") = .ok (.directory place) := by
  induction n with
  | zero => rfl
  | succ n ih =>
    rw [List.replicate_succ, walk_directory_cons]
    exact ih

theorem stepsOf_dots (n : Nat) (hrest : rest ≠ [])
    (hslash : ∀ step ∈ rest, '/' ∉ step.toList) :
    stepsOf (nameOf (List.replicate n "." ++ rest)) = List.replicate n "." ++ rest :=
  stepsOf_nameOf (by simp [hrest]) (not_mem_dots (by decide) hslash)

theorem walk_origin_dots (folder : Folder) (hn : n ≠ 0) (rest more : List String) :
    folder.walk (folder.origin (nameOf (List.replicate n "." ++ rest)))
        (List.replicate n "." ++ more) =
      folder.walk (.directory folder.home) more := by
  have hdots := walk_dots folder folder.home n
  rw [origin, isAbsolute_dots hn, walk_append]
  simp only [Bool.false_eq_true, if_false, hdots]

theorem null_not_mem_dots (n : Nat) (hnull : ∀ step ∈ rest, '\x00' ∉ step.toList) :
    '\x00' ∉ (nameOf (List.replicate n "." ++ rest)).toList := by
  rw [mem_nameOf_iff (by decide)]
  rintro ⟨step, hstep, hmem⟩
  exact not_mem_dots (by decide) hnull step hstep hmem

theorem follow_dots (hn : n ≠ 0) (hrest : rest ≠ [])
    (hslash : ∀ step ∈ rest, '/' ∉ step.toList) (hnull : ∀ step ∈ rest, '\x00' ∉ step.toList)
    (hsize : 2 * n + (nameOf rest).utf8ByteSize ≤ maxPath) {node : Node}
    (h : folder.walk (.directory folder.home) rest = .ok node) :
    folder.follow (nameOf (List.replicate n "." ++ rest)) = .ok node := by
  have hbytes := utf8ByteSize_dots n hrest
  rw [follow_eq_ok_iff]
  refine ⟨null_not_mem_dots n hnull, ?_, ?_⟩
  · have hne : nameOf (List.replicate n "." ++ rest) ≠ "" := by
      intro hempty
      have hzero : "".utf8ByteSize = 0 := rfl
      rw [hempty, hzero] at hbytes
      omega
    apply pathFault_eq_none hne
    rwa [hbytes]
  · rw [stepsOf_dots n hrest hslash, walk_origin_dots folder hn]
    exact h

theorem not_draftFits_dots {front : List String} {last name : String} (hn : n ≠ 0)
    (hslash : ∀ step ∈ front ++ [last] ++ [name], '/' ∉ step.toList)
    (hlast : ¬(last = "" ∨ last = ".")) (hname : ¬(name = "" ∨ name = "."))
    (hsize : maxPath < folder.homePath.utf8ByteSize +
      (2 * n + (nameOf (front ++ [last])).utf8ByteSize) + sampleName.utf8ByteSize) :
    ¬folder.DraftFits (nameOf (List.replicate n "." ++ (front ++ [last] ++ [name]))) := by
  have hparent : parentPath (nameOf (List.replicate n "." ++ (front ++ [last] ++ [name]))) =
      nameOf (List.replicate n "." ++ (front ++ [last])) := by
    have hclean := not_mem_dots (n := n) (by decide) hslash
    rw [← List.append_assoc, ← List.append_assoc] at hclean ⊢
    rw [parentPath_nameOf (by simp [hn]) hclean hlast hname, List.append_assoc]
  have hbase := utf8ByteSize_add_le_joinPath folder.homePath
    (isAbsolute_dots hn (front ++ [last]))
  have hfull := utf8ByteSize_add_le_joinPath
    (joinPath folder.homePath (nameOf (List.replicate n "." ++ (front ++ [last]))))
    (show isAbsolute sampleName = false by decide)
  rw [utf8ByteSize_dots n (by simp)] at hbase
  rw [DraftFits, draftPath, hparent]
  omega

end Dots

end Folder

end Fixture

import Fixture.Proofs.Invocation.Answers
import Fixture.Proofs.Random.Fair
import Fixture.Proofs.Random.Words
import Mathlib.Data.FinEnum

/-!
# Items of a list are drawn as they are, and fairly

The items of a list stand between the parentheses as they are, and one of them is the value: the
one at a position that is drawn. Every position is chosen by equally many words, so that an item
is chosen by as many words as there are for all the positions where it stands.
-/

namespace Fixture

namespace Uniform

/-- The words that choose a position at which `s` stands, if the items stand at the positions
from `start` on. -/
def wordsFor (n start : Nat) (items : List String) (s : String) : Set UInt64 :=
  {word | ∃ i, position? 64 n word.toNat = some (start + i) ∧ items[i]? = some s}

theorem wordsFor_nil (n start : Nat) (s : String) : wordsFor n start [] s = ∅ := by
  simp [wordsFor]

theorem wordsFor_cons (n start : Nat) (item : String) (items : List String) (s : String) :
    wordsFor n start (item :: items) s =
      {word | position? 64 n word.toNat = some start ∧ item = s} ∪
        wordsFor n (start + 1) items s := by
  ext word
  constructor
  · rintro ⟨i, hword, hitem⟩
    cases i with
    | zero => exact .inl ⟨hword, Option.some.inj hitem⟩
    | succ i => exact .inr ⟨i, by rw [hword, Nat.add_right_comm, Nat.add_assoc], hitem⟩
  · rintro (⟨hword, rfl⟩ | ⟨i, hword, hitem⟩)
    · exact ⟨0, hword, rfl⟩
    · exact ⟨i + 1, by rw [hword, Nat.add_right_comm, Nat.add_assoc], hitem⟩

theorem not_mem_wordsFor {n start : Nat} {word : UInt64}
    (h : position? 64 n word.toNat = some start) (items : List String) (s : String) :
    word ∉ wordsFor n (start + 1) items s := by
  rintro ⟨i, hother, _⟩
  rw [h, Option.some.injEq] at hother
  omega

/-- An item is chosen by as many words as there are for all the positions where it stands. -/
theorem ncard_wordsFor {n start : Nat} {items : List String} (hlt : n < 2 ^ 64)
    (hitems : start + items.length ≤ n) (s : String) :
    (wordsFor n start items s).ncard = items.count s * share 64 n := by
  induction items generalizing start with
  | nil => rw [wordsFor_nil, Set.ncard_empty, List.count_nil, Nat.zero_mul]
  | cons item items ih =>
    rw [List.length_cons] at hitems
    have hmore := ih (show start + 1 + items.length ≤ n by omega)
    have hhere := ncard_position? (by omega) hlt (show start < n by omega)
    rw [wordsFor_cons, Set.ncard_union_eq (Set.disjoint_left.2 fun word hword =>
      not_mem_wordsFor hword.1 items s), hmore]
    by_cases hitem : item = s
    · simp only [hitem, and_true, hhere, List.count_cons_self]
      rw [Nat.add_mul, Nat.one_mul, Nat.add_comm]
    · simp [hitem]

end Uniform

namespace Recipe

open Draw Fixture.Uniform

/-- There are items, and between parentheses they can be told apart. -/
structure Listable (items : List String) : Prop where
  ne_nil : items ≠ []
  ne_empty : items ≠ [""]
  comma_not_mem : ∀ item ∈ items, ',' ∉ item.toList
  closing_not_mem : ∀ item ∈ items, ')' ∉ item.toList

theorem listable_singleton {t : String} (hne : t ≠ "") (hcomma : ',' ∉ t.toList)
    (hclosing : ')' ∉ t.toList) : Listable [t] where
  ne_nil := List.cons_ne_nil t []
  ne_empty := by simpa using hne
  comma_not_mem := by simpa using hcomma
  closing_not_mem := by simpa using hclosing

section Items

variable {σ : Type} [Source σ] {items : List String}

theorem Listable.length_ne_zero (h : Listable items) : items.length ≠ 0 :=
  fun hlength => h.ne_nil (List.eq_nil_of_length_eq_zero hlength)

omit [Source σ] in
theorem itemAt_toArray {i : Nat} (h : i < items.length) :
    (itemAt items.toArray i : Draw σ String) = pure items[i] := by
  simp [itemAt, h]

/-- The first accepted word decides at which position the item stands. -/
theorem draw_item_eq_until64 (hne : items ≠ []) (source : σ) :
    (Recipe.item items).draw source =
      until64 (fun word => (position? 64 items.length word.toNat).map fun i =>
        .text (items.getD i "")) source := by
  have hnext (word : UInt64) (i : Nat) (hword : position? 64 items.length word.toNat = some i) :
      (itemAt items.toArray i >>= fun s => pure (.text s) : Draw σ Value) =
        pure (.text (items.getD i "")) := by
    have hi : i < items.length := position?_lt word.toNat_lt hword
    rw [itemAt_toArray hi, pure_bind, List.getD_eq_getElem?_getD, List.getElem?_eq_getElem hi,
      Option.getD_some]
  have hlength : items.length ≠ 0 := fun hlength => hne (List.eq_nil_of_length_eq_zero hlength)
  rw [draw, someItem, item64, bind_assoc, List.size_toArray, below64, if_neg hlength]
  exact until64_bind hnext source

theorem Listable.invokeText_eq_draw (h : Listable items) (source : σ) :
    invokeText ("getFromList(" ++ ",".intercalate items ++ ")") source =
      ((Recipe.item items).draw >>= fun value => pure (.ok value) :
        Draw σ (Except InvocationError Value)) source := by
  have hrecipe : ofArguments .item items = .ok (.item items) := by
    cases items with
    | nil => exact absurd rfl h.ne_nil
    | cons first rest => rfl
  exact Generator.item.invokeText_call h.ne_empty h.comma_not_mem h.closing_not_mem hrecipe source

theorem Listable.invokeText_eq_below64 (h : Listable items) (source : σ) :
    invokeText ("getFromList(" ++ ",".intercalate items ++ ")") source =
      (below64 items.length >>= fun i => itemAt items.toArray i >>= fun s =>
        pure (.ok (.text s)) : Draw σ (Except InvocationError Value)) source := by
  rw [h.invokeText_eq_draw]
  simp only [draw, someItem, item64, bind_assoc, pure_bind, List.size_toArray]

theorem Listable.invokeText_of_endless (h : Listable items) {source : σ}
    (hdraw : below64 items.length source = .error .endless) :
    invokeText ("getFromList(" ++ ",".intercalate items ++ ")") source = .error .endless := by
  rw [h.invokeText_eq_below64, bind_of_error hdraw]

theorem Listable.invokeText_of_below64 (h : Listable items) {source later : σ} {i : Nat}
    (hi : i < items.length) (hdraw : below64 items.length source = .ok (i, later)) :
    invokeText ("getFromList(" ++ ",".intercalate items ++ ")") source =
      .ok (.ok (.text items[i]), later) := by
  rw [h.invokeText_eq_below64, bind_of_ok hdraw, itemAt_toArray hi]
  rfl

theorem Listable.invokeText_eq_until64 (h : Listable items) (source : σ) :
    invokeText ("getFromList(" ++ ",".intercalate items ++ ")") source =
      until64 (fun word => (position? 64 items.length word.toNat).map fun i =>
        .ok (.text (items.getD i ""))) source := by
  rw [h.invokeText_eq_draw, bind_eq_of_eq (draw_item_eq_until64 h.ne_nil source),
    until64_bind fun _ _ _ => rfl]
  simp only [Option.map_map]
  rfl

theorem takes_below64_iff {n : Nat} (hn : n ≠ 0) (word : UInt64) (i : Nat) :
    Takes (fun _ _ => below64 n) word i ↔ position? 64 n word.toNat = some i := by
  rw [← takes_until64_iff fun word => position? 64 n word.toNat]
  exact takes_congr fun σ _ source _ => by rw [below64, if_neg hn]

/-- A word gives an item if it chooses a position where the item stands. -/
theorem Listable.takes_invokeText_iff (h : Listable items) (word : UInt64) (s : String) :
    Takes (fun _ _ => invokeText ("getFromList(" ++ ",".intercalate items ++ ")")) word
        (.ok (.text s)) ↔
      word ∈ wordsFor items.length 0 items s := by
  rw [takes_congr fun σ _ source _ => h.invokeText_eq_until64 source, takes_until64_iff,
    Option.map_eq_some_iff]
  refine exists_congr fun i => ?_
  rw [Nat.zero_add, and_congr_right_iff]
  intro hword
  have hi : i < items.length := position?_lt word.toNat_lt hword
  simp [hi]

end Items

end Recipe

section Lists

variable {σ : Type} [Source σ]

/-- Items without commas and closing parentheses, written between the parentheses of an
invocation, are drawn as they are: the value is the item at the position that is drawn. A list
that fits in memory has fewer items than there are words, and then every position is chosen by
equally many first words, and by some; so the words that give a text are as many times more as
the text is listed, and every item is given by one. Hence a single text that is not empty is
always drawn as it is. From a steady source every run comes to an end. -/
theorem items_drawn_verbatim_and_fairly (items : List String) (h : Recipe.Listable items) :
    let text := "getFromList(" ++ ",".intercalate items ++ ")"
    let invoke (σ : Type) [Source σ] : Draw σ (Except InvocationError Value) :=
      Recipe.invokeText text
    (∀ source : σ, invoke σ source = .error .endless ∨
      ∃ (i : Nat) (hi : i < items.length) (later : σ),
        Uniform.below64 items.length source = .ok (i, later) ∧
        invoke σ source = .ok (.ok (.text items[i]), later)) ∧
    (items.length < UInt64.size → ∃ words, 0 < words ∧
      (∀ i < items.length,
        {word | Draw.Takes (fun _ _ => Uniform.below64 items.length) word i}.ncard = words) ∧
      (∀ s, {word | Draw.Takes invoke word (.ok (.text s))}.ncard = items.count s * words) ∧
      ∀ s ∈ items, ∃ word, Draw.Takes invoke word (.ok (.text s))) ∧
    (∀ t : String, t ≠ "" → ',' ∉ t.toList → ')' ∉ t.toList → ∀ source : σ,
      Recipe.invokeText ("getFromList(" ++ t ++ ")") source = .error .endless ∨
      ∃ later, Recipe.invokeText ("getFromList(" ++ t ++ ")") source =
        .ok (.ok (.text t), later)) ∧
    (Steady σ → ∀ source : σ, invoke σ source ≠ .error .endless) := by
  intro text invoke
  refine ⟨?_, ?_, ?_, ?_⟩
  · intro source
    rcases Uniform.yields_below64 h.length_ne_zero source with hend | ⟨i, later, hi, hdraw⟩
    · exact .inl (h.invokeText_of_endless hend)
    · exact .inr ⟨i, hi, later, hdraw, h.invokeText_of_below64 hi hdraw⟩
  · intro hlt
    have hcount (s : String) : {word | Draw.Takes invoke word (.ok (.text s))}.ncard =
        items.count s * Uniform.share 64 items.length := by
      simp only [invoke, text, h.takes_invokeText_iff]
      exact Uniform.ncard_wordsFor hlt (by omega) s
    refine ⟨Uniform.share 64 items.length, Uniform.share_pos _ _, ?_, hcount, ?_⟩
    · intro i hi
      simp only [Recipe.takes_below64_iff h.length_ne_zero]
      exact Uniform.ncard_position? h.length_ne_zero hlt hi
    · intro s hs
      have hpos : 0 < {word | Draw.Takes invoke word (.ok (.text s))}.ncard := by
        rw [hcount]
        exact Nat.mul_pos (List.count_pos_iff.2 hs) (Uniform.share_pos _ _)
      exact Set.nonempty_of_ncard_ne_zero (Nat.pos_iff_ne_zero.1 hpos)
  · intro t hne hcomma hclosing source
    have hsingle := Recipe.listable_singleton hne hcomma hclosing
    have htext : "getFromList(" ++ ",".intercalate [t] ++ ")" = "getFromList(" ++ t ++ ")" := by
      simp
    rw [← htext]
    rcases Uniform.yields_below64 hsingle.length_ne_zero source with
      hend | ⟨i, later, hi, hdraw⟩
    · exact .inl (hsingle.invokeText_of_endless hend)
    · have hitem := hsingle.invokeText_of_below64 hi hdraw
      rw [List.getElem_singleton] at hitem
      exact .inr ⟨later, hitem⟩
  · intro _ source
    exact Invocation.invokeText_ne_endless text source

/-- An item that is listed twice, one with nothing in it, and one with an opening parenthesis;
the item that is listed twice is drawn by twice as many words. -/
theorem items_drawn_verbatim_and_fairly_repeated :
    let items := [" a ", "", "(b", " a "]
    let text := "getFromList( a ,,(b, a )"
    let source := Script.ofWords [0x8000000000000000]
    let invoke (σ : Type) [Source σ] : Draw σ (Except InvocationError Value) :=
      Recipe.invokeText text
    Recipe.Listable items ∧
    (∃ s ∈ items, ∃ later, invoke Script source = .ok (.ok (.text s), later)) ∧
    (∃ words, 0 < words ∧
      {word | Draw.Takes invoke word (.ok (.text " a "))}.ncard = 2 * words ∧
      {word | Draw.Takes invoke word (.ok (.text ""))}.ncard = words) ∧
    ∃ later, Recipe.invokeText "getFromList( )" source = .ok (.ok (.text " "), later) := by
  intro items text source invoke
  have hlist : Recipe.Listable items := by
    constructor
    · decide
    · decide
    · decide
    · decide
  obtain ⟨hitem, hfair, hsingle, hends⟩ :=
    items_drawn_verbatim_and_fairly (σ := Script) items hlist
  obtain ⟨words, hpos, _, hcount, _⟩ := hfair (by decide)
  have hblank : Recipe.invokeText "getFromList( )" source ≠ .error .endless :=
    Invocation.invokeText_ne_endless _ source
  refine ⟨hlist, ?_, ⟨words, hpos, hcount " a ", ?_⟩, ?_⟩
  · obtain ⟨i, hi, later, _, hmade⟩ := (hitem source).resolve_left (hends inferInstance source)
    exact ⟨items[i], List.getElem_mem hi, later, hmade⟩
  · rw [← Nat.one_mul words]
    exact hcount ""
  · exact (hsingle " " (by decide) (by decide) (by decide) source).resolve_left hblank

end Lists

end Fixture

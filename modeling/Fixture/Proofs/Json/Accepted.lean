import Fixture.Proofs.Json.Objects
import Fixture.Proofs.Json.Tokens

/-!
# What the reader accepts

Each state of the reader stands for the tokens that it has taken so far: those of the frames
that are still open, outermost first, and those of what is being read in the innermost. A
lexeme that is taken adds its token to them. So when the text ends with a value that stands
alone, all tokens of the text are those of the value, and with completeness the texts that are
accepted are those that spell a value.
-/

namespace Fixture

namespace Json

def openItems (items : List Json) : List Token :=
  items.flatMap fun item => item.tokens ++ [.comma]

def openMembers (members : List (String × Json)) : List Token :=
  members.flatMap fun member =>
    .string (.ok member.1) :: .colon :: (member.2.tokens ++ [.comma])

theorem itemTokens_concat (items : List Json) (value : Json) :
    .comma :: (openItems items ++ (value.tokens ++ [.closeArray])) =
      itemTokens (items ++ [value]) := by
  induction items with
  | nil => simp [openItems, itemTokens]
  | cons item items ih =>
    rw [List.cons_append, itemTokens, ← ih]
    simp [openItems]

theorem tokens_array_concat (items : List Json) (value : Json) :
    (Json.array (items ++ [value])).tokens =
      .openArray :: (openItems items ++ (value.tokens ++ [.closeArray])) := by
  cases items with
  | nil => simp [openItems, tokens, itemTokens]
  | cons item items =>
    rw [List.cons_append, tokens, ← itemTokens_concat]
    simp [openItems]

theorem memberTokens_concat (members : List (String × Json)) (name : String) (value : Json) :
    .comma :: (openMembers members ++
        .string (.ok name) :: .colon :: (value.tokens ++ [.closeObject])) =
      memberTokens (members ++ [(name, value)]) := by
  induction members with
  | nil => simp [openMembers, memberTokens]
  | cons member members ih =>
    rw [List.cons_append, memberTokens, ← ih]
    simp [openMembers]

theorem tokens_object_concat (members : List (String × Json)) (name : String) (value : Json) :
    (Json.object (members ++ [(name, value)])).tokens =
      .openObject :: (openMembers members ++
        .string (.ok name) :: .colon :: (value.tokens ++ [.closeObject])) := by
  cases members with
  | nil => simp [openMembers, tokens, memberTokens]
  | cons member members =>
    rw [List.cons_append, tokens, ← memberTokens_concat]
    simp [openMembers]

theorem depthOfItems_append (first second : List Json) :
    depthOfItems (first ++ second) = max (depthOfItems first) (depthOfItems second) := by
  induction first with
  | nil => simp [depthOfItems]
  | cons item first ih => rw [List.cons_append, depthOfItems, depthOfItems, ih, Nat.max_assoc]

theorem depthOfMembers_append (first second : List (String × Json)) :
    depthOfMembers (first ++ second) = max (depthOfMembers first) (depthOfMembers second) := by
  induction first with
  | nil => simp [depthOfMembers]
  | cons member first ih =>
    rw [List.cons_append, depthOfMembers, depthOfMembers, ih, Nat.max_assoc]

theorem depthOfItems_reverse (items : List Json) :
    depthOfItems items.reverse = depthOfItems items := by
  induction items with
  | nil => rfl
  | cons item items ih =>
    rw [List.reverse_cons, depthOfItems_append, ih, Nat.max_comm]
    simp [depthOfItems]

theorem depthOfMembers_reverse (members : List (String × Json)) :
    depthOfMembers members.reverse = depthOfMembers members := by
  induction members with
  | nil => rfl
  | cons member members ih =>
    rw [List.reverse_cons, depthOfMembers_append, ih, Nat.max_comm]
    simp [depthOfMembers]

/-- The tokens that a frame has taken, and how deep what it holds is. -/
def Frame.tokens : Frame → List Token
  | .items read => .openArray :: openItems read.reverse
  | .member read name =>
    .openObject :: (openMembers read.reverse ++ [.string (.ok name), .colon])

def Frame.depth : Frame → Nat
  | .items read => depthOfItems read
  | .member read _ => depthOfMembers read

def stackTokens (stack : List Frame) : List Token :=
  stack.reverse.flatMap Frame.tokens

/-- What frames hold is not too deep where it stands. -/
def StackFits : List Frame → Prop
  | [] => True
  | frame :: stack => stack.length + 1 + frame.depth ≤ maxDepth ∧ StackFits stack

/-- The tokens that the reader has taken. -/
def State.tokens : State → List Token
  | .wantsValue stack => stackTokens stack
  | .wantsName read stack => stackTokens stack ++ .openObject :: openMembers read.reverse
  | .wantsColon read name stack =>
    stackTokens stack ++ .openObject :: (openMembers read.reverse ++ [.string (.ok name)])
  | .holds value stack => stackTokens stack ++ value.tokens

def State.Fits : State → Prop
  | .wantsValue stack => StackFits stack
  | .wantsName read stack | .wantsColon read _ stack =>
    stack.length + 1 + depthOfMembers read ≤ maxDepth ∧ StackFits stack
  | .holds value stack => stack.length + value.depth ≤ maxDepth ∧ StackFits stack

theorem stackTokens_cons (frame : Frame) (stack : List Frame) :
    stackTokens (frame :: stack) = stackTokens stack ++ frame.tokens := by
  simp [stackTokens]

/-- A scalar of the lexeme is a value of one token. -/
def Lexeme.Plain (lexeme : Lexeme) : Prop :=
  ∀ value, lexeme.token = .scalar (.ok value) →
    value.tokens = [.scalar (.ok value)] ∧ value.depth = 0

theorem StackFits.length_le {stack : List Frame} (h : StackFits stack) :
    stack.length ≤ maxDepth := by
  cases stack with
  | nil => exact Nat.zero_le _
  | cons frame stack =>
    rw [StackFits] at h
    rw [List.length_cons]
    omega

section Step

variable {lexeme : Lexeme} {next : State} {stack : List Frame}

theorem tokens_of_stepValue (h : stepValue stack lexeme = .ok next) (hplain : lexeme.Plain)
    (hfits : StackFits stack) :
    next.tokens = stackTokens stack ++ [lexeme.token] ∧ next.Fits := by
  have hlength := hfits.length_le
  unfold stepValue at h
  split at h
  · rename_i found htoken
    cases found with
    | error fault => cases h
    | ok value =>
      cases h
      obtain ⟨htokens, hdepth⟩ := hplain value htoken
      exact ⟨by rw [State.tokens, htokens, htoken], by rwa [hdepth], hfits⟩
  · rename_i found htoken
    cases found with
    | error fault => cases h
    | ok s =>
      cases h
      exact ⟨by rw [State.tokens, htoken, tokens], hlength, hfits⟩
  · rename_i htoken
    split at h
    · rename_i hlt
      cases h
      refine ⟨?_, hlt, hfits⟩
      rw [State.tokens, stackTokens_cons, htoken]
      rfl
    · cases h
  · rename_i htoken
    split at h
    · rename_i hlt
      cases h
      refine ⟨?_, hlt, hfits⟩
      rw [State.tokens, htoken]
      rfl
    · cases h
  · rename_i htoken
    split at h
    · rename_i outer
      cases h
      rw [StackFits] at hfits
      refine ⟨?_, hfits.1, hfits.2⟩
      rw [State.tokens, stackTokens_cons, htoken, List.append_assoc]
      rfl
    · cases h
    · cases h
  · cases h

theorem tokens_of_stepName {read : List (String × Json)}
    (h : stepName read stack lexeme = .ok next) (hfits : (State.wantsName read stack).Fits) :
    next.tokens = (State.wantsName read stack).tokens ++ [lexeme.token] ∧ next.Fits := by
  unfold stepName at h
  split at h
  · rename_i found htoken
    cases found with
    | error fault => cases h
    | ok name =>
      cases h
      refine ⟨?_, hfits⟩
      rw [State.tokens, State.tokens, htoken]
      simp
  · rename_i htoken
    split at h
    · rename_i hempty
      cases h
      rw [List.isEmpty_iff] at hempty
      subst hempty
      refine ⟨?_, hfits⟩
      rw [State.tokens, State.tokens, htoken]
      simp [openMembers, tokens]
    · cases h
  · cases h

theorem tokens_of_stepHolding {value : Json} (h : stepHolding value stack lexeme = .ok next)
    (hfits : (State.holds value stack).Fits) :
    next.tokens = (State.holds value stack).tokens ++ [lexeme.token] ∧ next.Fits := by
  obtain ⟨hvalue, hstack⟩ := hfits
  unfold stepHolding at h
  split at h
  · cases h
  · -- the value is an item, and after it come another or the end of the array
    rename_i read stack
    rw [StackFits] at hstack
    rw [List.length_cons] at hvalue
    obtain ⟨hframe, houter⟩ := hstack
    rw [Frame.depth] at hframe
    split at h
    · rename_i htoken
      cases h
      refine ⟨?_, ?_, houter⟩
      · rw [State.tokens, State.tokens, stackTokens_cons, stackTokens_cons, htoken]
        simp [Frame.tokens, openItems]
      · rw [Frame.depth, depthOfItems]
        omega
    · rename_i htoken
      cases h
      refine ⟨?_, ?_, houter⟩
      · rw [State.tokens, State.tokens, stackTokens_cons, htoken, List.reverse_cons,
          tokens_array_concat]
        simp [Frame.tokens]
      · rw [depth, depthOfItems_reverse, depthOfItems]
        omega
    · cases h
  · -- the value is that of a member, in the same way
    rename_i read name stack
    rw [StackFits] at hstack
    rw [List.length_cons] at hvalue
    obtain ⟨hframe, houter⟩ := hstack
    rw [Frame.depth] at hframe
    split at h
    · rename_i htoken
      cases h
      refine ⟨?_, ?_, houter⟩
      · rw [State.tokens, State.tokens, stackTokens_cons, htoken]
        simp [Frame.tokens, openMembers]
      · rw [depthOfMembers]
        omega
    · rename_i htoken
      cases h
      refine ⟨?_, ?_, houter⟩
      · rw [State.tokens, State.tokens, stackTokens_cons, htoken, List.reverse_cons,
          tokens_object_concat]
        simp [Frame.tokens]
      · rw [depth, depthOfMembers_reverse, depthOfMembers]
        omega
    · cases h

/-- A lexeme that is taken adds its token. -/
theorem tokens_of_step {state : State} (h : state.step lexeme = .ok next)
    (hplain : lexeme.Plain) (hfits : state.Fits) :
    next.tokens = state.tokens ++ [lexeme.token] ∧ next.Fits := by
  cases state with
  | wantsValue stack => exact tokens_of_stepValue h hplain hfits
  | wantsName read stack => exact tokens_of_stepName h hfits
  | wantsColon read name stack =>
    rw [State.step] at h
    split at h
    · rename_i htoken
      cases h
      refine ⟨?_, hfits⟩
      rw [State.tokens, State.tokens, stackTokens_cons, htoken]
      simp [Frame.tokens]
    · cases h
  | holds value stack => exact tokens_of_stepHolding h hfits

end Step

theorem eq_holds_of_finish {state : State} {value : Json} (h : state.finish = .ok value) :
    state = .holds value [] := by
  unfold State.finish at h
  split at h <;> cases h
  rfl

theorem tokens_of_run {state : State} {rest : List Lexeme} {value : Json}
    (h : state.run rest = .ok value) (hplain : ∀ lexeme ∈ rest, lexeme.Plain)
    (hfits : state.Fits) :
    state.tokens ++ rest.map Lexeme.token = value.tokens ∧ value.depth ≤ maxDepth := by
  induction rest generalizing state with
  | nil =>
    obtain rfl := eq_holds_of_finish h
    obtain ⟨hdepth, _⟩ := hfits
    rw [List.length_nil, Nat.zero_add] at hdepth
    exact ⟨by simp [State.tokens, stackTokens], hdepth⟩
  | cons lexeme rest ih =>
    rw [State.run] at h
    cases hstep : state.step lexeme with
    | error fault => simp [hstep] at h
    | ok next =>
      simp only [hstep] at h
      rw [List.forall_mem_cons] at hplain
      obtain ⟨htokens, hnext⟩ := tokens_of_step hstep hplain.1 hfits
      obtain ⟨hrest, hdepth⟩ := ih h hplain.2 hnext
      rw [htokens, List.append_assoc] at hrest
      exact ⟨hrest, hdepth⟩

/-! Lexemes of a text -/

theorem numberParts_plain (negative : Bool) (parts : NumberParts) :
    (parts.toJson negative).tokens = [.scalar (.ok (parts.toJson negative))] ∧
      (parts.toJson negative).depth = 0 := by
  unfold NumberParts.toJson
  split
  · exact ⟨rfl, rfl⟩
  · exact ⟨rfl, rfl⟩

theorem mark?_ne_scalar {c : Char} {found : Except Fault Json} :
    mark? c ≠ some (.scalar found) := by
  unfold mark?
  intro h
  iterate 6
    split at h
    · cases h
  cases h

theorem word?_plain {c : Char} {value : Json} {word : List Char}
    (h : word? c = some (value, word)) :
    value.tokens = [.scalar (.ok value)] ∧ value.depth = 0 := by
  unfold word? at h
  iterate 3
    split at h
    · cases h
      exact ⟨rfl, rfl⟩
  cases h

theorem plain_scanToken (c : Char) (cs text : List Char) :
    (Lexeme.mk (scanToken c cs).1 text).Plain := by
  rintro value htoken
  simp only at htoken
  unfold scanToken at htoken
  split at htoken
  · rename_i token hmark
    simp only at htoken
    exact absurd (htoken ▸ hmark) mark?_ne_scalar
  · split at htoken
    · rename_i found word hword
      unfold wordToken at htoken
      split at htoken
      · cases htoken
        exact word?_plain hword
      · cases htoken
    · split at htoken
      · unfold stringToken at htoken
        split at htoken <;> cases htoken
      · split at htoken
        · unfold numberToken at htoken
          split at htoken
          · rename_i number rest hnumber
            cases htoken
            unfold scanNumber at hnumber
            dsimp only at hnumber
            split at hnumber
            · cases hnumber
            · cases hnumber
              exact numberParts_plain _ _
          · cases htoken
        · cases htoken

theorem plain_of_mem_lexemes {text : List Char} : ∀ lexeme ∈ lexemes text, lexeme.Plain := by
  induction hlength : text.length using Nat.strongRecOn generalizing text with
  | ind length ih =>
    cases hdrop : text.dropWhile isSpace with
    | nil =>
      rw [lexemes_eq, hdrop]
      simp
    | cons c cs =>
      have hshorter : (scanToken c cs).2.length < length := by
        have hscan := length_scanToken_le c cs
        have hsublist := (List.dropWhile_sublist isSpace (l := text)).length_le
        rw [hdrop, List.length_cons, hlength] at hsublist
        omega
      rw [lexemes_eq, hdrop]
      exact List.forall_mem_cons.2 ⟨plain_scanToken c cs _, ih _ hshorter rfl⟩

/-- The reader accepts the texts that spell a value, and reads that value. -/
theorem read_eq_ok_iff {text : String} {value : Json} :
    Json.read text = .ok value ↔ Spells text value := by
  refine ⟨?_, read_of_spells⟩
  intro h
  rw [Json.read] at h
  cases hrun : (State.wantsValue []).run (lexemes text.toList) with
  | error fault => simp [hrun] at h
  | ok found =>
    simp only [hrun, Except.ok.injEq] at h
    subst h
    obtain ⟨htokens, hdepth⟩ := tokens_of_run hrun plain_of_mem_lexemes trivial
    exact ⟨htokens, hdepth⟩

end Json

end Fixture

import Fixture.Json.Read

/-!
# What a text of JSON is made of

A value is spelled by one sequence of tokens: a bracket or brace, what it holds with commas
between, and the closing one, or a single token. A text whose tokens are those of a value, with
no more than 127 arrays and objects inside one another, is read as that value. So what such a
text says is told without the states of the reader.
-/

namespace Fixture

namespace Json

mutual

/-- The tokens that spell a value. -/
def tokens : Json → List Token
  | .string s => [.string (.ok s)]
  | .array [] => [.openArray, .closeArray]
  | .array (item :: items) => .openArray :: (tokens item ++ itemTokens items)
  | .object [] => [.openObject, .closeObject]
  | .object ((name, value) :: members) =>
    .openObject :: .string (.ok name) :: .colon :: (tokens value ++ memberTokens members)
  | value => [.scalar (.ok value)]

def itemTokens : List Json → List Token
  | [] => [.closeArray]
  | item :: items => .comma :: (tokens item ++ itemTokens items)

def memberTokens : List (String × Json) → List Token
  | [] => [.closeObject]
  | (name, value) :: members =>
    .comma :: .string (.ok name) :: .colon :: (tokens value ++ memberTokens members)

end

mutual

/-- How many arrays and objects stand inside one another. -/
def depth : Json → Nat
  | .array items => depthOfItems items + 1
  | .object members => depthOfMembers members + 1
  | _ => 0

def depthOfItems : List Json → Nat
  | [] => 0
  | item :: items => max (depth item) (depthOfItems items)

def depthOfMembers : List (String × Json) → Nat
  | [] => 0
  | (_, value) :: members => max (depth value) (depthOfMembers members)

end

/-- The text spells the value, which is not too deep. -/
structure Spells (text : String) (value : Json) : Prop where
  tokens : (lexemes text.toList).map Lexeme.token = value.tokens
  depth : value.depth ≤ maxDepth

section Steps

variable {lexeme : Lexeme} {stack : List Frame} {rest : List Lexeme}

theorem run_cons_of_step {state next : State} (h : state.step lexeme = .ok next)
    (rest : List Lexeme) : state.run (lexeme :: rest) = next.run rest := by
  rw [State.run, h]

theorem run_scalar {value : Json} (h : lexeme.token = .scalar (.ok value)) :
    (State.wantsValue stack).run (lexeme :: rest) = (State.holds value stack).run rest :=
  run_cons_of_step (by simp [State.step, stepValue, h, Except.map]) rest

theorem run_stringToken {s : String} (h : lexeme.token = .string (.ok s)) :
    (State.wantsValue stack).run (lexeme :: rest) =
      (State.holds (.string s) stack).run rest :=
  run_cons_of_step (by simp [State.step, stepValue, h, Except.map]) rest

theorem run_openArray (h : lexeme.token = .openArray) (hdepth : stack.length < maxDepth) :
    (State.wantsValue stack).run (lexeme :: rest) =
      (State.wantsValue (.items [] :: stack)).run rest :=
  run_cons_of_step (by simp [State.step, stepValue, h, hdepth]) rest

theorem run_closeArray_empty (h : lexeme.token = .closeArray) :
    (State.wantsValue (.items [] :: stack)).run (lexeme :: rest) =
      (State.holds (.array []) stack).run rest :=
  run_cons_of_step (by simp [State.step, stepValue, h]) rest

theorem run_closeArray {read : List Json} {value : Json} (h : lexeme.token = .closeArray) :
    (State.holds value (.items read :: stack)).run (lexeme :: rest) =
      (State.holds (.array (value :: read).reverse) stack).run rest :=
  run_cons_of_step (by simp [State.step, stepHolding, h]) rest

theorem run_itemComma {read : List Json} {value : Json} (h : lexeme.token = .comma) :
    (State.holds value (.items read :: stack)).run (lexeme :: rest) =
      (State.wantsValue (.items (value :: read) :: stack)).run rest :=
  run_cons_of_step (by simp [State.step, stepHolding, h]) rest

theorem run_openObject (h : lexeme.token = .openObject) (hdepth : stack.length < maxDepth) :
    (State.wantsValue stack).run (lexeme :: rest) = (State.wantsName [] stack).run rest :=
  run_cons_of_step (by simp [State.step, stepValue, h, hdepth]) rest

theorem run_closeObject_empty (h : lexeme.token = .closeObject) :
    (State.wantsName [] stack).run (lexeme :: rest) =
      (State.holds (.object []) stack).run rest :=
  run_cons_of_step (by simp [State.step, stepName, h]) rest

variable {read : List (String × Json)} {name : String}

theorem run_nameToken (h : lexeme.token = .string (.ok name)) :
    (State.wantsName read stack).run (lexeme :: rest) =
      (State.wantsColon read name stack).run rest :=
  run_cons_of_step (by simp [State.step, stepName, h, Except.map]) rest

theorem run_colonToken (h : lexeme.token = .colon) :
    (State.wantsColon read name stack).run (lexeme :: rest) =
      (State.wantsValue (.member read name :: stack)).run rest :=
  run_cons_of_step (by simp [State.step, h]) rest

theorem run_closeObject {value : Json} (h : lexeme.token = .closeObject) :
    (State.holds value (.member read name :: stack)).run (lexeme :: rest) =
      (State.holds (.object ((name, value) :: read).reverse) stack).run rest :=
  run_cons_of_step (by simp [State.step, stepHolding, h]) rest

theorem run_memberComma {value : Json} (h : lexeme.token = .comma) :
    (State.holds value (.member read name :: stack)).run (lexeme :: rest) =
      (State.wantsName ((name, value) :: read) stack).run rest :=
  run_cons_of_step (by simp [State.step, stepHolding, h]) rest

end Steps

theorem run_of_scalar {value : Json} {spelled : List Lexeme}
    (h : spelled.map Lexeme.token = [.scalar (.ok value)]) (stack : List Frame)
    (rest : List Lexeme) :
    (State.wantsValue stack).run (spelled ++ rest) = (State.holds value stack).run rest := by
  obtain ⟨lexeme, rfl, htoken⟩ := List.map_eq_singleton_iff.1 h
  exact run_scalar htoken

mutual

/-- The tokens of a value take the reader from where a value is wanted past that value. -/
theorem run_tokens (value : Json) {spelled : List Lexeme}
    (h : spelled.map Lexeme.token = value.tokens) {stack : List Frame}
    (hdepth : stack.length + value.depth ≤ maxDepth) (rest : List Lexeme) :
    (State.wantsValue stack).run (spelled ++ rest) = (State.holds value stack).run rest := by
  cases value with
  | null => exact run_of_scalar h stack rest
  | bool b => exact run_of_scalar h stack rest
  | int n => exact run_of_scalar h stack rest
  | real x => exact run_of_scalar h stack rest
  | string s =>
    obtain ⟨lexeme, rfl, htoken⟩ := List.map_eq_singleton_iff.1 h
    exact run_stringToken htoken
  | array items =>
    rw [depth] at hdepth
    cases items with
    | nil =>
      obtain ⟨first, spelled, rfl, hopen, h⟩ := List.map_eq_cons_iff.1 h
      obtain ⟨last, rfl, hclose⟩ := List.map_eq_singleton_iff.1 h
      rw [List.cons_append, run_openArray hopen (by omega)]
      exact run_closeArray_empty hclose
    | cons item items =>
      rw [tokens] at h
      rw [depthOfItems] at hdepth
      obtain ⟨first, spelled, rfl, hopen, h⟩ := List.map_eq_cons_iff.1 h
      obtain ⟨ofItem, ofItems, rfl, hitem, hitems⟩ := List.map_eq_append_iff.1 h
      -- past the first item, and then past whatever else stands in the array
      rw [List.cons_append, run_openArray hopen (by omega), List.append_assoc,
        run_tokens item hitem (by rw [List.length_cons]; omega)]
      exact run_itemTokens items hitems (by omega) [] item rest
  | object members =>
    rw [depth] at hdepth
    cases members with
    | nil =>
      obtain ⟨first, spelled, rfl, hopen, h⟩ := List.map_eq_cons_iff.1 h
      obtain ⟨last, rfl, hclose⟩ := List.map_eq_singleton_iff.1 h
      rw [List.cons_append, run_openObject hopen (by omega)]
      exact run_closeObject_empty hclose
    | cons member members =>
      obtain ⟨name, value⟩ := member
      rw [tokens] at h
      rw [depthOfMembers] at hdepth
      obtain ⟨first, spelled, rfl, hopen, h⟩ := List.map_eq_cons_iff.1 h
      obtain ⟨ofName, spelled, rfl, hname, h⟩ := List.map_eq_cons_iff.1 h
      obtain ⟨ofColon, spelled, rfl, hcolon, h⟩ := List.map_eq_cons_iff.1 h
      obtain ⟨ofValue, ofMembers, rfl, hvalue, hmembers⟩ := List.map_eq_append_iff.1 h
      simp only [List.cons_append, List.append_assoc]
      rw [run_openObject hopen (by omega), run_nameToken hname, run_colonToken hcolon,
        run_tokens value hvalue (by rw [List.length_cons]; omega)]
      exact run_memberTokens members hmembers (by omega) [] name value rest

theorem run_itemTokens (items : List Json) {spelled : List Lexeme}
    (h : spelled.map Lexeme.token = itemTokens items) {stack : List Frame}
    (hdepth : stack.length + depthOfItems items < maxDepth) (read : List Json) (value : Json)
    (rest : List Lexeme) :
    (State.holds value (.items read :: stack)).run (spelled ++ rest) =
      (State.holds (.array (read.reverse ++ value :: items)) stack).run rest := by
  cases items with
  | nil =>
    rw [itemTokens] at h
    obtain ⟨last, rfl, hclose⟩ := List.map_eq_singleton_iff.1 h
    rw [List.singleton_append, run_closeArray hclose, List.reverse_cons]
  | cons item items =>
    rw [itemTokens] at h
    rw [depthOfItems] at hdepth
    obtain ⟨comma, spelled, rfl, hcomma, h⟩ := List.map_eq_cons_iff.1 h
    obtain ⟨ofItem, ofItems, rfl, hitem, hitems⟩ := List.map_eq_append_iff.1 h
    rw [List.cons_append, run_itemComma hcomma, List.append_assoc,
      run_tokens item hitem (by rw [List.length_cons]; omega),
      run_itemTokens items hitems (by omega), List.reverse_cons, List.append_assoc,
      List.singleton_append]

theorem run_memberTokens (members : List (String × Json)) {spelled : List Lexeme}
    (h : spelled.map Lexeme.token = memberTokens members) {stack : List Frame}
    (hdepth : stack.length + depthOfMembers members < maxDepth) (read : List (String × Json))
    (name : String) (value : Json) (rest : List Lexeme) :
    (State.holds value (.member read name :: stack)).run (spelled ++ rest) =
      (State.holds (.object (read.reverse ++ (name, value) :: members)) stack).run rest := by
  cases members with
  | nil =>
    rw [memberTokens] at h
    obtain ⟨last, rfl, hclose⟩ := List.map_eq_singleton_iff.1 h
    rw [List.singleton_append, run_closeObject hclose, List.reverse_cons]
  | cons member members =>
    obtain ⟨other, next⟩ := member
    rw [memberTokens] at h
    rw [depthOfMembers] at hdepth
    obtain ⟨comma, spelled, rfl, hcomma, h⟩ := List.map_eq_cons_iff.1 h
    obtain ⟨ofName, spelled, rfl, hname, h⟩ := List.map_eq_cons_iff.1 h
    obtain ⟨ofColon, spelled, rfl, hcolon, h⟩ := List.map_eq_cons_iff.1 h
    obtain ⟨ofValue, ofMembers, rfl, hvalue, hmembers⟩ := List.map_eq_append_iff.1 h
    simp only [List.cons_append, List.append_assoc]
    rw [run_memberComma hcomma, run_nameToken hname, run_colonToken hcolon,
      run_tokens next hvalue (by rw [List.length_cons]; omega),
      run_memberTokens members hmembers (by omega), List.reverse_cons, List.append_assoc,
      List.singleton_append]

end

/-- A text that spells a value is read as that value. -/
theorem read_of_spells {text : String} {value : Json} (h : Spells text value) :
    Json.read text = .ok value := by
  have hdepth : ([] : List Frame).length + value.depth ≤ maxDepth := by simpa using h.depth
  have hrun := run_tokens value h.tokens hdepth []
  rw [List.append_nil] at hrun
  rw [Json.read, hrun]
  rfl

end Json

end Fixture

import Fixture.Json.Read
import Fixture.Proofs.Json.Strings

/-!
# Objects of strings are read as they were written

The reader takes the text of an object lexeme by lexeme. Blanks between lexemes say nothing,
so the two layouts give the same lexemes, and each lexeme that was written takes the reader
one state further. An object of strings is then read back with its members in order, the
ones whose names repeat as well.
-/

namespace Fixture

namespace Json

theorem lexemes_eq (text : List Char) :
    lexemes text = match text.dropWhile isSpace with
      | [] => []
      | c :: cs => ⟨(scanToken c cs).1, c :: cs⟩ :: lexemes (scanToken c cs).2 := by
  rw [lexemes]
  split
  · rename_i hnil
    rw [hnil]
  · rename_i hcons
    rw [hcons]

theorem lexemes_cons {c : Char} (h : isSpace c = false) (cs : List Char) :
    lexemes (c :: cs) = ⟨(scanToken c cs).1, c :: cs⟩ :: lexemes (scanToken c cs).2 := by
  have hdrop : (c :: cs).dropWhile isSpace = c :: cs := by simp [h]
  rw [lexemes_eq, hdrop]

theorem lexemes_blanks_append {blanks : List Char} (h : ∀ c ∈ blanks, isSpace c = true)
    (cs : List Char) : lexemes (blanks ++ cs) = lexemes cs := by
  have hdrop : (blanks ++ cs).dropWhile isSpace = cs.dropWhile isSpace :=
    List.dropWhile_append_of_pos h
  rw [lexemes_eq, hdrop, ← lexemes_eq]

theorem lexemes_blanks {blanks : List Char} (h : ∀ c ∈ blanks, isSpace c = true) :
    lexemes blanks = [] := by
  have happend := lexemes_blanks_append h []
  rw [List.append_nil] at happend
  rw [happend, lexemes_eq, List.dropWhile_nil]

theorem isSpace_of_mem_singleton {d : Char} (h : isSpace d = true) :
    ∀ c ∈ [d], isSpace c = true := by
  intro c hc
  rwa [List.mem_singleton.1 hc]

theorem isSpace_of_mem_gap (layout : Layout) : ∀ c ∈ layout.gap, isSpace c = true := by
  intro c hc
  cases layout with
  | compact => cases hc
  | indented depth =>
    rcases List.mem_cons.1 hc with rfl | hspace
    · rfl
    · rw [List.eq_of_mem_replicate hspace]
      rfl

theorem lexemes_gap_append (layout : Layout) (cs : List Char) :
    lexemes (layout.gap ++ cs) = lexemes cs :=
  lexemes_blanks_append (isSpace_of_mem_gap layout) cs

section Run

variable (read : List (String × Json)) (stack : List Frame) (name : String) (value : Json)
  (layout : Layout) (cs : List Char)

theorem run_open (h : stack.length < maxDepth) :
    (State.wantsValue stack).run (lexemes ('{' :: cs)) =
      (State.wantsName [] stack).run (lexemes cs) := by
  have htoken : scanToken '{' cs = (.openObject, cs) := rfl
  rw [lexemes_cons rfl, htoken]
  simp [State.run, State.step, stepValue, h]

theorem run_empty :
    (State.wantsName [] stack).run (lexemes ('}' :: cs)) =
      (State.holds (.object []) stack).run (lexemes cs) := by
  have htoken : scanToken '}' cs = (.closeObject, cs) := rfl
  rw [lexemes_cons rfl, htoken]
  rfl

theorem run_close :
    (State.holds value (.member read name :: stack)).run (lexemes ('}' :: cs)) =
      (State.holds (.object ((name, value) :: read).reverse) stack).run (lexemes cs) := by
  have htoken : scanToken '}' cs = (.closeObject, cs) := rfl
  rw [lexemes_cons rfl, htoken]
  rfl

theorem run_comma :
    (State.holds value (.member read name :: stack)).run (lexemes (',' :: cs)) =
      (State.wantsName ((name, value) :: read) stack).run (lexemes cs) := by
  have htoken : scanToken ',' cs = (.comma, cs) := rfl
  rw [lexemes_cons rfl, htoken]
  rfl

theorem run_colon :
    (State.wantsColon read name stack).run (lexemes (layout.colon ++ cs)) =
      (State.wantsValue (.member read name :: stack)).run (lexemes cs) := by
  have hmark (after : List Char) :
      (State.wantsColon read name stack).run (lexemes (':' :: after)) =
        (State.wantsValue (.member read name :: stack)).run (lexemes after) := by
    have htoken : scanToken ':' after = (.colon, after) := rfl
    rw [lexemes_cons rfl, htoken]
    rfl
  cases layout with
  | compact => exact hmark cs
  | indented depth =>
    have hspace := isSpace_of_mem_singleton (show isSpace ' ' = true from rfl)
    rw [Layout.colon, List.cons_append, hmark, lexemes_blanks_append hspace]

theorem lexemes_quote_append (s : String) :
    lexemes (quote s.toList ++ cs) =
      ⟨.string (.ok s), quote s.toList ++ cs⟩ :: lexemes cs := by
  have htext : quote s.toList ++ cs = '"' :: (s.toList.flatMap escape ++ '"' :: cs) := by
    simp [quote]
  have htoken : scanToken '"' (s.toList.flatMap escape ++ '"' :: cs) = (.string (.ok s), cs) := by
    have hscan := scanQuoted_flatMap_escape s.toList cs
    simp [scanToken, mark?, word?, stringToken, hscan]
  rw [htext, lexemes_cons rfl, htoken]

theorem run_name :
    (State.wantsName read stack).run (lexemes (quote name.toList ++ cs)) =
      (State.wantsColon read name stack).run (lexemes cs) := by
  rw [lexemes_quote_append]
  rfl

theorem run_string (s : String) :
    (State.wantsValue stack).run (lexemes (write layout (.string s) ++ cs)) =
      (State.holds (.string s) stack).run (lexemes cs) := by
  rw [write, lexemes_quote_append]
  rfl

end Run

def stringMember (pair : String × String) : String × Json :=
  (pair.1, .string pair.2)

theorem run_member (read : List (String × Json)) (stack : List Frame) (pair : String × String)
    (outer layout : Layout) (cs : List Char) :
    (State.wantsName read stack).run (lexemes (quote pair.1.toList ++ (outer.colon ++
        (write layout (.string pair.2) ++ cs)))) =
      (State.holds (.string pair.2) (.member read pair.1 :: stack)).run (lexemes cs) := by
  rw [run_name, run_colon, run_string]

theorem run_writeMembers (layout : Layout) (pairs : List (String × String))
    (read : List (String × Json)) (first : String × String) {blanks : List Char}
    (h : ∀ c ∈ blanks, isSpace c = true) (outer : Layout) :
    (State.holds (.string first.2) [.member read first.1]).run
        (lexemes (writeMembers layout (pairs.map stringMember) ++
          (outer.gap ++ '}' :: blanks))) =
      .ok (.object (read.reverse ++ (first :: pairs).map stringMember)) := by
  induction pairs generalizing read first with
  | nil =>
    rw [List.map_nil, writeMembers, List.nil_append, lexemes_gap_append, run_close,
      lexemes_blanks h, List.reverse_cons]
    rfl
  | cons next pairs ih =>
    have hnext := ih (stringMember first :: read) next
    rw [List.map_cons, stringMember, writeMembers]
    simp only [List.cons_append, List.append_assoc]
    rw [run_comma, lexemes_gap_append, run_member]
    rw [List.reverse_cons, List.append_assoc] at hnext
    exact hnext

/-- In either layout and with blanks after it, an object of strings is read as it was
written. -/
theorem read_write_strings (layout : Layout) (pairs : List (String × String))
    {blanks : List Char} (h : ∀ c ∈ blanks, isSpace c = true) :
    Json.read (String.ofList (write layout (.object (pairs.map stringMember)) ++ blanks)) =
      .ok (.object (pairs.map stringMember)) := by
  have hrun : (State.wantsValue []).run
      (lexemes (write layout (.object (pairs.map stringMember)) ++ blanks)) =
        .ok (.object (pairs.map stringMember)) := by
    cases pairs with
    | nil =>
      rw [List.map_nil, write, List.cons_append, List.singleton_append,
        run_open _ _ (by decide), run_empty, lexemes_blanks h]
      rfl
    | cons first pairs =>
      rw [List.map_cons, stringMember, write]
      simp only [List.cons_append, List.append_assoc, List.nil_append]
      rw [run_open _ _ (by decide), lexemes_gap_append, run_member, run_writeMembers _ _ _ _ h]
      rfl
  rw [Json.read, String.toList_ofList, hrun]

end Json

end Fixture

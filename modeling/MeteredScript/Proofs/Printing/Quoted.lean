import MeteredScript.Text.Quoted

/-!
# Quoted texts can be read back

What stands between the quotes determines the text, and where the closing quote
stands can be told without knowing the text: no character is written as the
quote itself, and a backslash is followed by one character that says what was
meant. So a quoted text that is the beginning of another one is the same text.
-/

namespace MeteredScript.Text

/-- There are two sorts of quotes. -/
theorem quoteMark_eq (cs : List Char) : quoteMark cs = '"' ∨ quoteMark cs = '\'' := by
  unfold quoteMark
  split
  · exact .inl rfl
  · exact .inr rfl

/-- The character that is meant by one after a backslash. -/
def readEscape (e : Char) : Char :=
  if e = 'n' then '\n' else if e = 'r' then '\r' else if e = 't' then '\t' else e

section Between

variable {mark c d : Char} {r s : List Char} (quotes : mark = '"' ∨ mark = '\'')

include quotes

/-- **A character is written as itself or after a backslash**, and only as itself
if it could not be misread. -/
theorem escapeChar_cases (c : Char) :
    (escapeChar mark c = [c] ∧ c ≠ '\\' ∧ c ≠ mark) ∨
      ∃ e, escapeChar mark c = ['\\', e] ∧ readEscape e = c := by
  unfold escapeChar
  split
  · rename_i backslash
    exact .inr ⟨'\\', rfl, backslash.symm⟩
  split
  · rename_i newline
    exact .inr ⟨'n', rfl, newline.symm⟩
  split
  · rename_i newline
    exact .inr ⟨'r', rfl, newline.symm⟩
  split
  · rename_i tab
    exact .inr ⟨'t', rfl, tab.symm⟩
  split
  · rename_i same
    refine .inr ⟨c, rfl, ?_⟩
    rcases quotes with rfl | rfl <;> rw [same] <;> decide
  · rename_i backslash _ _ _ quote
    exact .inl ⟨rfl, backslash, quote⟩

/-- No character is written so that it begins with the quote. -/
theorem escapeChar_append_ne : escapeChar mark c ++ r ≠ mark :: s := by
  have notBackslash : '\\' ≠ mark := by rcases quotes with rfl | rfl <;> decide
  obtain ⟨plain, -, other⟩ | ⟨e, escaped, -⟩ := escapeChar_cases quotes c
  · simp [plain, other]
  · simp [escaped, notBackslash]

/-- Characters are told apart by how they are written. -/
theorem escapeChar_append_inj (same : escapeChar mark c ++ r = escapeChar mark d ++ s) :
    c = d ∧ r = s := by
  obtain ⟨plain, backslash, -⟩ | ⟨e, escaped, means⟩ := escapeChar_cases quotes c <;>
    obtain ⟨plain', backslash', -⟩ | ⟨e', escaped', means'⟩ := escapeChar_cases quotes d
  · simpa [plain, plain'] using same
  · simp [plain, escaped', backslash] at same
  · simp [escaped, plain', backslash'.symm] at same
  · obtain ⟨rfl, rest⟩ : e = e' ∧ r = s := by simpa [escaped, escaped'] using same
    exact ⟨means.symm.trans means', rest⟩

/-- What stands before the closing quote is read character by character. -/
theorem flatMap_escapeChar_append_inj {cs ds : List Char}
    (same : cs.flatMap (escapeChar mark) ++ mark :: r = ds.flatMap (escapeChar mark) ++ mark :: s) :
    cs = ds ∧ r = s := by
  induction cs generalizing ds with
  | nil =>
    cases ds with
    | nil => exact ⟨rfl, (List.cons.inj same).2⟩
    | cons d ds =>
      rw [List.flatMap_cons, List.append_assoc] at same
      exact absurd same.symm (escapeChar_append_ne quotes)
  | cons c cs ih =>
    rw [List.flatMap_cons, List.append_assoc] at same
    cases ds with
    | nil => exact absurd same (escapeChar_append_ne quotes)
    | cons d ds =>
      rw [List.flatMap_cons, List.append_assoc] at same
      obtain ⟨rfl, rest⟩ := escapeChar_append_inj quotes same
      obtain ⟨rfl, rfl⟩ := ih rest
      exact ⟨rfl, rfl⟩

end Between

/-- **A quoted text ends where it ends**: what comes after it is no part of it. -/
theorem quoteChars_append_inj {cs ds r s : List Char}
    (same : quoteChars cs ++ r = quoteChars ds ++ s) : cs = ds ∧ r = s := by
  simp only [quoteChars, List.cons_append, List.append_assoc, List.nil_append] at same
  obtain ⟨mark, inside⟩ := List.cons.inj same
  rw [← mark] at inside
  exact flatMap_escapeChar_append_inj (quoteMark_eq cs) inside

end MeteredScript.Text

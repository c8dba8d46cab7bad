import ContentWorkflow.Text.Blank
import Mathlib.Data.List.DropRight

/-!
# Trimmed texts and lines

A trimmed text is one that trimming leaves alone: it neither begins nor ends with a blank
(`trimmed_between`), and trimming makes every text such a one (`trimmed_trim`). The lines of two
texts with a line feed between them are those of the first and then those of the second
(`lines_append`).
-/

namespace ContentWorkflow.Text

variable {text front rest : List Char} {char last : Char}

/-! ## Trimming -/

/-- The text has no blank at its ends. -/
def Trimmed (text : List Char) : Prop :=
  trim text = text

instance (text : List Char) : Decidable (Trimmed text) :=
  inferInstanceAs (Decidable (_ = _))

/-- Trimming the end takes blanks from the right. -/
theorem trim_end_eq_rdrop_while (text : List Char) : trimEnd text = text.rdropWhile isBlank :=
  rfl

theorem trim_start_cons_blank (h : isBlank char = true) :
    trimStart (char :: rest) = trimStart rest :=
  List.dropWhile_cons_of_pos h

theorem trim_start_cons (h : isBlank char = false) : trimStart (char :: rest) = char :: rest :=
  List.dropWhile_cons_of_neg (by simp [h])

theorem trim_end_concat_blank (h : isBlank last = true) :
    trimEnd (front ++ [last]) = trimEnd front :=
  List.rdropWhile_concat_pos _ _ _ h

theorem trim_end_concat (h : isBlank last = false) : trimEnd (front ++ [last]) = front ++ [last] :=
  List.rdropWhile_concat_neg _ _ _ (by simp [h])

/-- What is left of a text at its start begins with something. -/
theorem not_blank_of_trim_start (h : trimStart text = char :: rest) : isBlank char = false := by
  have hhead := List.head?_dropWhile_not isBlank text
  rw [← trimStart, h] at hhead
  exact hhead

/-- Nothing is left of blanks, and of nothing else. -/
theorem trim_eq_nil_iff : trim text = [] ↔ ∀ char ∈ text, isBlank char = true := by
  rw [trim, trim_end_eq_rdrop_while, List.rdropWhile_eq_nil_iff]
  constructor
  · intro hblank
    cases hstart : trimStart text with
    | nil => exact List.dropWhile_eq_nil_iff.1 hstart
    | cons first rest =>
        have hfirst := hblank first (hstart ▸ List.mem_cons_self)
        rw [not_blank_of_trim_start hstart] at hfirst
        cases hfirst
  · intro hblank
    rw [trimStart, List.dropWhile_eq_nil_iff.2 hblank]
    exact List.forall_mem_nil _

/-- Something is left of a text that is more than blanks. -/
theorem trim_ne_nil_iff : trim text ≠ [] ↔ ∃ char ∈ text, isBlank char = false := by
  simp [trim_eq_nil_iff]

theorem mem_of_mem_trim (h : char ∈ trim text) : char ∈ text :=
  (List.dropWhile_suffix isBlank).subset ((List.rdropWhile_prefix isBlank _).subset h)

theorem length_trim_le (text : List Char) : (trim text).length ≤ text.length :=
  (List.rdropWhile_prefix isBlank _).length_le.trans (List.dropWhile_suffix isBlank).length_le

/-- A blank at the start is trimmed away. -/
theorem trim_cons_blank (h : isBlank char = true) : trim (char :: rest) = trim rest := by
  rw [trim, trim_start_cons_blank h, trim]

/-- A blank at the end is trimmed away. -/
theorem trim_concat_blank (h : isBlank last = true) : trim (front ++ [last]) = trim front := by
  rw [trim, trimStart, List.dropWhile_append, ← trimStart]
  split
  · next hempty =>
      rw [List.isEmpty_iff] at hempty
      rw [List.dropWhile_cons_of_pos h, trim, hempty]
      rfl
  · rw [trim_end_concat_blank h, trim]

/-- A text between two characters that are no blanks is trimmed. -/
theorem trimmed_between (hfirst : text = char :: rest) (hlast : text = front ++ [last])
    (hchar : isBlank char = false) (hend : isBlank last = false) : Trimmed text := by
  have hstart : trimStart text = text := by rw [hfirst, trim_start_cons hchar]
  rw [Trimmed, trim, hstart, hlast, trim_end_concat hend]

/-- Every text that was trimmed is. -/
theorem trimmed_trim (text : List Char) : Trimmed (trim text) := by
  cases htrim : trim text with
  | nil => rfl
  | cons first rest =>
      have hprefix : first :: rest <+: trimStart text := htrim ▸ List.rdropWhile_prefix _ _
      obtain ⟨after, hstart⟩ := hprefix
      have hfirst : isBlank first = false := not_blank_of_trim_start hstart.symm
      rw [Trimmed, trim, trim_start_cons hfirst, ← htrim]
      exact List.rdropWhile_idempotent _ _

/-- A trimmed text that is something begins with something. -/
theorem Trimmed.exists_first (h : Trimmed text) (hsome : text ≠ []) :
    ∃ first rest, text = first :: rest ∧ isBlank first = false := by
  cases text with
  | nil => exact absurd rfl hsome
  | cons first rest =>
      refine ⟨first, rest, rfl, ?_⟩
      by_contra hblank
      -- a blank at the start would be trimmed away
      rw [Trimmed, trim_cons_blank (by simpa using hblank)] at h
      have hshort := h ▸ length_trim_le rest
      rw [List.length_cons] at hshort
      omega

/-- A trimmed text that is something ends with something. -/
theorem Trimmed.exists_last (h : Trimmed text) (hsome : text ≠ []) :
    ∃ front last, text = front ++ [last] ∧ isBlank last = false := by
  obtain ⟨front, last, rfl⟩ := List.eq_nil_or_concat' text |>.resolve_left hsome
  refine ⟨front, last, rfl, ?_⟩
  by_contra hblank
  rw [Trimmed, trim_concat_blank (by simpa using hblank)] at h
  have hshort := h ▸ length_trim_le front
  rw [List.length_append, List.length_singleton] at hshort
  omega

/-! ## Lines -/

theorem lines_ne_nil (text : List Char) : lines text ≠ [] := by
  fun_cases lines text <;> simp

/-- The lines of two texts with a line feed between them. -/
theorem lines_append (text rest : List Char) :
    lines (text ++ '\n' :: rest) = lines text ++ lines rest := by
  fun_induction lines text with
  | case1 => rfl
  | case2 tail ih => simp [lines, ih]
  | case3 first tail hfirst hnone => exact absurd hnone (lines_ne_nil tail)
  | case4 first tail hfirst line others hlines ih =>
      rw [hlines] at ih
      simp [lines, ih]

/-- A text without line feeds is one line. -/
theorem lines_of_not_mem (h : '\n' ∉ text) : lines text = [text] := by
  fun_induction lines text with
  | case1 => rfl
  | case2 tail ih => simp at h
  | case3 first tail hfirst hnone => exact absurd hnone (lines_ne_nil tail)
  | case4 first tail hfirst line others hlines ih =>
      rw [hlines] at ih
      simp_all

/-- No line holds a line feed. -/
theorem not_mem_of_mem_lines (text : List Char) : ∀ line ∈ lines text, '\n' ∉ line := by
  fun_induction lines text with
  | case1 => simp
  | case2 tail ih => exact List.forall_mem_cons.2 ⟨List.not_mem_nil, ih⟩
  | case3 first tail hfirst hnone => exact absurd hnone (lines_ne_nil tail)
  | case4 first tail hfirst line others hlines ih =>
      rw [hlines] at ih
      obtain ⟨hline, hothers⟩ := List.forall_mem_cons.1 ih
      refine List.forall_mem_cons.2 ⟨?_, hothers⟩
      rw [List.mem_cons, not_or]
      exact ⟨fun hfeed => hfirst hfeed.symm, hline⟩

end ContentWorkflow.Text

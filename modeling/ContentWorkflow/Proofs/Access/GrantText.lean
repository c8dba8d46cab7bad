import ContentWorkflow.Access.Grant
import ContentWorkflow.Proofs.Text.Trimming
import Mathlib.Data.List.Forall2

/-!
# Grants as text

Which texts are lists of grants, and of which. A line counts by its content alone, so a carriage
return at its end does not matter (`of_lines_ended`). A text is read where every line has no content
or reads as a grant (`ReadsAs`), and then as the grants of its lines in order. What is read can be
written, one grant a line (`ReadsAs.writable`), and what is written so is read back
(`of_text_print`).
-/

namespace ContentWorkflow.Grant

open Text

variable {text front back line : List Char} {pieces : List (List Char)} {grant : Grant}
  {grants : List Grant}

/-! ## The grant of a line -/

/-- The text reads as the grant: more than blanks stand before and behind its first comma, and what
stands there is the subject and the object, without the blanks around them. -/
def ReadsAs (text : List Char) (grant : Grant) : Prop :=
  ∃ front back, text = front ++ ',' :: back ∧ ',' ∉ front ∧
    (∃ char ∈ front, isBlank char = false) ∧ (∃ char ∈ back, isBlank char = false) ∧
    grant = ⟨String.ofList (trim front), String.ofList (trim back)⟩

/-- A text is taken apart at its first comma. -/
theorem of_content_split (h : ',' ∉ front) :
    ofContent? (front ++ ',' :: back) =
      if (trim front).isEmpty || (trim back).isEmpty then none
      else some ⟨String.ofList (trim front), String.ofList (trim back)⟩ := by
  have hfront : ∀ char ∈ front, decide (char ≠ ',') = true := by
    intro char hchar
    simpa using fun heq : char = ',' => h (heq ▸ hchar)
  rw [ofContent?, List.takeWhile_append_of_pos hfront, List.dropWhile_append_of_pos hfront]
  simp

theorem of_content_eq_some_iff : ofContent? text = some grant ↔ ReadsAs text grant := by
  constructor
  · intro h
    by_cases hcomma : ',' ∈ text
    · obtain ⟨front, back, rfl, hfront⟩ := List.eq_append_cons_of_mem hcomma
      rw [of_content_split hfront] at h
      split at h
      · cases h
      · next hparts =>
          simp only [Bool.or_eq_true, List.isEmpty_iff, not_or] at hparts
          exact ⟨front, back, rfl, hfront, trim_ne_nil_iff.1 hparts.1, trim_ne_nil_iff.1 hparts.2,
            (Option.some_inj.1 h).symm⟩
    · have hnone : text.dropWhile (· ≠ ',') = [] := List.dropWhile_eq_nil_iff.2 fun char hchar => by
        simpa using fun heq : char = ',' => hcomma (heq ▸ hchar)
      rw [ofContent?, hnone] at h
      cases h
  · rintro ⟨front, back, rfl, hfront, hsubject, hobject, rfl⟩
    rw [of_content_split hfront, if_neg]
    simpa using ⟨trim_ne_nil_iff.2 hsubject, trim_ne_nil_iff.2 hobject⟩

/-! ## The grants of lines -/

theorem of_lines_cons_blank (h : content line = []) :
    ofLines (line :: pieces) = ofLines pieces := by
  rw [ofLines, h]
  rfl

/-- A line counts by its content. -/
theorem of_lines_cons_congr {other : List Char} {others : List (List Char)}
    (h : content line = content other) (hrest : ofLines pieces = ofLines others) :
    ofLines (line :: pieces) = ofLines (other :: others) := by
  rw [ofLines, ofLines, h, hrest]

/-- A line with content is read as the grant it reads as, before those of the lines behind it. -/
theorem of_lines_cons_eq_ok_iff (h : content line ≠ []) : ofLines (line :: pieces) = .ok grants ↔
    ∃ first others, ReadsAs (content line) first ∧ ofLines pieces = .ok others ∧
      grants = first :: others := by
  rw [ofLines]
  simp only [List.isEmpty_iff, h, if_false, ← of_content_eq_some_iff]
  cases ofContent? (content line) with
  | none => simp
  | some first => cases ofLines pieces <;> simp [Except.map, eq_comm]

/-- Lines are read as grants where those with content read as one each, in order. -/
theorem of_lines_eq_ok_iff : ofLines pieces = .ok grants ↔
    List.Forall₂ (fun line grant => ReadsAs (content line) grant)
      (pieces.filter fun line => content line ≠ []) grants := by
  induction pieces generalizing grants with
  | nil =>
      rw [List.filter_nil, List.forall₂_nil_left_iff, ofLines, Except.ok.injEq]
      exact eq_comm
  | cons line rest ih =>
      by_cases hblank : content line = []
      · simp [of_lines_cons_blank hblank, ih, hblank]
      · rw [List.filter_cons_of_pos (by simpa using hblank), of_lines_cons_eq_ok_iff hblank,
          List.forall₂_cons_left_iff]
        simp only [ih]

/-- Lines are read as some grants where each has no content or reads as a grant. -/
theorem of_lines_ok_iff : (∃ grants, ofLines pieces = .ok grants) ↔
    ∀ line ∈ pieces, content line = [] ∨ ∃ grant, ReadsAs (content line) grant := by
  simp only [of_lines_eq_ok_iff]
  induction pieces with
  | nil => exact ⟨fun _ => List.forall_mem_nil _, fun _ => ⟨[], .nil⟩⟩
  | cons line rest ih =>
      rw [List.forall_mem_cons, ← ih]
      by_cases hblank : content line = []
      · simp [hblank]
      · rw [List.filter_cons_of_pos (by simpa using hblank)]
        simp only [hblank, false_or, List.forall₂_cons_left_iff]
        constructor
        · rintro ⟨_, grant, grants, hline, hrest, rfl⟩
          exact ⟨⟨grant, hline⟩, grants, hrest⟩
        · rintro ⟨⟨grant, hline⟩, grants, hrest⟩
          exact ⟨_, grant, grants, hline, hrest, rfl⟩

/-! ## Ends of lines -/

/-- A carriage return at the end of a line is no content. -/
theorem content_without_return (line : List Char) :
    content (withoutReturn line) = content line := by
  rw [withoutReturn]
  split
  · next hreturn =>
      obtain ⟨front, rfl⟩ := List.getLast?_eq_some_iff.1 hreturn
      rw [List.dropLast_concat, content, content, List.takeWhile_append]
      split
      · next hall =>
          have hfront := List.takeWhile_eq_self_iff.1 ((List.takeWhile_prefix _).eq_of_length hall)
          rw [List.takeWhile_eq_self_iff.2 hfront]
          exact (trim_concat_blank (by decide)).symm
      · rfl
  · rfl

/-- How the lines are ended is no content. -/
theorem of_lines_ended (pieces : List (List Char)) : ofLines (ended pieces) = ofLines pieces := by
  fun_induction ended pieces with
  | case1 => rfl
  | case2 last hempty =>
      rw [List.isEmpty_iff.1 hempty]
      exact (of_lines_cons_blank rfl).symm
  | case3 last hsome => rfl
  | case4 line rest hrest ih => exact of_lines_cons_congr (content_without_return line) ih

/-- The grants of a text are those of its lines. -/
theorem of_text_eq (text : String) : ofText text = ofLines (brokenLines text.toList) :=
  (of_lines_ended _).symm

/-- The grants of two texts with a line feed between them are those of the first and then those of
the second. -/
theorem of_text_append (first second : String) :
    ofText (first ++ "\n" ++ second) = do
      let grants ← ofText first
      let others ← ofText second
      return grants ++ others := by
  have htext : (first ++ "\n" ++ second).toList = first.toList ++ '\n' :: second.toList := by simp
  rw [ofText, htext, lines_append, of_lines_append]
  rfl

theorem add_text_append (grants : List Grant) (first second : String) :
    addText grants (first ++ "\n" ++ second) = addText grants first >>= (addText · second) := by
  rw [addText, of_text_append]
  cases hfirst : ofText first with
  | error malformed => simp [addText, hfirst, bind, Except.bind, Except.map]
  | ok found =>
      cases hsecond : ofText second <;>
        simp [addText, hfirst, hsecond, bind, Except.bind, Except.map, pure, Except.pure]

/-! ## Writing grants -/

/-- The grant in a line: the subject, a comma, a blank and the object. -/
def toLine (grant : Grant) : List Char :=
  grant.subject.toList ++ ',' :: ' ' :: grant.object.toList

/-- The grants, each in a line of its own. -/
def print (grants : List Grant) : String :=
  String.ofList (grants.flatMap fun grant => grant.toLine ++ ['\n'])

/-- The grant can be written in a line: neither part of it has blanks at its ends or opens a comment
or ends the line, and the subject does not end before its end. -/
structure Writable (grant : Grant) : Prop where
  subject_trimmed : Trimmed grant.subject.toList
  subject_some : grant.subject ≠ ""
  subject_plain : ',' ∉ grant.subject.toList ∧ '#' ∉ grant.subject.toList ∧
    '\n' ∉ grant.subject.toList
  object_trimmed : Trimmed grant.object.toList
  object_some : grant.object ≠ ""
  object_plain : '#' ∉ grant.object.toList ∧ '\n' ∉ grant.object.toList

/-- The content of the line of a grant is the line. -/
theorem Writable.content_to_line (h : grant.Writable) : content grant.toLine = grant.toLine := by
  obtain ⟨first, rest, hsubject, hfirst⟩ :=
    h.subject_trimmed.exists_first (by simpa using h.subject_some)
  obtain ⟨front, last, hobject, hlast⟩ :=
    h.object_trimmed.exists_last (by simpa using h.object_some)
  have hplain : ∀ char ∈ grant.toLine, decide (char ≠ '#') = true := by
    intro char hchar
    rw [decide_eq_true_iff]
    rintro rfl
    have hparts : '#' ∈ grant.subject.toList ∨ '#' ∈ grant.object.toList := by
      simpa [toLine] using hchar
    exact hparts.elim h.subject_plain.2.1 h.object_plain.1
  have hstart : grant.toLine = first :: (rest ++ ',' :: ' ' :: grant.object.toList) := by
    rw [toLine, hsubject, List.cons_append]
  have hend : grant.toLine = (grant.subject.toList ++ ',' :: ' ' :: front) ++ [last] := by
    rw [toLine, hobject]
    simp
  rw [content, List.takeWhile_eq_self_iff.2 hplain]
  exact trimmed_between hstart hend hfirst hlast

/-- The line of a grant reads as the grant. -/
theorem Writable.reads_as (h : grant.Writable) : ReadsAs (content grant.toLine) grant := by
  obtain ⟨first, rest, hsubject, hfirst⟩ :=
    h.subject_trimmed.exists_first (by simpa using h.subject_some)
  obtain ⟨front, last, hobject, hlast⟩ :=
    h.object_trimmed.exists_last (by simpa using h.object_some)
  refine ⟨grant.subject.toList, ' ' :: grant.object.toList, h.content_to_line, h.subject_plain.1,
    ⟨first, by simp [hsubject], hfirst⟩, ⟨last, by simp [hobject], hlast⟩, ?_⟩
  rw [h.subject_trimmed, trim_cons_blank (by decide), h.object_trimmed]
  simp

/-- What a line without line feed reads as can be written in a line. -/
theorem ReadsAs.writable (h : ReadsAs (content line) grant) (hline : '\n' ∉ line) :
    grant.Writable := by
  obtain ⟨front, back, hcontent, hcomma, hsubject, hobject, rfl⟩ := h
  have hplain : ∀ char ∈ content line, char ≠ '#' ∧ char ≠ '\n' := by
    intro char hchar
    have hcut := mem_of_mem_trim hchar
    refine ⟨by simpa using List.mem_takeWhile_imp hcut, ?_⟩
    rintro rfl
    exact hline ((List.takeWhile_prefix _).subset hcut)
  rw [hcontent] at hplain
  have hfront : ∀ char ∈ trim front, char ∈ front ++ ',' :: back := fun char hchar =>
    List.mem_append_left _ (mem_of_mem_trim hchar)
  have hback : ∀ char ∈ trim back, char ∈ front ++ ',' :: back := fun char hchar =>
    List.mem_append_right _ (List.mem_cons_of_mem _ (mem_of_mem_trim hchar))
  constructor
  · rw [String.toList_ofList]
    exact trimmed_trim front
  · simpa using trim_ne_nil_iff.2 hsubject
  · rw [String.toList_ofList]
    exact ⟨fun h => hcomma (mem_of_mem_trim h), fun h => (hplain _ (hfront _ h)).1 rfl,
      fun h => (hplain _ (hfront _ h)).2 rfl⟩
  · rw [String.toList_ofList]
    exact trimmed_trim back
  · simpa using trim_ne_nil_iff.2 hobject
  · rw [String.toList_ofList]
    exact ⟨fun h => (hplain _ (hback _ h)).1 rfl, fun h => (hplain _ (hback _ h)).2 rfl⟩

/-- A text is read as grants that can be written. -/
theorem writable_of_of_text {text : String} (h : ofText text = .ok grants) :
    ∀ grant ∈ grants, grant.Writable := by
  have hreads := of_lines_eq_ok_iff.1 h
  have hlines : ∀ line ∈ (Text.lines text.toList).filter fun line => content line ≠ [],
      '\n' ∉ line := fun line hline => not_mem_of_mem_lines _ line (List.mem_filter.1 hline).1
  clear h
  generalize (Text.lines text.toList).filter (fun line => content line ≠ []) = read at hreads hlines
  induction hreads with
  | nil => exact List.forall_mem_nil _
  | cons hline _ ih =>
      obtain ⟨hfirst, hrest⟩ := List.forall_mem_cons.1 hlines
      exact List.forall_mem_cons.2 ⟨hline.writable hfirst, ih hrest⟩

/-- The lines of grants that are written are theirs. -/
theorem lines_print (h : ∀ grant ∈ grants, grant.Writable) :
    Text.lines (print grants).toList = grants.map toLine ++ [[]] := by
  rw [print, String.toList_ofList]
  induction grants with
  | nil => rfl
  | cons first rest ih =>
      obtain ⟨hfirst, hrest⟩ := List.forall_mem_cons.1 h
      have hline : '\n' ∉ first.toLine := by
        simpa [toLine] using ⟨hfirst.subject_plain.2.2, hfirst.object_plain.2⟩
      rw [List.flatMap_cons, List.append_assoc, List.singleton_append, lines_append,
        lines_of_not_mem hline, ih hrest]
      rfl

/-- Grants that are written are read back. -/
theorem of_text_print (h : ∀ grant ∈ grants, grant.Writable) :
    ofText (print grants) = .ok grants := by
  have hcontent : ∀ grant ∈ grants, content grant.toLine ≠ [] := by
    intro grant hgrant
    rw [(h grant hgrant).content_to_line]
    simp [toLine]
  rw [ofText, lines_print h, of_lines_eq_ok_iff, List.filter_append, List.filter_map,
    List.filter_eq_self.2 (by simpa using hcontent)]
  have hend : ([[]] : List (List Char)).filter (fun line => content line ≠ []) = [] := rfl
  rw [hend, List.append_nil, List.forall₂_map_left_iff, List.forall₂_same]
  exact fun grant hgrant => (h grant hgrant).reads_as

/-! ## Adding the grants of a text -/

theorem add_text_eq_ok_iff {text : String} {longer : List Grant} :
    addText grants text = .ok longer ↔
      ∃ added, longer = grants ++ added ∧ ofText text = .ok added := by
  rw [addText]
  cases ofText text <;> simp [Except.map, eq_comm]

/-- A text can be added where each of its lines, without its comment and trimmed, is empty or more
than blanks stand before and behind its first comma. It adds a grant for each line with content, in
order. A text that goes on behind a line feed adds what its parts add, one after the other. Some
text adds the grants of a list where they can be written in lines, and then the text in which they
are written does. -/
theorem add_text_reads (grants : List Grant) :
    (∀ text : String,
      ((∃ longer, addText grants text = .ok longer) ↔ ∀ line ∈ brokenLines text.toList,
        content line = [] ∨ ∃ grant, ReadsAs (content line) grant) ∧
      ∀ longer, addText grants text = .ok longer ↔ ∃ added, longer = grants ++ added ∧
        List.Forall₂ (fun line grant => ReadsAs (content line) grant)
          ((brokenLines text.toList).filter fun line => content line ≠ []) added) ∧
    (∀ first second : String,
      addText grants (first ++ "\n" ++ second) = addText grants first >>= (addText · second)) ∧
    ∀ added : List Grant,
      ((∃ text, addText grants text = .ok (grants ++ added)) ↔ ∀ grant ∈ added, grant.Writable) ∧
      ((∀ grant ∈ added, grant.Writable) →
        addText grants (print added) = .ok (grants ++ added)) := by
  have hprint (added : List Grant) (h : ∀ grant ∈ added, grant.Writable) :
      addText grants (print added) = .ok (grants ++ added) :=
    add_text_eq_ok_iff.2 ⟨added, rfl, of_text_print h⟩
  refine ⟨fun text => ⟨?_, fun longer => ?_⟩, add_text_append grants, fun added =>
    ⟨⟨?_, fun h => ⟨_, hprint added h⟩⟩, hprint added⟩⟩
  · rw [← of_lines_ok_iff, ← of_text_eq]
    simp only [add_text_eq_ok_iff]
    constructor
    · rintro ⟨_, added, rfl, hadded⟩
      exact ⟨added, hadded⟩
    · rintro ⟨added, hadded⟩
      exact ⟨_, added, rfl, hadded⟩
  · simp only [add_text_eq_ok_iff, of_text_eq, of_lines_eq_ok_iff]
  · rintro ⟨text, htext⟩
    obtain ⟨read, hsame, hread⟩ := add_text_eq_ok_iff.1 htext
    obtain rfl : added = read := List.append_cancel_left hsame
    exact writable_of_of_text hread

/-- Grants whose objects hold commas, blanks and a carriage return. -/
def ofNews : List Grant :=
  [⟨"u:1", "chief editor"⟩, ⟨"chief editor", "bypass news, sports"⟩, ⟨"«guest»", "read\rnews"⟩]

theorem add_text_reads_news :
    (∀ grant ∈ ofNews, grant.Writable) ∧
      addText [⟨"u:2", "editor"⟩] (print ofNews) = .ok (⟨"u:2", "editor"⟩ :: ofNews) ∧
      print ofNews =
        "u:1, chief editor\nchief editor, bypass news, sports\n«guest», read\rnews\n" := by
  have hwritable : ∀ grant ∈ ofNews, grant.Writable := by
    simp only [ofNews, List.forall_mem_cons]
    refine ⟨?_, ?_, ?_, List.forall_mem_nil _⟩ <;> constructor <;> decide
  obtain ⟨-, -, hwritten⟩ := add_text_reads [⟨"u:2", "editor"⟩]
  exact ⟨hwritable, (hwritten ofNews).2 hwritable, by decide⟩

/-- Comments, blank lines and carriage returns are passed over. -/
example : ofText "# of the site\r\n\r\n u:1 ,\teditor # since May\r\n" =
    .ok [⟨"u:1", "editor"⟩] := by
  decide

end ContentWorkflow.Grant

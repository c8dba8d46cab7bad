import ContentWorkflow.Text.Blank
import ContentWorkflow.Text.Numeral

/-!
# Grants

A grant gives a role to a user, or a capability to a role. Grants are written one a line, the
subject before the first comma and what it is given behind it; a `#` opens a comment. The subject
`u:` with a number is the user with that number, every other subject is a role. `of_lines_append`
says that the grants of two lists of lines are those of the first and then those of the second.
-/

namespace ContentWorkflow

/-- The subject is given the object. -/
structure Grant where
  subject : String
  object : String
  deriving DecidableEq

/-- A text that should be a grant, or a subject of one, and is not. -/
structure MalformedGrant where
  text : String
  deriving DecidableEq

/-- What is said of a text that is no grant. -/
def MalformedGrant.message (malformed : MalformedGrant) : String :=
  s!"Malformed grant: {malformed.text}"

namespace Grant

/-- Who is given something. -/
inductive Subject where
  | user (uid : Int)
  | role (name : String)
  deriving DecidableEq

/-- The subject that a text names. A text that begins like a user and has no number is none. -/
def subject? (subject : String) : Option Subject :=
  match subject.toList with
  | 'u' :: ':' :: number => (Numeral.word? (String.ofList number)).map .user
  | _ => some (.role subject)

/-- The part of a line before its comment, without the blanks around it. -/
def content (line : List Char) : List Char :=
  Text.trim (line.takeWhile (· ≠ '#'))

/-- The grant of a line without comment: a subject, a comma and an object, both more than blanks. -/
def ofContent? (text : List Char) : Option Grant :=
  let subject := Text.trim (text.takeWhile (· ≠ ','))
  match text.dropWhile (· ≠ ',') with
  | [] => none
  | _ :: rest =>
      let object := Text.trim rest
      if subject.isEmpty || object.isEmpty then none
      else some ⟨String.ofList subject, String.ofList object⟩

/-- The grants of the lines. A line without content has none. -/
def ofLines : List (List Char) → Except MalformedGrant (List Grant)
  | [] => .ok []
  | line :: rest =>
      if (content line).isEmpty then ofLines rest
      else match ofContent? (content line) with
        | none => .error ⟨String.ofList (content line)⟩
        | some grant => (ofLines rest).map (grant :: ·)

/-- The grants of a text, unless some line is not one. -/
def ofText (text : String) : Except MalformedGrant (List Grant) :=
  ofLines (Text.lines text.toList)

/-- The grants and then those of the text, unless some line of it is not one. -/
def addText (grants : List Grant) (text : String) : Except MalformedGrant (List Grant) :=
  (ofText text).map (grants ++ ·)

theorem of_lines_append (first second : List (List Char)) :
    ofLines (first ++ second) = do
      let grants ← ofLines first
      let others ← ofLines second
      return grants ++ others := by
  induction first with
  | nil => cases h : ofLines second <;> simp [ofLines, h, bind, Except.bind, pure, Except.pure]
  | cons line rest ih =>
      simp only [List.cons_append, ofLines, ih]
      split
      · rfl
      · split
        · rfl
        · cases ofLines rest with
          | error malformed => rfl
          | ok grants => cases ofLines second <;> rfl

end Grant

end ContentWorkflow

/-!
# Machine names

The id of a state is made from the id of its workflow and the label of the state: the label in lower
case, with every run of other characters replaced by one underscore. `stateId` never gives a name
that is empty or a bare underscore.
-/

namespace ContentWorkflow.MachineName

/-- The character may stand in a name. -/
def isNameChar (char : Char) : Bool :=
  ('a' ≤ char && char ≤ 'z') || ('0' ≤ char && char ≤ '9') || char = '_'

/-- A character in lower case, as far as names tell it apart. The capital letters, the capital I
with a dot (an `i` with a combining dot) and the Kelvin sign have lower-case forms with a letter of
a name. No other character outside the ASCII range has one, so it may stand for itself. -/
def lower (char : Char) : List Char :=
  if char = '\u0130' then ['i', '\u0307']
  else if char = '\u212a' then ['k']
  else [char.toLower]

/-- The characters of a name in their order, with one underscore for each run of others. The flag
tells whether such a run has just been replaced. -/
def squeeze : Bool → List Char → List Char
  | _, [] => []
  | replaced, char :: rest =>
      if isNameChar char then char :: squeeze false rest
      else if replaced then squeeze true rest
      else '_' :: squeeze true rest

/-- The name of the label. A label without a character of a name gives `state`. -/
def ofLabel (label : String) : String :=
  let name := squeeze false (label.toList.flatMap lower)
  if name = [] ∨ name = ['_'] then "state" else String.ofList name

/-- The id of the workflow's state with the name. -/
def stateId (workflowId name : String) : String :=
  s!"{workflowId}_{name}"

/-- The id of the workflow's state with the label. -/
def stateIdOfLabel (workflowId label : String) : String :=
  stateId workflowId (ofLabel label)

/-- The id of the state in which the items of the workflow are created. -/
def creationStateId (workflowId : String) : String :=
  stateId workflowId "creation"

end ContentWorkflow.MachineName

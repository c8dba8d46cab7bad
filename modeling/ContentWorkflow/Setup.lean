import ContentWorkflow.Access.LinkedGrants

/-!
# Setting up a site

How the roles of a site are resolved, and whether a site can be opened at all: its database has to
be there or may be created, and the file with its grants has to be readable.
-/

namespace ContentWorkflow

/-- How roles are resolved. -/
inductive ResolverKind where
  | direct
  | linked
  deriving DecidableEq

namespace ResolverKind

/-- The name of the kind in the log. -/
def name : ResolverKind → String
  | .direct => "Simple"
  | .linked => "Casbin"

end ResolverKind

/-- Why no resolver is built. -/
inductive BuildFault (Failure : Type) where
  | malformed (grant : MalformedGrant)
  | enforcer (failure : Failure)

namespace BuildFault

variable {Held Failure : Type}

/-- What is said of the fault. -/
def message (enforcer : Enforcer Held Failure) : BuildFault Failure → String
  | .malformed grant => grant.message
  | .enforcer failure => enforcer.message failure

end BuildFault

namespace ResolverKind

/-- The resolver of the grants, and what is logged while it is built. The enforcer is asked by the
linked kind alone. -/
def buildWith {Held Failure : Type} (enforcer : Enforcer Held Failure) (kind : ResolverKind)
    (grants : List Grant) : Except (BuildFault Failure) (Resolver × List LogLine) :=
  let opening : LogLine :=
    ⟨.trace, s!"building a {kind.name}Resolver with {grants.length} grants"⟩
  match kind with
  | .direct =>
      match DirectGrants.ofGrants grants with
      | .ok given => .ok (given.resolver, [opening])
      | .error malformed => .error (.malformed malformed)
  | .linked =>
      match enforcer.setUp grants with
      | .ok (held, lines) => .ok (enforcer.resolver held, opening :: lines)
      | .error failure => .error (.enforcer failure)

/-- The resolver of the grants, built with the enforcer that sites run with. -/
def build (kind : ResolverKind) (grants : List Grant) :
    Except MalformedGrant (Resolver × List LogLine) :=
  match kind.buildWith LinkedGrants.enforcer grants with
  | .ok built => .ok built
  | .error (.malformed malformed) => .error malformed

end ResolverKind

/-- Where a site is kept. -/
structure Database where
  url : String
  found : Bool
  mayCreate : Bool
  deriving DecidableEq

/-- The file that a database url names, none for a site that is kept in memory. -/
def Database.file? (url : String) : Option String :=
  match (url.toList.dropWhile (· ≠ ':')).drop 1 with
  | ':' :: _ => none
  | '/' :: '/' :: path => some (String.ofList path)
  | path => some (String.ofList path)

/-- The file with the grants of a site. -/
inductive GrantsFile where
  | notGiven
  | unreadable
  | readable (text : String)
  deriving DecidableEq

/-- Why a site cannot be opened. -/
inductive SetupFault where
  | databaseMissing
  | grantsUnreadable
  | malformed (grant : MalformedGrant)
  deriving DecidableEq

/-- What is said of the fault. -/
def SetupFault.message : SetupFault → String
  | .databaseMissing =>
      "error returned from database: (code: 14) unable to open database file"
  | .grantsUnreadable => "the grants cannot be read"
  | .malformed grant => grant.message

/-- The database is opened, or created where it may be. -/
def Database.opened (database : Database) : Except SetupFault (List LogLine) :=
  if database.found then .ok []
  else if database.mayCreate then
    .ok [⟨.warn, s!"sqlite database {database.url} does not exist; creating..."⟩]
  else .error .databaseMissing

/-- The grants of a file, and what is logged where there is none. -/
def GrantsFile.grants : GrantsFile → Except SetupFault (List Grant × List LogLine)
  | .notGiven =>
      .ok ([], [⟨.info, "no grants provided; agents will only hold their implicit roles"⟩])
  | .unreadable => .error .grantsUnreadable
  | .readable text =>
      match Grant.ofText text with
      | .ok grants => .ok (grants, [])
      | .error malformed => .error (.malformed malformed)

/-- The resolver of a site, and what is logged while the site is opened. The database
comes first. -/
def openSite (database : Database) (file : GrantsFile) :
    Except SetupFault (Resolver × List LogLine) := do
  let databaseLog ← database.opened
  let (grants, grantsLog) ← file.grants
  match ResolverKind.direct.build grants with
  | .ok (resolver, lines) => return (resolver, databaseLog ++ grantsLog ++ lines)
  | .error malformed => throw (.malformed malformed)

end ContentWorkflow

import ContentWorkflow.CommandLine.Run
import ContentWorkflow.Setup
import ContentWorkflow.Store.Form
import Std.Time.DateTime.Timestamp

/-!
# The program

Opens the site that the options name, runs the command on it and prints what the command says. A
site is kept in a file as one document. The log goes to the standard error stream.
-/

namespace ContentWorkflow.Program

open ContentWorkflow.CommandLine

/-- The text of the file, where it can be read. -/
def readText? (path : String) : IO (Option String) := do
  match ← (IO.FS.readFile path).toBaseIO with
  | .ok text => return some text
  | .error _ => return none

/-- The number of seconds since the epoch. -/
def currentTime : IO Int := do
  return (← Std.Time.Timestamp.now).toSecondsSinceUnixEpoch.val

/-- The lines that matter enough are told. -/
def tell (options : SiteOptions) (lines : List LogLine) : IO Unit := do
  for line in lines do
    if line.level.verbosity ≤ options.verbosity then
      IO.eprintln line.toText

/-- The store is kept in the file, if it is kept at all. -/
def keep (options : SiteOptions) (store : Store) : IO Unit := do
  match Database.file? options.databaseUrl with
  | some path => IO.FS.writeFile path (JsonForm.toText store)
  | none => pure ()

/-- The store that is kept in the file, if there is a file. -/
def keptStore? (options : SiteOptions) : IO (Option Store) := do
  match Database.file? options.databaseUrl with
  | none => return some .empty
  | some path =>
      match ← readText? path with
      | none => return none
      | some text =>
          match (JsonForm.ofText? text : Option Store) with
          | some store => return some store
          | none => throw (IO.userError s!"{path} holds no site")

/-- The grants of the site. -/
def grantsFile (options : SiteOptions) : IO GrantsFile := do
  match options.grantsFile with
  | none => return .notGiven
  | some path =>
      match ← readText? path with
      | some text => return .readable text
      | none => return .unreadable

/-- The command is run once, and the store is kept that it leaves. -/
def runOnce (options : SiteOptions) (resolver : Resolver) (command : Command) (store : Store) :
    IO (Store × UInt32) := do
  let platform : Platform := ⟨resolver, .none, .always, ← currentTime⟩
  let (answer, session) := (command.run platform).run ⟨store, .empty, []⟩
  tell options session.log
  keep options session.store
  match answer with
  | .ok lines =>
      IO.print (printed lines)
      return (session.store, 0)
  | .error fault =>
      IO.eprintln s!"Error: {fault.message}"
      return (session.store, 1)

/-- The command is run, and a sweep with an interval again and again until it fails. -/
partial def runCommand (options : SiteOptions) (resolver : Resolver) (command : Command)
    (store : Store) : IO UInt32 := do
  let (store, code) ← runOnce options resolver command store
  match command with
  | .sweep (some seconds) =>
      if code ≠ 0 then return code
      for _ in [0:seconds] do
        IO.sleep 1000
      runCommand options resolver command store
  | _ => return code

/-- The site is opened and the command run on it. -/
def runOn (options : SiteOptions) (command : Command) : IO UInt32 := do
  let store? ← keptStore? options
  let database : Database := ⟨options.databaseUrl, store?.isSome, options.mayCreate⟩
  match openSite database (← grantsFile options) with
  | .error fault =>
      IO.eprintln s!"Error: {fault.message}"
      return 1
  | .ok (resolver, lines) =>
      tell options lines
      runCommand options resolver command (store?.getD .empty)

end ContentWorkflow.Program

/-- The words of the command line are run as a command. -/
def main (words : List String) : IO UInt32 := do
  match ContentWorkflow.CommandLine.Command.ofWords words with
  | .ok (command, options) => ContentWorkflow.Program.runOn options command
  | .error fault =>
      IO.eprintln s!"error: {fault.name}"
      return if fault = .displayHelp then 0 else 2

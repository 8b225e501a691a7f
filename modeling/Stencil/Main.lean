import Stencil.Command.Run

/-!
# The program

The command line on real files.  Which files a command needs shows only while it is answered, so it
is answered from the files read so far, and again whenever it missed one that can be read.
-/

set_option relaxedAutoImplicit false
set_option autoImplicit false

namespace Stencil.CommandLine

/-- A file added to those read so far, if it can be read. -/
def fetch (files : Files) (path : Path) : IO (Option Files) := do
  match ← (IO.FS.readFile path.text).toBaseIO with
  | .ok text => return some (files.discover path text)
  | .error _ => return none

/-- The answer to a command, from the files read so far and every other that it misses. -/
partial def answer (command : Command) (files : Files) (tried : List Path) :
    IO (Except CommandError Response) := do
  match command.respond files with
  | .ok response => return .ok response
  | .error e =>
    match e.missed? with
    | none => return .error e
    | some path =>
      if tried.contains path then return .error e
      match ← fetch files path with
      | some files => answer command files (path :: tried)
      | none => return .error e

/-- The template of a command that a project file is looked for beside. -/
def templateOf? (command : Command) : Option Path :=
  match command.action with
  | .render input _ _ _ | .compile input | .prebuild input | .deps input => some input
  | .markers _ _ => none

/-- A command answered and the answer carried out. -/
def perform (command : Command) : IO UInt32 := do
  let beside := (templateOf? command).map projectFileBeside
  let start ← match beside with
    | some path => fetch {} path
    | none => pure none
  match ← answer command (start.getD {}) [] with
  | .ok (.print text) =>
    IO.print text
    return 0
  | .ok (.save path text) =>
    match ← (IO.FS.writeFile path.text text).toBaseIO with
    | .ok _ => return 0
    | .error _ => report (.unwritable path)
  | .error e => report e
where
  /-- An error reported. -/
  report (e : CommandError) : IO UInt32 := do
    IO.eprintln ("Error: " ++ e.message)
    if let some place := e.position? then IO.eprintln ("  at " ++ place)
    return 1

end Stencil.CommandLine

/-- The program. -/
def main (args : List String) : IO UInt32 := do
  match Stencil.Invocation.ofArguments args with
  | .version =>
    IO.print Stencil.versionLine
    return 0
  | .help =>
    IO.print Stencil.usage
    return 0
  | .misuse =>
    IO.eprint Stencil.usage
    return 2
  | .run command => Stencil.CommandLine.perform command

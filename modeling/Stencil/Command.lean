import Stencil.Path

/-!
# Commands

What the program can be asked to do.

## Main definitions

* `Stencil.Settings` — settings that go with every action.
* `Stencil.Action`, `Stencil.Command` — what is to be done.
* `Stencil.Invocation` — a command, or one of the other things that a command line may mean.
-/

set_option relaxedAutoImplicit false
set_option autoImplicit false

namespace Stencil

/-- **Settings that go with every action.** -/
structure Settings where
  /-- The project file. -/
  config : Option Path := none
  /-- The delimiter of tags. -/
  delimiter : Option Char := none
  /-- Whether white space at the edges of lines is removed. -/
  trimWhitespace : Bool := false
  /-- Whether failures are not located. -/
  noDiagnostics : Bool := false
  /-- Whether the generated code is logged. -/
  debug : Bool := false

/-- Where the data of a template comes from. -/
inductive DataSource where
  /-- There is none. -/
  | nothing
  /-- JSON on the command line. -/
  | inline (text : String)
  /-- A file. -/
  | file (path : Path)

/-- **An action.** -/
inductive Action where
  /-- Render a template, with the blocks that it keeps apart or without them. -/
  | render (input : Path) (data : DataSource) (blocks : Bool) (output : Option Path)
  /-- Print the generated code of a template. -/
  | compile (input : Path)
  /-- Print the code of a template for build tools. -/
  | prebuild (input : Path)
  /-- Print where the references of a template lead. -/
  | deps (input : Path)
  /-- List the asset markers of a text, and take them out or not. -/
  | markers (input : Path) (strip : Bool)

/-- **A command.** -/
structure Command where
  /-- The settings. -/
  settings : Settings
  /-- The action. -/
  action : Action

/-- **What a command line means.** -/
inductive Invocation where
  /-- A command. -/
  | run (command : Command)
  /-- A question for the version. -/
  | version
  /-- A question for help. -/
  | help
  /-- Nothing that is understood. -/
  | misuse

end Stencil

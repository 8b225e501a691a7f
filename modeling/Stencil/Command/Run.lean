import Stencil.Command.Arguments
import Stencil.Data.Json.Reader
import Stencil.Files
import Stencil.Project
import Stencil.Session

/-!
# Running commands

A command is answered from a file tree alone: it prints a text, writes a file or fails.

## Main definitions

* `Stencil.CommandError` — why a command failed.
* `Stencil.Command.respond` — the answer to a command.
* `Stencil.Outcome`, `Stencil.Outcome.ofArguments` — what a command line leads to.
-/

set_option relaxedAutoImplicit false
set_option autoImplicit false

namespace Stencil

/-! ## Errors -/

/-- **Why a command failed.** -/
inductive CommandError where
  /-- The project file cannot be read. -/
  | unreadableProject (path : Path)
  /-- The project file does not make sense. -/
  | invalidProject (path : Path)
  /-- The template cannot be read. -/
  | unreadableTemplate (path : Path)
  /-- The text with markers cannot be read. -/
  | unreadableMarkup (path : Path)
  /-- The data file cannot be read. -/
  | unreadableData (path : Path)
  /-- The data file is no YAML. -/
  | invalidYaml (path : Path)
  /-- The data file is no JSON. -/
  | invalidJson (path : Path)
  /-- The data on the command line is no JSON. -/
  | invalidInline
  /-- The output cannot be written. -/
  | unwritable (path : Path)
  /-- A template does not compile or fails. -/
  | template (input : Path) (e : RenderError)

namespace CommandError

/-- The wording of an error. -/
def message : CommandError → String
  | unreadableProject path => "Failed to read config file " ++ path.text
  | invalidProject path => "Invalid config file " ++ path.text
  | unreadableTemplate path => "Failed to read template " ++ path.text
  | unreadableMarkup path => "Failed to read " ++ path.text
  | unreadableData path => "Failed to read data file " ++ path.text
  | invalidYaml path => "Invalid YAML in data file " ++ path.text
  | invalidJson path => "Invalid JSON in data file " ++ path.text
  | invalidInline => "Invalid --data JSON"
  | unwritable path => "Failed to write output file " ++ path.text
  | template _ e => e.message

/-- Where a tag stands that is not closed: the file, the line and the column. -/
def position? : CommandError → Option String
  | template input (.compile (.unclosedTag u)) =>
    let (line, column) := u.position
    some ((u.path.getD input).text ++ ":" ++ String.ofList (Nat.toDigits 10 line) ++ ":" ++
      String.ofList (Nat.toDigits 10 column))
  | _ => none

/-- The file that was missed, where that is why the command failed. -/
def missed? : CommandError → Option Path
  | unreadableProject path | unreadableTemplate path | unreadableMarkup path
  | unreadableData path => some path
  | template _ (.compile (.unreadableSource path _)) => some path
  | template _ (.compile (.unreadableInclude path _)) => some path
  | _ => none

end CommandError

/-! ## Projects -/

/-- The name of the project file that is looked for beside a template. -/
def projectFileName : String := "ejs.yml"

/-- The project file beside a template. -/
def projectFileBeside (template : Path) : Path :=
  (template.parent?.getD ⟨"."⟩).join projectFileName

/-- The project of a file. -/
def loadProject (f : Files) (path : Path) : Except CommandError Project :=
  match f.read path with
  | .error _ => .error (.unreadableProject path)
  | .ok text =>
    match Project.ofText? path text with
    | some project => .ok project
    | none => .error (.invalidProject path)

/-- The project of a template: that of the file asked for, or of the one beside the template, if
there is one. -/
def findProject (f : Files) (config : Option Path) (template : Path) :
    Except CommandError Project :=
  match config with
  | some path => loadProject f path
  | none =>
    let path := projectFileBeside template
    if (f.read path).isOk then loadProject f path else .ok {}

/-- A project's options with the settings of a command laid over them. -/
def Settings.apply (s : Settings) (template : Path) (o : Options) : Options :=
  { o with
    delimiter := s.delimiter.getD o.delimiter
    trimWhitespace := s.trimWhitespace || o.trimWhitespace
    diagnostics := !s.noDiagnostics && o.diagnostics
    debug := s.debug || o.debug
    sourcePath := some template }

/-- A session for a template, and the options of the template. -/
def Settings.openSession (s : Settings) (f : Files) (template : Path) :
    Except CommandError (Session Empty × Options) :=
  (findProject f s.config template).map fun project =>
    ({ workspace := { library := f.library, lookup := project.components.lookup } },
      s.apply template project.options)

/-! ## Data -/

/-- Whether a file is read as YAML. -/
def isYamlFile (path : Path) : Bool :=
  match path.extension? with
  | some extension => ["yml", "yaml"].contains (String.ofList extension)
  | none => false

/-- The data of a template. -/
def DataSource.load (f : Files) : DataSource → Except CommandError Value
  | .nothing => .ok (.object [])
  | .inline text =>
    match Json.read? text with
    | some v => .ok v
    | none => .error .invalidInline
  | .file path =>
    match f.read path with
    | .error _ => .error (.unreadableData path)
    | .ok text =>
      if isYamlFile path then
        match (Yaml.read? text).bind Yaml.toValue? with
        | some v => .ok v
        | none => .error (.invalidYaml path)
      else
        match Json.read? text with
        | some v => .ok v
        | none => .error (.invalidJson path)

/-! ## Answers -/

/-- The answer to a command. -/
inductive Response where
  /-- A text is printed. -/
  | print (text : String)
  /-- A text is written to a file. -/
  | save (path : Path) (text : String)

/-- A rendered template as a document, with its members in the order in which they are
written. -/
def Rendered.document (r : Rendered) : Value :=
  .object [("output", .text r.output),
    ("extractedBlocks", .list (r.blocks.map fun b =>
      .object [("html", .text b.html), ("params", b.params)]))]

/-- Markers as members of a document. -/
def Markers.members (m : Markers) : List (String × Value) :=
  [("scripts", .list (m.scripts.map .text)), ("styles", .list (m.styles.map .text))]

/-- A document as it is printed. -/
def documentLine (v : Value) : Response := .print (Json.pretty v ++ "\n")

namespace Command

/-- A template that does not compile, as the reason why the command failed. -/
def uncompiled (input : Path) (e : CompileError) : CommandError := .template input (.compile e)

/-- The template at a path compiled. -/
def compiled (s : Settings) (f : Files) (input : Path) : Except CommandError Artifact := do
  let (session, options) ← s.openSession f input
  let made ← (session.compileFile input options).1.mapError (uncompiled input)
  return made.artifact

/-- **The answer to a command,** from the files that are there. -/
def respond (c : Command) (f : Files) : Except CommandError Response := do
  match c.action with
  | .render input data blocks output =>
    let (session, options) ← c.settings.openSession f input
    let data ← data.load f
    let rendered ← (session.renderFile input data options).1.mapError (.template input)
    let text := if blocks then Json.pretty rendered.document else rendered.output
    match output with
    | some path => return .save path text
    | none => return .print text
  | .compile input => return .print (← compiled c.settings f input).source
  | .prebuild input =>
    let (_, options) ← c.settings.openSession f input
    match f.read input with
    | .error _ => throw (.unreadableTemplate input)
    | .ok text => return .print (← (Stencil.prebuild options text).mapError (uncompiled input))
  | .deps input => return documentLine (← compiled c.settings f input).report
  | .markers input strip =>
    match f.read input with
    | .error _ => throw (.unreadableMarkup input)
    | .ok text =>
      if strip then
        let delimiter := c.settings.delimiter.getD '%'
        let (rest, markers) ← (Markers.strip delimiter text).mapError (uncompiled input)
        return documentLine (.object (("text", .text rest) :: markers.members))
      else return documentLine (.object (Markers.scan text).members)

end Command

/-! ## Outcomes -/

/-- **What a command line leads to.** -/
structure Outcome where
  /-- The exit status. -/
  status : Nat
  /-- The text printed. -/
  stdout : String := ""
  /-- The files afterwards. -/
  files : Files
  /-- Why a command failed. -/
  error : Option CommandError := none

/-- The version. -/
def versionLine : String := "quarto-ejs 0.1.0\n"

/-- How the program is used. -/
def usage : String :=
  "Compile and render EJS templates\n\nUsage: quarto-ejs [OPTIONS] <COMMAND>\n\nCommands:\n" ++
    "  render    Render a template\n" ++
    "  compile   Print the generated source of a template\n" ++
    "  prebuild  Print build-tool code for a template (directives are dropped)\n" ++
    "  deps      Print the dependency metadata of a template as JSON\n" ++
    "  markers   List the asset markers in rendered output\n"

/-- What an answer does to a file tree. -/
def Response.perform (f : Files) : Response → Except CommandError Outcome
  | .print text => .ok { status := 0, stdout := text, files := f }
  | .save path text =>
    match f.write path text with
    | .ok files => .ok { status := 0, files }
    | .error _ => .error (.unwritable path)

/-- **What a command line leads to,** from the files that are there. -/
def Outcome.ofArguments (f : Files) (args : List String) : Outcome :=
  match Invocation.ofArguments args with
  | .version => { status := 0, stdout := versionLine, files := f }
  | .help => { status := 0, stdout := usage, files := f }
  | .misuse => { status := 2, files := f }
  | .run command =>
    match (command.respond f).bind (Response.perform f) with
    | .ok outcome => outcome
    | .error e => { status := 1, files := f, error := some e }

end Stencil

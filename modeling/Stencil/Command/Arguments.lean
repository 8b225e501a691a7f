import Stencil.Command

/-!
# Command lines

How the words of a command line are read.

## Main definitions

* `Stencil.Arguments.Flag` — an option.
* `Stencil.Arguments.Level.scan` — the options and other words on one level of a command line.
* `Stencil.Invocation.ofArguments` — what a command line means.

## Design

A command line has two levels: words before the name of the action and words behind it.  Both are
scanned by one function from left to right, which takes options with their values and leaves the
other words.  Settings may stand on either level, and the inner level counts.
-/

set_option relaxedAutoImplicit false
set_option autoImplicit false

namespace Stencil

namespace Arguments

/-! ## Options -/

/-- What an option takes. -/
inductive Operand where
  /-- Nothing. -/
  | none
  /-- Any text. -/
  | text
  /-- A path, which is not empty. -/
  | path
  /-- One character. -/
  | char
  deriving DecidableEq

/-- Whether a text will do as the value of an option. -/
def Operand.accepts (o : Operand) (value : String) : Bool :=
  match o with
  | none => false
  | text => true
  | path => !value.isEmpty
  | char => value.length == 1

/-- **An option.** -/
structure Flag where
  /-- Its long name. -/
  name : String
  /-- What it takes. -/
  operand : Operand := .none
  /-- Its short name. -/
  short : Option Char := none

namespace Flag

/-- The options of every action. -/
def settings : List Flag :=
  [{ name := "config", operand := .path }, { name := "delimiter", operand := .char },
    { name := "trim-whitespace" }, { name := "no-compile-diagnostics" }, { name := "debug" }]

/-- The options of rendering. -/
def rendering : List Flag :=
  [{ name := "data", operand := .text }, { name := "data-file", operand := .path },
    { name := "blocks" }, { name := "output", operand := .path, short := some 'o' }]

end Flag

/-- The actions by name, with the options that each has of its own. -/
def actions : List (String × List Flag) :=
  [("render", Flag.rendering), ("compile", []), ("prebuild", []), ("deps", []),
    ("markers", [{ name := "strip" }])]

/-! ## Scanning -/

/-- A level of a command line. -/
structure Level where
  /-- The options that are understood. -/
  flags : List Flag
  /-- Whether the names of actions are looked for; otherwise there is one other word. -/
  isOuter : Bool

/-- The options and other words found, in the order in which they stand. -/
structure Found where
  /-- The options with their values; an option without an operand has an empty one. -/
  given : List (String × String) := []
  /-- The other words. -/
  words : List String := []

namespace Found

/-- The value of an option, if it was given. -/
def value? (f : Found) (name : String) : Option String := f.given.lookup name

/-- Whether an option was given. -/
def has (f : Found) (name : String) : Bool := (f.value? name).isSome

/-- One more option, which may be given only once. -/
def give? (f : Found) (flag : Flag) (value : String) : Option Found :=
  if f.has flag.name || (flag.operand ≠ .none && !flag.operand.accepts value) then none
  else some { f with given := f.given ++ [(flag.name, value)] }

end Found

/-- How the scan of a level ends. -/
inductive Scan where
  /-- At the end of the words. -/
  | finished (found : Found)
  /-- At the name of an action, with the words behind it. -/
  | action (found : Found) (name : String) (behind : List String)
  /-- At a question for the version. -/
  | version
  /-- At a question for help. -/
  | help
  /-- At something that is not understood. -/
  | misuse

/-- The name of an option and the value joined to it by an equals sign. -/
def splitEquals (s : List Char) : String × Option String :=
  match s.dropWhile (· ≠ '=') with
  | _ :: value => (String.ofList (s.takeWhile (· ≠ '=')), some (String.ofList value))
  | [] => (String.ofList s, none)

/-- Whether a word is taken for options: it begins with a dash and does not end there. -/
def looksLikeOption (word : String) : Bool :=
  match word.toList with
  | '-' :: _ :: _ => true
  | _ => false

/-- Whether help is asked for an action, by the words behind `help`. -/
def asksHelp : List String → Bool
  | [] => true
  | [name] => name = "help" || actions.any fun (n, _) => n = name
  | _ => false

/-- A word that is no option. -/
def Level.other (l : Level) (found : Found) (word : String) : Option Found :=
  if l.isOuter || !found.words.isEmpty || word.isEmpty then none
  else some { found with words := [word] }

/-- Words that cannot be options any more. -/
def Level.others (l : Level) (found : Found) : List String → Scan
  | [] => .finished found
  | word :: rest =>
    match l.other found word with
    | some found => others l found rest
    | none => .misuse

/-- An option in a word, how it was given. -/
inductive Given where
  /-- An option, and the value joined to it. -/
  | flag (flag : Flag) (joined : Option String)
  /-- A question for help. -/
  | help
  /-- A question for the version. -/
  | version
  /-- An option that is not understood. -/
  | unknown

/-- The option that a word with two dashes gives. -/
def Level.long (l : Level) (s : List Char) : Given :=
  let (name, joined) := splitEquals s
  match l.flags.find? fun flag => flag.name = name with
  | some flag => .flag flag joined
  | none =>
    if name = "help" && joined.isNone then .help
    else if name = "version" && joined.isNone && l.isOuter then .version
    else .unknown

/-- The option that a word with one dash gives.  All short options take a value or end the
scan, so the rest of the word belongs to the first of them. -/
def Level.short (l : Level) (c : Char) (rest : List Char) : Given :=
  match l.flags.find? fun flag => flag.short = some c with
  | some flag =>
    match rest with
    | [] => .flag flag none
    | '=' :: value => .flag flag (some (String.ofList value))
    | value => .flag flag (some (String.ofList value))
  | none => if c = 'h' then .help else if c = 'V' && l.isOuter then .version else .unknown

/-- The option that a word gives, if it is taken for one. -/
def Level.given? (l : Level) (word : String) : Option Given :=
  match word.toList with
  | '-' :: '-' :: s => some (l.long s)
  | '-' :: c :: rest => some (l.short c rest)
  | _ => none

/-- **The scan of a level,** from left to right.  `awaiting` is the option whose value has to come
next. -/
def Level.scan (l : Level) (found : Found) (awaiting : Option Flag) : List String → Scan
  | [] => if awaiting.isSome then .misuse else .finished found
  | word :: rest =>
    match awaiting with
    | some flag =>
      if looksLikeOption word then .misuse
      else
        match found.give? flag word with
        | some found => l.scan found none rest
        | none => .misuse
    | none =>
      if word = "--" then l.others found rest
      else
        match l.given? word with
        | some .help => .help
        | some .version => .version
        | some .unknown => .misuse
        | some (.flag flag joined) =>
          match flag.operand, joined with
          | .none, some _ => .misuse
          | .none, none =>
            match found.give? flag "" with
            | some found => l.scan found none rest
            | none => .misuse
          | _, some value =>
            match found.give? flag value with
            | some found => l.scan found none rest
            | none => .misuse
          | _, none => l.scan found (some flag) rest
        | none =>
          if l.isOuter then
            if word = "help" then if asksHelp rest then .help else .misuse
            else if (actions.lookup word).isSome then .action found word rest
            else .misuse
          else
            match l.other found word with
            | some found => l.scan found none rest
            | none => .misuse

end Arguments

/-! ## Meaning -/

/-- The settings that the two levels give; the inner level comes first. -/
def Settings.ofFound (inner outer : Arguments.Found) : Settings where
  config := ((inner.value? "config").or (outer.value? "config")).map Path.mk
  delimiter := ((inner.value? "delimiter").or (outer.value? "delimiter")).bind (·.toList.head?)
  trimWhitespace := inner.has "trim-whitespace" || outer.has "trim-whitespace"
  noDiagnostics := inner.has "no-compile-diagnostics" || outer.has "no-compile-diagnostics"
  debug := inner.has "debug" || outer.has "debug"

/-- The data that the options of rendering give; it cannot come from two places. -/
def DataSource.ofFound? (f : Arguments.Found) : Option DataSource :=
  match f.value? "data", f.value? "data-file" with
  | none, none => some .nothing
  | some text, none => some (.inline text)
  | none, some path => some (.file ⟨path⟩)
  | some _, some _ => none

/-- The action of a name, given what stands behind the name. -/
def Action.ofFound? (name : String) (f : Arguments.Found) : Option Action := do
  let input := Path.mk (← f.words.head?)
  match name with
  | "render" =>
    let data ← DataSource.ofFound? f
    return .render input data (f.has "blocks") ((f.value? "output").map Path.mk)
  | "compile" => return .compile input
  | "prebuild" => return .prebuild input
  | "deps" => return .deps input
  | "markers" => return .markers input (f.has "strip")
  | _ => none

/-- **What a command line means.** -/
def Invocation.ofArguments (args : List String) : Invocation :=
  match Arguments.Level.scan ⟨Arguments.Flag.settings, true⟩ {} none args with
  | .version => .version
  | .help => .help
  | .misuse | .finished _ => .misuse
  | .action outer name behind =>
    let flags := Arguments.Flag.settings ++ (Arguments.actions.lookup name).getD []
    match Arguments.Level.scan ⟨flags, false⟩ {} none behind with
    | .version => .version
    | .help => .help
    | .misuse | .action _ _ _ => .misuse
    | .finished inner =>
      match Action.ofFound? name inner with
      | some action => .run ⟨.ofFound inner outer, action⟩
      | none => .misuse

end Stencil

import Inset.Command.Arguments
import Inset.Command.Discovery
import Inset.Command.Filter
import Inset.Generated
import Inset.Manifest.Toml

/-!
# Running commands

Every action begins by finding and reading a manifest.  `build` writes the
files of the manifest, `check` compares them with what is there, and `print`
prints grammars.  A report holds the exit code, what is printed, and the events
on the way.
-/

namespace Inset.Command

/-- What a command has done. -/
structure Report where
  exit : Nat
  stdout : String
  events : List Event
  deriving DecidableEq

/-- The exit code of a command that has failed. -/
def failureCode : Nat := 1

/-- The exit code of a command line that does not fit. -/
def misuseCode : Nat := 2

/-- Put events in front of a report. -/
def Report.after (events : List Event) (report : Report) : Report :=
  { report with events := events ++ report.events }

/-- The report of a command that ends in an error. -/
def Report.failure (topic : Topic) (message : String) : Report :=
  ⟨failureCode, "", [⟨.error, topic, message⟩]⟩

/-! ## Events -/

/-- The events of building the grammar of a host. -/
def generationEvents (manifest : Manifest) (entry : HostEntry) : List Event :=
  let building : Event := ⟨.debug, .generation,
    "Building " ++ entry.kind.name ++ " grammar for host `" ++ entry.id ++ "` with " ++
      toString manifest.embedded.length ++ " embedded languages"⟩
  if manifest.embedded.isEmpty then
    [⟨.warn, .generation,
      "No embedded languages configured, grammar for host `" ++ entry.id ++
        "` will not match anything"⟩, building]
  else [building]

/-- The event of a file that is written or up to date. -/
def changeEvent (change : Path × Change) : Event :=
  match change.2 with
  | .written => ⟨.info, .generation, "Wrote " ++ change.1.text⟩
  | .unchanged => ⟨.debug, .generation, "Unchanged " ++ change.1.text⟩

/-- The event of a file that differs. -/
def differenceEvent (difference : Path × Difference) : Event :=
  let state := match difference.2 with
    | .missing => "missing"
    | .stale => "out of date"
  ⟨.error, .check, difference.1.text ++ ": " ++ state⟩

/-! ## Actions -/

/-- The report of a build that wrote what it could. -/
def buildReport (files : List GeneratedFile) (written : WriteReport) : Report :=
  let changes := written.changes.map changeEvent
  match written.outcome with
  | .error error =>
      (Report.failure .build ("Failed to write generated file: " ++ error.message)).after changes
  | .ok summary =>
      { exit := 0
        stdout := ""
        events := changes ++ [⟨.info, .build,
          "Generated " ++ toString files.length ++ " file" ++
            (if files.length = 1 then "" else "s") ++ ": " ++
            toString summary.written ++ " written, " ++
            toString summary.unchanged ++ " unchanged"⟩] }

/-- The report of a check. -/
def checkReport (files : List GeneratedFile) :
    Except IoError (List (Path × Difference)) → Report
  | .error error => Report.failure .check ("Failed to read generated file: " ++ error.message)
  | .ok [] =>
      ⟨0, "", [⟨.info, .check,
        "Check passed, all " ++ toString files.length ++ " generated files are up to date"⟩]⟩
  | .ok differences =>
      (Report.failure .check "Check failed, run `build` to regenerate").after
        (differences.map differenceEvent)

/-- The hosts whose grammars are printed. -/
def printedHosts (manifest : Manifest) : Option String → List HostEntry
  | none => manifest.hosts
  | some id => manifest.hosts.filter (·.id = id)

/-- How the choice of a host is shown. -/
def shownHost : Option String → String
  | none => "None"
  | some id => "Some(" ++ Text.quoted id ++ ")"

/-- The report of printing grammars, with an empty line between them. -/
def printReport (manifest : Manifest) (id : Option String) : Report :=
  match printedHosts manifest id with
  | [] => Report.failure .print ("No host named " ++ shownHost id ++ " in manifest")
  | hosts =>
      { exit := 0
        stdout := "\n".intercalate (hosts.map fun entry => (manifest.document entry).text)
        events := hosts.flatMap (generationEvents manifest) }

section

variable {m : Type → Type} [Monad m] [Files m]

/-- Do something with an accepted manifest whose files go below a directory. -/
def Action.perform (action : Action) (directory : Path) (manifest : Manifest) : m Report := do
  let generation := manifest.hosts.flatMap (generationEvents manifest)
  let files := manifest.assemble
  match action with
  | build =>
      let written ← writeGenerated directory files
      return (buildReport files written).after generation
  | check =>
      let differences ← checkGenerated directory files
      return (checkReport files differences).after generation
  | print id => return printReport manifest id

/-- Run a command in a working directory. -/
def Invocation.run (invocation : Invocation) (directory : Path) : m Report := do
  match ← findManifest directory invocation.manifest with
  | .error error => return Report.failure .manifest error.message
  | .ok found =>
      let report : Report ←
        match Manifest.ofToml found.text with
        | .error error =>
            pure (Report.failure .manifest (found.path.text ++ ": " ++ error.message))
        | .ok manifest => invocation.action.perform found.directory manifest
      return report.after [⟨.debug, .manifest, "Using manifest " ++ found.path.text⟩]

end

/-! ## Command lines -/

/-- The line that tells the version. -/
def versionLine : String := "inlang 0.1.0\n"

/-- What is printed as help.  The words are this library's own and not those of the program that
it models: the texts that its command-line parser composes for help and for misuse are left
out. -/
def helpText : String :=
  "Generates injection grammars for the languages embedded in raw strings.\n\n" ++
  "Usage: inlang [--manifest MANIFEST] [--verbose] build|check|print\n\n" ++
  "  build                write the files of the manifest\n" ++
  "  check                compare the files of the manifest with what is there\n" ++
  "  print [--host HOST]  print the grammars of the hosts\n"

/-- What is seen of a command. -/
structure Outcome where
  exit : Nat
  stdout : String
  stderr : String
  deriving DecidableEq

/-- The exit code of a command that cannot even begin. -/
def crashCode : Nat := 101

/-- Run a command line in a working directory, under the filter text of the
environment.  Nothing is done if that text cannot be cut into pieces.

The messages of a command line that does not fit and of a filter text that cannot be cut
are this library's own words, too, as `helpText` is.  Their exit codes are those of the
program. -/
def runCommand {m : Type → Type} [Monad m] [Files m] (arguments : List String)
    (filterText : Option String) (directory : Path) : m Outcome := do
  match Request.ofArguments arguments with
  | .misuse => return ⟨misuseCode, "", "error: the command line does not fit\n\n" ++ helpText⟩
  | .help => return ⟨0, helpText, ""⟩
  | .version => return ⟨0, versionLine, ""⟩
  | .run invocation =>
      match Filter.choose? filterText invocation.verbose with
      | none => return ⟨crashCode, "", "error: the log filter is cut within a character\n"⟩
      | some filter =>
          let report ← invocation.run directory
          return ⟨report.exit, report.stdout, filter.lines report.events⟩

end Inset.Command

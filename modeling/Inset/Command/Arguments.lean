import Inset.Path.Basic

/-!
# Command lines

A command line names an action, and options before or after it.  Options are
read from left to right, and the first one that asks for help or for the
version, or that does not fit, ends the reading.  An option may come once
before the action and once after it; the one after it counts.

A value that is an argument of its own is looked at late: when the next option
comes on the same side of the action, or at the end, after the arguments behind
the action.  So help may be asked for before a value is found not to fit.
-/

namespace Inset.Command

/-- What is to be done with a manifest. -/
inductive Action
  | build
  | check
  /-- Print the grammars of all hosts, or of the host with the given name. -/
  | print (host : Option String)
  deriving DecidableEq

/-- A command as it is to be run. -/
structure Invocation where
  manifest : Option Path
  verbose : Bool
  action : Action
  deriving DecidableEq

/-- What a command line asks for. -/
inductive Request
  | run (invocation : Invocation)
  | help
  | version
  /-- The command line does not fit. -/
  | misuse
  deriving DecidableEq

/-- The names of the actions. -/
inductive ActionName
  | build
  | check
  | print
  deriving DecidableEq

/-- The action that an argument names. -/
def ActionName.ofText? (text : String) : Option ActionName :=
  if text = "build" then some .build
  else if text = "check" then some .check
  else if text = "print" then some .print
  else none

/-- The options with a value. -/
inductive ValueOption
  | manifest
  | host
  deriving DecidableEq

/-- The options read so far on one side of the action. -/
structure Options where
  manifest : Option String := none
  verbose : Bool := false
  host : Option String := none
  /-- A value that has not been looked at. -/
  pending : Option (ValueOption × String) := none
  deriving DecidableEq, Inhabited

/-- Which options may come: those before the action, or those after it. -/
inductive Scope
  | before
  | after (action : ActionName) (outer : Options)
  deriving DecidableEq

/-- Whether the version may be asked for. -/
def Scope.hasVersion : Scope → Bool
  | before => true
  | after _ _ => false

/-- Whether a host may be given. -/
def Scope.hasHost : Scope → Bool
  | after .print _ => true
  | _ => false

/-- The option with a value that a name stands for. -/
def Scope.valueOption? (scope : Scope) (name : String) : Option ValueOption :=
  if name = "manifest" then some .manifest
  else if name = "host" ∧ scope.hasHost then some .host
  else none

/-- Set an option to a value, unless it is set already.  The path of a manifest
is not empty. -/
def Options.set? (options : Options) (option : ValueOption) (value : String) :
    Option Options :=
  match option with
  | .manifest =>
      if options.manifest.isSome ∨ value = "" then none
      else some { options with manifest := some value }
  | .host => if options.host.isSome then none else some { options with host := some value }

/-- Set the option whose value has not been looked at. -/
def Options.settle? (options : Options) : Option Options :=
  match options.pending with
  | none => some options
  | some (option, value) => { options with pending := none }.set? option value

/-- Read a flag by its long name. -/
def Scope.readFlag (scope : Scope) (options : Options) (name : String) :
    Except Request Options :=
  match options.settle? with
  | none => .error .misuse
  | some options =>
      if name = "verbose" then
        if options.verbose then .error .misuse else .ok { options with verbose := true }
      else if name = "help" then .error .help
      else if name = "version" ∧ scope.hasVersion then .error .version
      else .error .misuse

/-- The long name of a flag with one letter. -/
def flagName : Char → String
  | 'v' => "verbose"
  | 'h' => "help"
  | 'V' => "version"
  | _ => ""

/-- Read flags that are given by one letter each. -/
def Scope.readFlags (scope : Scope) (options : Options) (letters : List Char) :
    Except Request Options :=
  letters.foldlM (fun options letter => scope.readFlag options (flagName letter)) options

/-- Whether an argument is an option and not a value. -/
def isOption (argument : String) : Bool :=
  match argument.toList with
  | '-' :: _ :: _ => true
  | _ => false

/-- The request at the end of the command line. -/
def Scope.finish (scope : Scope) (options : Options) : Request :=
  match scope with
  | before => .misuse
  | after action outer =>
      match options.settle?, outer.settle? with
      | some options, some outer =>
          let manifest := (options.manifest <|> outer.manifest).map Path.mk
          let verbose := options.verbose || outer.verbose
          match action with
          | .build => .run ⟨manifest, verbose, .build⟩
          | .check => .run ⟨manifest, verbose, .check⟩
          | .print => .run ⟨manifest, verbose, .print options.host⟩
      | _, _ => .misuse

/-- Whether help is given on the named actions. -/
def isHelpTopic : List String → Bool
  | [] => true
  | [name] => (ActionName.ofText? name).isSome || name = "help"
  | _ => false

/-- Read the arguments that are left. -/
def readArguments (scope : Scope) (options : Options) : List String → Request
  | [] => scope.finish options
  | argument :: rest =>
      match argument.toList with
      | '-' :: '-' :: [] => if rest.isEmpty then scope.finish options else .misuse
      | '-' :: '-' :: long =>
          let name := String.ofList (long.takeWhile (· ≠ '='))
          let attached := long.dropWhile (· ≠ '=')
          match scope.valueOption? name, attached with
          | some option, _ :: value =>
              match options.settle?.bind (·.set? option (String.ofList value)) with
              | some options => readArguments scope options rest
              | none => .misuse
          | some option, [] =>
              match rest with
              | [] => .misuse
              | value :: rest =>
                  if isOption value then .misuse
                  else
                    match options.settle? with
                    | some options =>
                        readArguments scope { options with pending := some (option, value) } rest
                    | none => .misuse
          | none, _ :: _ => .misuse
          | none, [] =>
              match scope.readFlag options name with
              | .ok options => readArguments scope options rest
              | .error request => request
      | '-' :: letter :: letters =>
          match scope.readFlags options (letter :: letters) with
          | .ok options => readArguments scope options rest
          | .error request => request
      | _ =>
          match scope with
          | .after _ _ => .misuse
          | .before =>
              match ActionName.ofText? argument with
              | some action => readArguments (.after action options) {} rest
              | none =>
                  if argument = "help" then if isHelpTopic rest then .help else .misuse
                  else .misuse

/-- The request of a command line. -/
def Request.ofArguments (arguments : List String) : Request :=
  readArguments .before {} arguments

end Inset.Command

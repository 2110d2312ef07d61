import Inset.Command.Run

/-!
# The program

The command line runs on the disk: the file store is that of the system, the
working directory is that of the process, and the log filter is taken from the
environment.  Arguments, the working directory and the filter are taken as texts;
what is not UTF-8 in them is left out, as it is of paths.
-/

namespace Inset

/-- The code of an error of the system, and its words. -/
def systemCode : IO.Error → UInt32 × String
  | .alreadyExists _ code details => (code, details)
  | .otherError code details => (code, details)
  | .resourceBusy code details => (code, details)
  | .resourceVanished code details => (code, details)
  | .unsupportedOperation code details => (code, details)
  | .hardwareFault code details => (code, details)
  | .unsatisfiedConstraints code details => (code, details)
  | .illegalOperation code details => (code, details)
  | .protocolError code details => (code, details)
  | .timeExpired code details => (code, details)
  | .interrupted _ code details => (code, details)
  | .noFileOrDirectory _ code details => (code, details)
  | .invalidArgument _ code details => (code, details)
  | .permissionDenied _ code details => (code, details)
  | .resourceExhausted _ code details => (code, details)
  | .inappropriateType _ code details => (code, details)
  | .noSuchThing _ code details => (code, details)
  | .unexpectedEof => (0, "unexpected end of file")
  | .userError message => (0, message)

/-- The number of an error; some parts of the system give it with its sign
changed. -/
def errorNumber (code : UInt32) : Nat :=
  if code.toNat < Nat.pow 2 31 then code.toNat else Nat.pow 2 32 - code.toNat

/-- The reason behind an error of the system. -/
def storeErrorOf (error : IO.Error) : StoreError :=
  let (code, details) := systemCode error
  match errorNumber code with
  | 2 => .noEntry
  | 17 => .exists
  | 20 => .notDirectory
  | 21 => .isDirectory
  | 36 => .nameTooLong
  | 40 => .tooManyLinks
  | number => .other (details ++ " (os error " ++ toString number ++ ")")

/-- Run an action of the system on a path that the system can take. -/
def onSystemPath {α : Type} (path : Path) (action : String → IO α) :
    IO (Except StoreError α) := do
  if '\x00' ∈ path.text.toList then return .error .nulInPath
  try
    return .ok (← action path.text)
  catch error =>
    return .error (storeErrorOf error)

instance : Files IO where
  readText path := do
    match ← onSystemPath path fun text => IO.FS.readBinFile text with
    | .error cause => return .error cause
    | .ok bytes =>
        match String.fromUTF8? bytes with
        | some text => return .ok text
        | none => return .error .notText
  makeDirectory path := onSystemPath path fun text => IO.FS.createDir text
  isDirectory path := do
    match ← onSystemPath path fun text => do (← IO.FS.realPath text).isDir with
    | .ok answer => return answer
    | .error _ => return false
  writeText path content := onSystemPath path fun text => IO.FS.writeFile text content

end Inset

/-- Run the command line. -/
def main (arguments : List String) : IO UInt32 := do
  let directory : Inset.Path := ⟨(← IO.currentDir).toString⟩
  let filterText ← IO.getEnv "RUST_LOG"
  let outcome : Inset.Command.Outcome ←
    Inset.Command.runCommand arguments filterText directory
  IO.print outcome.stdout
  IO.eprint outcome.stderr
  return outcome.exit.toUInt32

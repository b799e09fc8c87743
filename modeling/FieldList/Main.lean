import FieldList.CommandLine.Run

/-!
# The program

Finds out what the command line needs to know, lets it be decided, and carries the ending out.
-/

namespace FieldList.Program

open FieldList.CommandLine

/-- The variable of the environment that holds a log filter. -/
def logFilterVariable : String := "RUST_LOG"

/-- The reason that the system gives for a file that cannot be opened, if it gives one. -/
def reason? : IO.Error → Option (Nat × String)
  | .noFileOrDirectory _ code text | .inappropriateType _ code text
  | .permissionDenied _ code text | .resourceExhausted _ code text
  | .invalidArgument _ code text | .alreadyExists _ code text
  | .noSuchThing _ code text => some (code.toNat, text)
  | .resourceBusy code text | .resourceVanished code text | .hardwareFault code text
  | .illegalOperation code text | .unsupportedOperation code text | .otherError code text =>
    some (code.toNat, text)
  | _ => none

def openError (e : IO.Error) : Files.OpenError :=
  match reason? e with
  | some (2, _) => .notFound
  | some (20, _) => .notDirectory
  | some (21, _) => .isDirectory
  | some (36, _) => .nameTooLong
  | some (code, text) => .system text code
  | none => .system (toString e) 5

/-- What a path leads to. -/
def lookAt (path : String) : IO (Except Files.OpenError Files.Node) := do
  try
    let handle ← IO.FS.Handle.mk path .read
    return .ok (.file (.bytes (← handle.readBinToEnd)))
  catch e =>
    match openError e with
    | .isDirectory => return .ok .directory
    | cause => return .error cause

/-- What some paths lead to; all others are as good as missing. -/
def lookAll (paths : List String) : IO Files.View := do
  let seen ← paths.mapM fun path => return (path, ← lookAt path)
  return fun path => (seen.lookup path).getD (.error .notFound)

/-- Opens a file for writing and fills it. -/
def writeFile (path : String) (content : Content) : IO (Except Files.OpenError Unit) := do
  try
    IO.FS.writeBinFile path content.toBytes
    return .ok ()
  catch e => return .error (openError e)

def surroundings (words : List String) : IO Surroundings := do
  match Invocation.ofWords words with
  | .error _ => return ⟨← lookAll [], .ofText ""⟩
  | .ok i =>
    let stdin ← if i.command.readsStdin then (← IO.getStdin).readBinToEnd else pure .empty
    return ⟨← lookAll i.command.consulted, .bytes stdin⟩

def carryOut : Ending → IO Report
  | .finished report => return report
  | .writing path content report => return report (← writeFile path content)

def runProgram (words : List String) : IO UInt32 := do
  let filter ← IO.getEnv logFilterVariable
  let report ← carryOut (ending (← surroundings words) filter words)
  for line in report.log do
    IO.eprintln line.shown
  IO.print report.stdout
  IO.eprint report.stderr
  return report.exit.toUInt32

end FieldList.Program

def main (words : List String) : IO UInt32 := FieldList.Program.runProgram words

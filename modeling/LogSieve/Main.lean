import LogSieve.Command.Run

/-!
This module contains the program: it reads its arguments, runs the command in the current folder,
and tells its failure by its exit code.
-/

namespace LogSieve.Program

def faultOf (e : IO.Error) : FileFault :=
  match e with
  | .noFileOrDirectory .. => .notFound
  | e => .other (toString e)

def readText (path : String) : IO (Except FileFault String) := do
  try
    let bytes ← IO.FS.readBinFile path
    match String.fromUTF8? bytes with
    | some text => return .ok text
    | none => return .error .notText
  catch e =>
    return .error (faultOf e)

def writeText (path text : String) : IO (Except FileFault Unit) := do
  try
    IO.FS.writeFile path text
    return .ok ()
  catch e =>
    return .error (faultOf e)

def filesOf (inv : Invocation) : IO Files := do
  match inv.input? with
  | none => return fun _ => .error .notFound
  | some path =>
    let contents ← readText path
    return fun _ => contents

def fail (e : RunError) : IO UInt32 := do
  IO.eprintln ("Error: " ++ e.report)
  return 1

def runInvocation (inv : Invocation) : IO UInt32 := do
  let rendered := Run.render (← filesOf inv) inv
  for entry in rendered.logs do
    if inv.logLevel.includes entry.level then
      IO.eprintln entry.text
  match rendered.result with
  | .error e => fail e
  | .ok output =>
    IO.print (Run.printed output)
    match inv.output with
    | none => return 0
    | some path =>
      match ← writeText path output with
      | .ok () => return 0
      | .error fault => fail (.writeFailed path fault)

def usage : String :=
  "Usage: logsieve <components|script|check> [OPTIONS] [ARGUMENTS]"

end LogSieve.Program

open LogSieve LogSieve.Program

def main (args : List String) : IO UInt32 := do
  match Arguments.read args with
  | .ok inv => runInvocation inv
  | .error .helpRequested =>
    IO.println usage
    return 0
  | .error .versionRequested =>
    IO.println "logsieve 0.1.0"
    return 0
  | .error _ =>
    IO.eprintln usage
    return 2

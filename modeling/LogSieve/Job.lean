import LogSieve.Config.Reader
import LogSieve.FileFault
import LogSieve.Filter
import LogSieve.Script.Name

/-!
This module contains jobs, which are sets of named filters for one tag, and their reading from a
configuration document.
-/

namespace LogSieve

structure Job where
  tag : String := "*"
  exclude : Bool := false
  filters : OrderedMap String := .empty
  deriving DecidableEq, Repr

inductive JobError where
  | read (path : String) (fault : FileFault)
  | parse (path : String)
  | invalidName (name : String)
  | invalidFilter (name : String) (e : FilterError)
  deriving DecidableEq, Repr

namespace JobError

def message : JobError → String
  | .read path fault => "Failed to read config file '" ++ path ++ "': " ++ fault.message
  | .parse path => "Failed to parse config file '" ++ path ++ "'"
  | .invalidName name => "Filter name '" ++ name ++ "' is not a valid Lua identifier"
  | .invalidFilter name e => "Filter '" ++ name ++ "' is invalid: " ++ e.message

def report (e : JobError) : String :=
  match e with
  | .read _ fault => e.message ++ ": " ++ fault.message
  | .invalidFilter _ cause => e.message ++ ": " ++ cause.report
  | e => e.message

end JobError

namespace Job

def textOf? : Config.Setting → Option String
  | .text s => some s
  | _ => none

def filtersOf? : Config.Setting → Option (OrderedMap String)
  | .table _ entries =>
    (entries.mapM fun (e : String × Config.Setting) => (textOf? e.2).map (e.1, ·)).map
      OrderedMap.ofList
  | _ => none

def boolOf? : Config.Setting → Option Bool
  | .bool b => some b
  | _ => none

def settingOr {α : Type} (entries : Config.Entries) (key : String) (default : α)
    (read? : Config.Setting → Option α) : Option α :=
  match valueAt? key entries with
  | some v => read? v
  | none => some default

def ofText? (text : String) : Option Job := do
  let entries ← Config.ofText? text
  let job : Job := {}
  return {
    tag := ← settingOr entries "tag" job.tag textOf?
    exclude := ← settingOr entries "exclude" job.exclude boolOf?
    filters := ← settingOr entries "filters" job.filters filtersOf? }

def load (path : String) (contents : Except FileFault String) : Except JobError Job :=
  match contents with
  | .error fault => .error (.read path fault)
  | .ok text =>
    match ofText? text with
    | some job => .ok job
    | none => .error (.parse path)

def compile : List (String × String) → Except JobError (List (String × Filter))
  | [] => .ok []
  | (name, text) :: rest =>
    if Script.isName name then
      match Filter.ofText text with
      | .error e => .error (.invalidFilter name e)
      | .ok filter => (compile rest).map ((name, filter) :: ·)
    else
      .error (.invalidName name)

def compiled (job : Job) : Except JobError (OrderedMap Filter) :=
  (compile job.filters.entries).map OrderedMap.ofList

end Job

end LogSieve

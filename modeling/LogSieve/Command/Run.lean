import LogSieve.Command.Arguments
import LogSieve.Folder
import LogSieve.Job
import LogSieve.Matcher
import LogSieve.Pipeline
import LogSieve.Text.Lines
import LogSieve.Value.Reader

/-!
This module contains what the commands do. Each one makes an output from its arguments and from the
file that it reads.
-/

namespace LogSieve

structure LogEntry where
  level : LogLevel
  message : String
  deriving DecidableEq, Repr

def LogEntry.text (entry : LogEntry) : String := entry.level.name ++ " " ++ entry.message

inductive RunError where
  | invalidFilter (text : String) (e : FilterError)
  | job (e : JobError)
  | readFailed (path : String) (fault : FileFault)
  | writeFailed (path : String) (fault : FileFault)
  deriving DecidableEq, Repr

def RunError.report : RunError → String
  | .invalidFilter text e => "Invalid filter '" ++ text ++ "': " ++ e.report
  | .job e => e.report
  | .readFailed path fault => "Failed to read '" ++ path ++ "': " ++ fault.message
  | .writeFailed path fault =>
    "Failed to write output file '" ++ path ++ "': " ++ fault.message

structure Rendered where
  logs : List LogEntry
  result : Except RunError String

abbrev Files := String → Except FileFault String

/--
What the commands need of other libraries: their patterns, and the reading and printing of JSON.
-/
structure Libraries where
  patterns : PatternLanguage
  readJson? : String → Option Value
  printJson : Value → String

def Libraries.standard : Libraries where
  patterns := .standard
  readJson? := Value.ofText?
  printJson := Value.pretty 0

namespace Run

def filtersOf : List String → Except RunError (List Filter)
  | [] => .ok []
  | text :: texts =>
    match Filter.ofText text with
    | .error e => .error (.invalidFilter text e)
    | .ok filter => (filtersOf texts).map (filter :: ·)

def stageValue (stage : Stage) : Value :=
  .object [("kind", .text stage.kind),
    ("config", .object (stage.options.entries.map fun (key, v) => (key, .text v)))]

def stagesValue (stages : List Stage) : Value := .list (stages.map stageValue)

def componentsLog (tag : String) (filters : List Filter) (exclude : Bool) (stages : List Stage) :
    LogEntry :=
  ⟨.debug, "compiled " ++ Nat.repr filters.length ++ " filter(s) for tag " ++ tag ++ " into " ++
    Nat.repr stages.length ++ " stages (" ++ Step.parity exclude ++ ")"⟩

def components (tag : String) (exclude : Bool) (texts : List String) (format : Format)
    (libraries : Libraries := .standard) : Rendered :=
  match filtersOf texts with
  | .error e => ⟨[], .error e⟩
  | .ok filters =>
    let stages := Pipeline.components tag filters exclude
    let output :=
      match format with
      | .text => Stage.renderAll stages
      | .json => libraries.printJson (stagesValue stages)
    ⟨[componentsLog tag filters exclude stages], .ok output⟩

def scriptLog (tag : String) (filters : OrderedMap Filter) (stages : List Stage) : LogEntry :=
  let start := Nat.repr filters.size ++ " named filter(s) for tag " ++ tag
  if stages.isEmpty then
    ⟨.debug, start ++ " need no stages"⟩
  else
    ⟨.debug, start ++ " compiled into " ++ Nat.repr stages.length ++ " stages"⟩

def scriptText (tag : String) (stages : List Stage) (code : String) : String :=
  let sections := Stage.renderAll stages
  (if sections.isEmpty then "" else sections ++ "\n") ++ "-- filter results for tag " ++ tag ++
    "\n" ++ code

def script (files : Files) (config : String) (tag? : Option String) (format : Format)
    (libraries : Libraries := .standard) : Rendered :=
  match Job.load config (files config) with
  | .error e => ⟨[], .error (.job e)⟩
  | .ok job =>
    match job.compiled with
    | .error e => ⟨[], .error (.job e)⟩
    | .ok filters =>
      let tag := tag?.getD job.tag
      let (stages, code) := Pipeline.named tag filters
      let output :=
        match format with
        | .text => scriptText tag stages code
        | .json =>
          libraries.printJson <| .object
            [("tag", .text tag), ("stages", stagesValue stages), ("lua", .text code)]
      let warnings : List LogEntry :=
        if job.exclude then [⟨.warn, "'exclude' has no effect on named filter scripts"⟩] else []
      ⟨warnings ++ [scriptLog tag filters stages], .ok output⟩

structure RecordLine where
  number : Nat
  text : String
  record? : Option Value

def recordLines (readJson? : String → Option Value) (contents : String) : List RecordLine :=
  (Text.lines contents.toList).zipIdx.filterMap fun (cs, i) =>
    if Text.isBlankLine cs then none
    else
      let text := String.ofList cs
      some ⟨i + 1, text, readJson? text⟩

def accepted (accepts : Value → Bool) (lines : List RecordLine) : List (String × Value) :=
  lines.filterMap fun line =>
    match line.record? with
    | some record => if accepts record then some (line.text, record) else none
    | none => none

def invalidLineLog (file : String) (line : RecordLine) : LogEntry :=
  ⟨.warn, file ++ ":" ++ Nat.repr line.number ++ ": skipping invalid JSON"⟩

def invalidPatternLog (c : Comparison) : LogEntry :=
  ⟨.warn, "invalid regex '" ++ c.literal ++ "' for field " ++ c.target.text⟩

def checkOutput (printJson : Value → String) (format : Format) (kept : List (String × Value)) :
    String :=
  match format with
  | .text => String.join (kept.map fun (text, _) => text ++ "\n")
  | .json => printJson (.list (kept.map (·.2)))

def check (files : Files) (text file : String) (format : Format)
    (libraries : Libraries := .standard) : Rendered :=
  match Filter.ofText text with
  | .error e => ⟨[], .error (.invalidFilter text e)⟩
  | .ok filter =>
    let m := Matcher.ofFilter filter libraries.patterns
    let patternLogs := m.invalid.map invalidPatternLog
    match files file with
    | .error fault => ⟨patternLogs, .error (.readFailed file fault)⟩
    | .ok contents =>
      let lines := recordLines libraries.readJson? contents
      let kept := accepted m.accepts lines
      let lineLogs := (lines.filter (·.record?.isNone)).map (invalidLineLog file)
      let summary : LogEntry :=
        ⟨.info, Nat.repr kept.length ++ " record(s) matched " ++ filter.text⟩
      ⟨patternLogs ++ lineLogs ++ [summary], .ok (checkOutput libraries.printJson format kept)⟩

def render (files : Files) (inv : Invocation) (libraries : Libraries := .standard) : Rendered :=
  match inv.command with
  | .components tag exclude filters => components tag exclude filters inv.format libraries
  | .script config tag? => script files config tag? inv.format libraries
  | .check filter file => check files filter file inv.format libraries

def printed (output : String) : String :=
  if output.toList.getLast? = some '\n' then output else output ++ "\n"

end Run

structure Report where
  logs : List LogEntry
  printed : String
  folder : Folder
  error? : Option RunError

def Invocation.run (inv : Invocation) (folder : Folder) (libraries : Libraries := .standard) :
    Report :=
  let rendered := Run.render folder.read inv libraries
  let logs := rendered.logs.filter fun entry => inv.logLevel.includes entry.level
  match rendered.result with
  | .error e => ⟨logs, "", folder, some e⟩
  | .ok output =>
    let printed := Run.printed output
    match inv.output with
    | none => ⟨logs, printed, folder, none⟩
    | some path =>
      match folder.write path output with
      | .ok folder => ⟨logs, printed, folder, none⟩
      | .error fault => ⟨logs, printed, folder, some (.writeFailed path fault)⟩

end LogSieve

import LogSieve.Command.Invocation

/-!
This module contains the reading of command lines. There are options that hold for all commands and
stand before or behind the name of the command, and options and positional arguments of each command.
-/

namespace LogSieve

inductive UsageError where
  | helpRequested
  | versionRequested
  | noArguments
  | missingCommand
  | unknownCommand
  | missingArgument
  | unknownArgument
  | invalidValue
  | repeatedArgument
  | unneededValue
  deriving DecidableEq, Repr

namespace Arguments

inductive Arg where
  | tag
  | exclude
  | filters
  | config
  | filter
  | file
  | format
  | output
  | verbose
  | quiet
  | help
  | version
  deriving DecidableEq, Repr

structure Switch where
  arg : Arg
  short : Option Char
  long : String
  takesValue : Bool

structure Level where
  options : List Switch
  positional : Option Arg
  required : List Arg
  commands : List String

def globalOptions : List Switch :=
  [⟨.format, none, "format", true⟩, ⟨.output, some 'o', "output", true⟩,
    ⟨.verbose, some 'v', "verbose", false⟩, ⟨.quiet, some 'q', "quiet", false⟩,
    ⟨.help, some 'h', "help", false⟩]

def tagOption : Switch := ⟨.tag, some 't', "tag", true⟩

def mainLevel : Level where
  options := ⟨.version, some 'V', "version", false⟩ :: globalOptions
  positional := none
  required := []
  commands := ["components", "script", "check", "help"]

def componentsLevel : Level where
  options := tagOption :: ⟨.exclude, some 'x', "exclude", false⟩ :: globalOptions
  positional := some .filters
  required := [.tag, .filters]
  commands := []

def scriptLevel : Level where
  options := ⟨.config, some 'c', "config", true⟩ :: tagOption :: globalOptions
  positional := none
  required := [.config]
  commands := []

def checkLevel : Level where
  options := ⟨.filter, some 'f', "filter", true⟩ :: globalOptions
  positional := some .file
  required := [.filter, .file]
  commands := []

/--
What has been found on a level: the arguments in their order, and the one whose values are still
being collected, which is checked when the next one comes.
-/
structure Found where
  given : List (Arg × List String) := []
  pending : Option (Arg × List String) := none

namespace Found

def has (found : Found) (arg : Arg) : Bool := found.given.any (·.1 = arg)

def value? (found : Found) (arg : Arg) : Option String :=
  (found.given.find? (·.1 = arg)).bind (·.2.head?)

def values (found : Found) (arg : Arg) : List String :=
  (found.given.filter (·.1 = arg)).flatMap (·.2)

def count (found : Found) (arg : Arg) : Nat := found.given.countP (·.1 = arg)

end Found

def isRepeatable : Arg → Bool
  | .verbose | .filters => true
  | _ => false

def takesValue : Arg → Bool
  | .tag | .filters | .config | .filter | .file | .format | .output => true
  | _ => false

def isPossible : Arg → String → Bool
  | .config, v | .file, v | .output, v => v != ""
  | .format, v => v == "text" || v == "json"
  | _, _ => true

def accept (given : List (Arg × List String)) (arg : Arg) (values : List String) :
    Except UsageError (List (Arg × List String)) :=
  if takesValue arg && values.isEmpty then .error .invalidValue
  else if arg = .help then .error .helpRequested
  else if arg = .version then .error .versionRequested
  else if !isRepeatable arg && given.any (·.1 = arg) then .error .repeatedArgument
  else if !values.all (isPossible arg) then .error .invalidValue
  else .ok (given ++ [(arg, values)])

def settle (found : Found) : Except UsageError Found :=
  match found.pending with
  | none => .ok found
  | some (arg, values) => (accept found.given arg values).map (⟨·, none⟩)

def take (found : Found) (arg : Arg) (values : List String) : Except UsageError Found := do
  let found ← settle found
  return ⟨← accept found.given arg values, none⟩

def await (found : Found) (arg : Arg) : Except UsageError Found := do
  let found ← settle found
  return ⟨found.given, some (arg, [])⟩

def isAwaiting (found : Found) : Bool :=
  match found.pending with
  | some (_, []) => true
  | _ => false

def readLong (level : Level) (found : Found) (cs : List Char) : Except UsageError Found :=
  let name := String.ofList (cs.takeWhile (· != '='))
  let value? :=
    match cs.dropWhile (· != '=') with
    | [] => none
    | _ :: value => some (String.ofList value)
  match level.options.find? (·.long = name) with
  | none => .error .unknownArgument
  | some option =>
    match option.takesValue, value? with
    | true, some value => take found option.arg [value]
    | true, none => await found option.arg
    | false, some _ => .error .unneededValue
    | false, none => take found option.arg []

def readShort (level : Level) (found : Found) : List Char → Except UsageError Found
  | [] => .ok found
  | c :: cs =>
    match level.options.find? (·.short = some c) with
    | none => .error .unknownArgument
    | some option =>
      if option.takesValue then
        match cs with
        | [] => await found option.arg
        | '=' :: value => take found option.arg [String.ofList value]
        | value => take found option.arg [String.ofList value]
      else do
        readShort level (← take found option.arg []) cs

def misplaced (level : Level) (escaped : Bool) (arg : String) : UsageError :=
  if level.commands.isEmpty then .unknownArgument
  else if escaped && level.commands.contains arg then .unknownArgument
  else .unknownCommand

def readPositional (level : Level) (escaped : Bool) (found : Found) (text : String) :
    Except UsageError Found :=
  match level.positional with
  | none => .error (misplaced level escaped text)
  | some arg =>
    match found.pending with
    | some (pending, values) =>
      if pending = arg then
        if isRepeatable arg then .ok { found with pending := some (arg, values ++ [text]) }
        else .error .unknownArgument
      else
        start arg
    | none => start arg
where
  start (arg : Arg) : Except UsageError Found :=
    if !isRepeatable arg && found.has arg then
      .error .unknownArgument
    else do
      let found ← settle found
      return ⟨found.given, some (arg, [text])⟩

def readLevel (level : Level) (escaped : Bool) (found : Found) :
    List String → Except UsageError (Found × Option (String × List String))
  | [] => .ok (found, none)
  | text :: rest =>
    let awaiting := isAwaiting found
    if !escaped && !awaiting && level.commands.contains text then
      .ok (found, some (text, rest))
    else if escaped then do
      readLevel level escaped (← readPositional level escaped found text) rest
    else
      match text.toList with
      | ['-', '-'] => readLevel level true found rest
      | '-' :: '-' :: cs => do readLevel level escaped (← readLong level found cs) rest
      | '-' :: c :: cs => do readLevel level escaped (← readShort level found (c :: cs)) rest
      | _ =>
        match found.pending with
        | some (arg, []) => readLevel level escaped { found with pending := some (arg, [text]) } rest
        | _ => do readLevel level escaped (← readPositional level escaped found text) rest

def readCommand (level : Level) (args : List String) : Except UsageError Found := do
  let (found, _) ← readLevel level false {} args
  let found ← settle found
  if level.required.all found.has then
    return found
  else
    throw .missingArgument

def helpError (args : List String) : UsageError :=
  match args with
  | [] => .helpRequested
  | [name] => if mainLevel.commands.contains name then .helpRequested else .unknownCommand
  | _ => .unknownCommand

def commandLevel : String → Level
  | "components" => componentsLevel
  | "script" => scriptLevel
  | _ => checkLevel

def commandOf (name : String) (found : Found) : Except UsageError Command :=
  match name, found.value? .tag, found.value? .config, found.value? .filter, found.value? .file with
  | "components", some tag, _, _, _ =>
    .ok (.components tag (found.has .exclude) (found.values .filters))
  | "script", tag, some config, _, _ => .ok (.script config tag)
  | "check", _, _, some filter, some file => .ok (.check filter file)
  | _, _, _, _, _ => .error .missingArgument

def nearest (outer command : Found) (arg : Arg) : Found := if command.has arg then command else outer

def formatOf (text? : Option String) : Format := if text? = some "json" then .json else .text

def read (args : List String) : Except UsageError Invocation := do
  let (outer, command?) ← readLevel mainLevel false {} args
  match command? with
  | some ("help", rest) => throw (helpError rest)
  | some (name, rest) =>
    let found ← readCommand (commandLevel name) rest
    let outer ← settle outer
    return {
      command := ← commandOf name found
      format := formatOf ((nearest outer found .format).value? .format)
      output := (nearest outer found .output).value? .output
      verbose := (nearest outer found .verbose).count .verbose
      quiet := (nearest outer found .quiet).has .quiet }
  | none =>
    let outer ← settle outer
    throw (if outer.given.isEmpty then .noArguments else .missingCommand)

end Arguments

end LogSieve

/-!
This module contains what a command line asks for.
-/

namespace LogSieve

inductive Format where
  | text
  | json
  deriving DecidableEq, Repr

inductive LogLevel where
  | error
  | warn
  | info
  | debug
  | trace
  deriving DecidableEq, Repr

namespace LogLevel

def name : LogLevel → String
  | .error => "ERROR"
  | .warn => "WARN"
  | .info => "INFO"
  | .debug => "DEBUG"
  | .trace => "TRACE"

def rank : LogLevel → Nat
  | .error => 0
  | .warn => 1
  | .info => 2
  | .debug => 3
  | .trace => 4

def includes (level other : LogLevel) : Bool := other.rank ≤ level.rank

end LogLevel

inductive Command where
  | components (tag : String) (exclude : Bool) (filters : List String)
  | script (config : String) (tag : Option String)
  | check (filter file : String)
  deriving DecidableEq, Repr

structure Invocation where
  command : Command
  format : Format := .text
  output : Option String := none
  verbose : Nat := 0
  quiet : Bool := false
  deriving DecidableEq, Repr

namespace Invocation

def logLevel (inv : Invocation) : LogLevel :=
  if inv.quiet then .error
  else
    match inv.verbose with
    | 0 => .warn
    | 1 => .info
    | 2 => .debug
    | _ => .trace

def input? (inv : Invocation) : Option String :=
  match inv.command with
  | .components .. => none
  | .script config _ => some config
  | .check _ file => some file

end Invocation

end LogSieve

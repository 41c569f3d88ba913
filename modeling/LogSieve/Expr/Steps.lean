import LogSieve.Stage.Step

/-!
This module contains the steps that mark the records for which an expression holds. Markers can only
be set and never removed, so a negation tests that a marker of its own is missing.
-/

namespace LogSieve

def metaCharacters : List Char :=
  ['\\', '.', '+', '*', '?', '(', ')', '|', '[', ']', '\x7b', '\x7d', '^', '$', '#', '&', '-', '~']

def escapeLiteral (literal : String) : String :=
  String.ofList (literal.toList.flatMap fun c => if metaCharacters.contains c then ['\\', c] else [c])

namespace Comparison

def positive (condition : Condition) (key : String) : List Step := [.mark condition key]

def negative (condition : Condition) (key scope : String) : List Step :=
  let marker := childKey scope 0
  [.mark condition marker, .mark (.unmarked marker) key]

def steps (c : Comparison) (key scope : String) : List Step :=
  match c.operator with
  | .equal => positive (.valueMatches c.target ("^" ++ escapeLiteral c.literal ++ "$")) key
  | .differs => negative (.valueMatches c.target ("^" ++ escapeLiteral c.literal ++ "$")) key scope
  | .has =>
    if c.literal = "*" then
      positive (.keyExists c.target) key
    else
      positive (.valueMatches c.target ("(?i)" ++ escapeLiteral c.literal)) key
  | .like => positive (.valueMatches c.target c.literal) key
  | .unlike => negative (.valueMatches c.target c.literal) key scope
  | .order _ => [.test c key]

def scriptSteps (c : Comparison) (key : String) : List Step :=
  if c.operator.isPattern then [.mark (.valueMatches c.target c.literal) key] else []

end Comparison

namespace Expr

def failedKey (scope : String) : String := scope ++ "_n"

mutual

def steps (key scope : String) : Expr → List Step
  | .leaf c => c.steps key scope
  | .not e =>
    let inner := childKey scope 0
    steps inner inner e ++ [.mark (.unmarked inner) key]
  | .any es => stepsAny key scope 0 es
  | .all es => stepsAll scope 0 es ++ [.mark (.unmarked (failedKey scope)) key]

def stepsAny (key scope : String) (i : Nat) : List Expr → List Step
  | [] => []
  | e :: es => steps key (childKey scope i) e ++ stepsAny key scope (i + 1) es

def stepsAll (scope : String) (i : Nat) : List Expr → List Step
  | [] => []
  | e :: es =>
    let child := childKey scope i
    steps child child e ++ .mark (.unmarked child) (failedKey scope) :: stepsAll scope (i + 1) es

end

mutual

def scriptSteps (key : String) : Expr → List Step
  | .leaf c => c.scriptSteps key
  | .not e => scriptSteps key e
  | .all es => scriptStepsList key 0 es
  | .any es => scriptStepsList key 0 es

def scriptStepsList (key : String) (i : Nat) : List Expr → List Step
  | [] => []
  | e :: es => scriptSteps (childKey key i) e ++ scriptStepsList key (i + 1) es

end

end Expr

end LogSieve

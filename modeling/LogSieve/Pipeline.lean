import LogSieve.Expr.Steps
import LogSieve.Filter

/-!
This module contains whole pipelines. The record is nested under one field, markers are set beside
it, and it is lifted again.
-/

namespace LogSieve

def markerStem : String := "__match_"

def tagMarker (tag : String) : String :=
  markerStem ++ String.ofList (tag.toList.map fun c => if c.isAlphanum then c else '_')

namespace Pipeline

def filterSteps (key : String) (i : Nat) : List Filter → List Step
  | [] => []
  | f :: fs => f.expr.steps key (childKey key i) ++ filterSteps key (i + 1) fs

def selection (tag : String) (filters : List Filter) (exclude : Bool) : List Step :=
  let key := tagMarker tag
  .nest :: filterSteps key 0 filters ++ [.select exclude key, .sweep key, .lift]

def components (tag : String) (filters : List Filter) (exclude : Bool) : List Stage :=
  (selection tag filters exclude).map (Step.stage tag)

def namedKey (i : Nat) : String := markerStem ++ Nat.repr i

def namedSteps (i : Nat) : List (String × Filter) → List Step
  | [] => []
  | (_, f) :: fs => f.expr.scriptSteps (namedKey i) ++ namedSteps (i + 1) fs

def localLine (i : Nat) (name : String) (f : Filter) : String :=
  "local " ++ name ++ " = " ++ f.expr.script (namedKey i) ++ "\n"

def localLines (i : Nat) : List (String × Filter) → String
  | [] => ""
  | (name, f) :: fs => localLine i name f ++ localLines (i + 1) fs

def cleanup : String :=
  "\nfor k, v in pairs(record) do\n  if string.match(k, \"^__match_.+\") then\n" ++
    "    record[k] = nil\n  end\nend\n"

def named (tag : String) (filters : OrderedMap Filter) : List Stage × String :=
  let steps := namedSteps 0 filters.entries
  let lines := localLines 0 filters.entries
  if steps.isEmpty then
    ([], lines)
  else
    ((Step.nest :: steps ++ [Step.lift]).map (Step.stage tag), lines ++ cleanup)

end Pipeline

end LogSieve

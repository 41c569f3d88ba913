import LogSieve.Expr.Script
import LogSieve.Stage.Basic

/-!
This module contains the steps by which a pipeline decides about records, and the stages that
perform them.
-/

namespace LogSieve

def Target.accessor (target : Target) : String :=
  "$" ++ Stage.nestField ++ String.join (target.segments.map fun s => "['" ++ s ++ "']")

/--
A pattern as an option value, in which blanks would end the value.
-/
def escapeBlanks (pattern : String) : String :=
  String.ofList (pattern.toList.flatMap escape)
where
  escape (c : Char) : List Char :=
    match c with
    | ' ' => ['\\', 'x', '2', '0']
    | '\t' => ['\\', 't']
    | '\n' => ['\\', 'n']
    | '\r' => ['\\', 'r']
    | c => [c]

def optionBlanks : List Char := [' ', '\t', '\n', '\r']

theorem escapeBlanks.escape_of_not_mem {c : Char} (h : c ∉ optionBlanks) : escape c = [c] := by
  simp only [optionBlanks, List.mem_cons, List.not_mem_nil, or_false, not_or] at h
  simp [escape, h]

theorem not_mem_escapeBlanks {blank : Char} (h : blank ∈ optionBlanks) (pattern : String) :
    blank ∉ (escapeBlanks pattern).toList := by
  simp only [escapeBlanks, String.toList_ofList, List.mem_flatMap, not_exists, not_and]
  intro c _
  by_cases hc : c ∈ optionBlanks
  . have hescapes : ∀ c ∈ optionBlanks,
        (optionBlanks.all fun blank => decide (blank ∉ escapeBlanks.escape c)) = true :=
      Text.forall_mem_of_all (by decide)
    exact Text.forall_mem_of_all (hescapes c hc) blank h
  . rw [escapeBlanks.escape_of_not_mem hc, List.mem_singleton]
    rintro rfl
    exact hc h

inductive Condition where
  | valueMatches (target : Target) (pattern : String)
  | keyExists (target : Target)
  | unmarked (marker : String)
  deriving DecidableEq, Repr

def Condition.text : Condition → String
  | .valueMatches target pattern =>
    "Key_value_matches " ++ target.accessor ++ " " ++ escapeBlanks pattern
  | .keyExists target => "Key_exists " ++ target.accessor
  | .unmarked marker => "Key_does_not_exist " ++ marker

theorem Condition.text_valueMatches (target : Target) (pattern : String) :
    (valueMatches target pattern).text =
      "Key_value_matches " ++ target.accessor ++ " " ++ escapeBlanks pattern :=
  rfl

theorem Condition.text_keyExists (target : Target) :
    (keyExists target).text = "Key_exists " ++ target.accessor :=
  rfl

theorem Condition.text_unmarked (marker : String) :
    (unmarked marker).text = "Key_does_not_exist " ++ marker :=
  rfl

inductive Step where
  | nest
  | mark (condition : Condition) (marker : String)
  | test (c : Comparison) (marker : String)
  | select (exclude : Bool) (marker : String)
  | sweep (stem : String)
  | lift
  deriving DecidableEq, Repr

namespace Step

def testCode (c : Comparison) (marker : String) : String :=
  "function " ++ marker ++ "(tag, timestamp, record) if (function(record) return " ++
    c.script marker ++ " end)(record[" ++ Script.quote Stage.nestField ++
    "] or \x7b\x7d) then record[" ++ Script.quote marker ++
    "] = \"1\" return 2, timestamp, record end return 0, timestamp, record end"

def parity (exclude : Bool) : String := if exclude then "Exclude" else "Regex"

def stage (tag : String) : Step → Stage
  | .nest => Stage.nest tag
  | .mark condition marker =>
    ((Stage.filter "modify" tag).set "Condition" condition.text).set "Set" (marker ++ " 1")
  | .test c marker =>
    ((Stage.filter "lua" tag).set "call" marker).set "code" (testCode c marker)
  | .select exclude marker => (Stage.filter "grep" tag).set (parity exclude) (marker ++ " 1")
  | .sweep stem => (Stage.filter "modify" tag).set "Remove_wildcard" stem
  | .lift => Stage.lift tag

theorem stage_kind (tag : String) (step : Step) : (step.stage tag).kind = "FILTER" := by
  cases step <;> rfl

end Step

end LogSieve

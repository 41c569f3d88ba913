import LogSieve.Expr.Basic
import LogSieve.Number.Decimal
import LogSieve.Script.Text
import LogSieve.Text.Case

/-!
This module contains the Lua expressions for filters. All comparisons are tested by the script
itself, apart from those with patterns: for them, it tests whether the record has a marker.
-/

namespace LogSieve

def childKey (key : String) (i : Nat) : String := key ++ "_" ++ Nat.repr i

namespace Script

def test (body value : String) : String := "(function(v) " ++ body ++ " end)(" ++ value ++ ")"

def equals (value literal : String) : String :=
  test ("return v ~= nil and tostring(v) == " ++ quote literal) value

def contains (value literal : String) : String :=
  let needle := quote (String.ofList (Text.lower literal.toList))
  test
    ("return v ~= nil and string.find(string.lower(tostring(v)), " ++ needle ++ ", 1, true) ~= nil")
    value

def orderedNumber (value : String) (relation : Relation) (number : Double) : String :=
  test
    ("v = tonumber(v) return v ~= nil and v " ++ relation.text ++ " " ++ number.plainText)
    value

def orderedText (value : String) (relation : Relation) (literal : String) : String :=
  test ("return v ~= nil and tostring(v) " ++ relation.text ++ " " ++ quote literal) value

def negated (e : String) : String := "(not " ++ e ++ ")"

def joined (connective neutral : String) (es : List String) : String :=
  if es.isEmpty then neutral else "(" ++ (" " ++ connective ++ " ").intercalate es ++ ")"

end Script

def Target.script (target : Target) : String := Script.field target.segments

def Comparison.script (c : Comparison) (key : String) : String :=
  let value := c.target.script
  match c.operator with
  | .like => Script.markerIsSet key
  | .unlike => Script.markerIsUnset key
  | .equal => Script.equals value c.literal
  | .differs => Script.negated (Script.equals value c.literal)
  | .has =>
    if c.literal = "*" then "(" ++ value ++ " ~= nil)" else Script.contains value c.literal
  | .order relation =>
    match c.number? with
    | some number => Script.orderedNumber value relation number
    | none => Script.orderedText value relation c.literal

namespace Expr

mutual

def script (key : String) : Expr → String
  | .leaf c => c.script key
  | .not e => Script.negated (script key e)
  | .all es => Script.joined "and" "true" (scripts key 0 es)
  | .any es => Script.joined "or" "false" (scripts key 0 es)

def scripts (key : String) (i : Nat) : List Expr → List String
  | [] => []
  | e :: es => script (childKey key i) e :: scripts key (i + 1) es

end

end Expr

end LogSieve

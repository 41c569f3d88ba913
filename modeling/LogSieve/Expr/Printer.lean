import LogSieve.Expr.Basic
import LogSieve.Token.Basic

/-!
This module contains the text of expressions, which is read back as the same expression.
-/

namespace LogSieve

def quoteChar (c : Char) : List Char :=
  match c with
  | '"' => ['\\', '"']
  | '\\' => ['\\', '\\']
  | '\n' => ['\\', 'n']
  | '\t' => ['\\', 't']
  | '\r' => ['\\', 'r']
  | c => [c]

def quote (s : String) : String := "\"" ++ String.ofList (s.toList.flatMap quoteChar) ++ "\""

def needsQuotes (segment : String) : Bool :=
  segment.isEmpty || segment.toList.head? == some '-' || keywords.contains segment ||
    segment.toList.any fun c => !isWordPart c || c == '.' || c == '\\'

def segmentText (segment : String) : String :=
  if needsQuotes segment then quote segment else segment

def Target.text (target : Target) : String := ".".intercalate (target.segments.map segmentText)

def Comparison.text (c : Comparison) : String :=
  c.target.text ++ " " ++ c.operator.text ++ " " ++ quote c.literal

namespace Expr

def parenthesized (text : String) : String := "(" ++ text ++ ")"

def joined (separator : String) (texts : List String) : String :=
  if texts.isEmpty then "()" else separator.intercalate texts

mutual

def text : Expr → String
  | .leaf c => c.text
  | .not e => "NOT " ++ if e.isLeaf then text e else parenthesized (text e)
  | .all es => joined " AND " (itemTexts es)
  | .any es => joined " OR " (itemTexts es)

def itemTexts : List Expr → List String
  | [] => []
  | e :: es => (if e.isCompound then parenthesized (text e) else text e) :: itemTexts es

end

end Expr

end LogSieve

import LogSieve.Expr.Parser

/-!
This module contains filters and members, which are the two things that a text can stand for.
-/

namespace LogSieve

inductive FilterError where
  | parse (e : ParseError)
  | notAnExpression (found : String)
  | notAField (found : String)
  deriving DecidableEq, Repr

namespace FilterError

def message : FilterError → String
  | .parse e => "Invalid filter expression: " ++ e.message
  | .notAnExpression found => "Not an expression: " ++ found
  | .notAField found => "Not a field: " ++ found

def report : FilterError → String
  | .parse e => (FilterError.parse e).message ++ ": " ++ e.message
  | e => e.message

end FilterError

structure Filter where
  expr : Expr
  deriving DecidableEq, Repr

namespace Filter

def ofParsed : Parsed → Except FilterError Filter
  | .expression e => .ok ⟨e⟩
  | parsed => .error (.notAnExpression parsed.text)

def ofText (text : String) : Except FilterError Filter :=
  match parse text with
  | .error e => .error (.parse e)
  | .ok parsed => ofParsed parsed

def text (filter : Filter) : String := filter.expr.text

def anyOf (filters : List Filter) : Filter := ⟨.any (filters.map (·.expr))⟩

end Filter

structure Member where
  target : Target
  deriving DecidableEq, Repr

namespace Member

def ofParsed : Parsed → Except FilterError Member
  | .field target => .ok ⟨target⟩
  | parsed => .error (.notAField parsed.text)

def ofText (text : String) : Except FilterError Member :=
  match parse text with
  | .error e => .error (.parse e)
  | .ok parsed => ofParsed parsed

def text (member : Member) : String := member.target.text

end Member

end LogSieve

import LogSieve.Expr.Operator
import LogSieve.ParseError
import LogSieve.Text.Blank

/-!
This module contains the tokens of filter text.
-/

namespace LogSieve

def isReserved (c : Char) : Bool := ['(', ')', '"', '=', '!', ':', '<', '>'].contains c

def isWordPart (c : Char) : Bool := !Text.isBlank c && !isReserved c

def keywords : List String := ["AND", "OR", "NOT"]

inductive Token.Kind where
  | opening
  | closing
  | minus
  | and
  | or
  | not
  | comparator (op : Operator)
  | word (text : String)
  | quoted (text : String)
  deriving DecidableEq, Repr

/--
A token with the number of bytes before it, and whether it comes first or after a blank.
-/
structure Token where
  kind : Token.Kind
  pos : Nat
  spaced : Bool
  deriving DecidableEq, Repr

namespace Token

def Kind.ofWord (text : String) : Kind :=
  if text = "AND" then .and
  else if text = "OR" then .or
  else if text = "NOT" then .not
  else .word text

def Kind.text : Kind → String
  | .opening => "("
  | .closing => ")"
  | .minus => "-"
  | .and => "AND"
  | .or => "OR"
  | .not => "NOT"
  | .comparator op => op.text
  | .word text => text
  | .quoted text => "\"" ++ text ++ "\""

def Kind.isPathPart : Kind → Bool
  | .word _ | .quoted _ => true
  | _ => false

def Kind.startsTerm : Kind → Bool
  | .word _ | .quoted _ | .opening | .not | .minus => true
  | _ => false

def isGlued (t : Token) : Bool := !t.spaced && t.kind.isPathPart

def unexpected (t : Token) (expected : Expected) : ParseError :=
  .unexpectedToken t.pos t.kind.text expected

end Token

end LogSieve

/-!
This module contains the causes for which a text is not a filter, and their messages.
-/

namespace LogSieve

inductive Expected where
  | field
  | value
  | closing
  | endOfInput
  deriving DecidableEq, Repr

def Expected.text : Expected → String
  | .field => "a field"
  | .value => "a value"
  | .closing => "')'"
  | .endOfInput => "end of input"

/--
A cause for which a text is not a filter. Positions count the bytes of the UTF-8 text before the
place in question.
-/
inductive ParseError where
  | empty
  | unexpectedChar (pos : Nat) (c : Char)
  | unterminatedString (pos : Nat)
  | unexpectedToken (pos : Nat) (found : String) (expected : Expected)
  | unexpectedEnd (expected : Expected)
  | emptySegment (path : String)
  | bareField (field : String)
  deriving DecidableEq, Repr

def ParseError.message : ParseError → String
  | .empty => "Empty filter expression"
  | .unexpectedChar pos c =>
    "Unexpected character '" ++ String.singleton c ++ "' at position " ++ Nat.repr pos
  | .unterminatedString pos => "Unterminated string starting at position " ++ Nat.repr pos
  | .unexpectedToken pos found expected =>
    "Unexpected token '" ++ found ++ "' at position " ++ Nat.repr pos ++ ", expected " ++
      expected.text
  | .unexpectedEnd expected => "Unexpected end of filter expression, expected " ++ expected.text
  | .emptySegment path => "Empty segment in field path '" ++ path ++ "'"
  | .bareField field => "Field '" ++ field ++ "' must be compared to a value inside an expression"

end LogSieve

/-!
This module contains the operators that compare a field to a literal.
-/

namespace LogSieve

inductive Relation where
  | lt
  | le
  | gt
  | ge
  deriving DecidableEq, Repr

namespace Relation

def text : Relation → String
  | .lt => "<"
  | .le => "<="
  | .gt => ">"
  | .ge => ">="

def holds : Relation → Ordering → Bool
  | .lt, o => o == .lt
  | .le, o => o != .gt
  | .gt, o => o == .gt
  | .ge, o => o != .lt

end Relation

inductive Operator where
  | equal
  | differs
  | has
  | order (relation : Relation)
  | like
  | unlike
  deriving DecidableEq, Repr

namespace Operator

def text : Operator → String
  | .equal => "="
  | .differs => "!="
  | .has => ":"
  | .order relation => relation.text
  | .like => "=~"
  | .unlike => "!~"

def all : List Operator :=
  [.equal, .differs, .has, .order .lt, .order .le, .order .gt, .order .ge, .like, .unlike]

def ofText? (text : String) : Option Operator := all.find? (·.text = text)

def unknownMessage (text : String) : String := "unknown operator '" ++ text ++ "'"

def isPattern : Operator → Bool
  | .like | .unlike => true
  | _ => false

end Operator

end LogSieve

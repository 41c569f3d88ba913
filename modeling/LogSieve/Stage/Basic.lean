import LogSieve.OrderedMap

/-!
This module contains the stages of a pipeline, which are sections of a configuration, and their text.
-/

namespace LogSieve

structure Stage where
  kind : String
  options : OrderedMap String
  deriving DecidableEq, Repr

namespace Stage

/--
The field under which the records are nested while markers are set beside them.
-/
def nestField : String := "record"

def set (stage : Stage) (key value : String) : Stage :=
  { stage with options := stage.options.insert key value }

def erase (stage : Stage) (key : String) : Stage :=
  { stage with options := stage.options.erase key }

def get? (stage : Stage) (key : String) : Option String := stage.options.get? key

@[simp]
theorem get?_set_self (stage : Stage) (key value : String) :
    (stage.set key value).get? key = some value := by
  apply OrderedMap.get?_insert_self

theorem get?_set_of_ne (stage : Stage) {key key' : String} (value : String) (h : key ≠ key') :
    (stage.set key value).get? key' = stage.get? key' := by
  apply OrderedMap.get?_insert_of_ne
  exact h

def filter (name tag : String) : Stage :=
  { kind := "FILTER", options := (OrderedMap.empty.insert "Name" name).insert "Match" tag }

def name? (stage : Stage) : Option String := stage.get? "Name"

def nest (tag : String) : Stage :=
  (((filter "nest" tag).set "Operation" "nest").set "Nest_under" nestField).set "Wildcard" "*"

def lift (tag : String) : Stage :=
  ((filter "nest" tag).set "Operation" "lift").set "Nested_under" nestField

def isNest (stage : Stage) : Bool :=
  stage.name? == some "nest" && stage.get? "Operation" == some "nest"

def isLift (stage : Stage) : Bool :=
  stage.name? == some "nest" && stage.get? "Operation" == some "lift"

def leading : List String := ["Name", "Match"]

def ordered (stage : Stage) : List (String × String) :=
  leading.filterMap (fun key => (stage.get? key).map (key, ·)) ++
    stage.options.entries.filter (!leading.contains ·.1)

def width (stage : Stage) : Nat := (stage.options.keys.map String.utf8ByteSize).foldl max 0

def padded (width : Nat) (s : String) : String :=
  s ++ String.ofList (List.replicate (width - s.length) ' ')

def optionLine (width : Nat) (option : String × String) : String :=
  "    " ++ padded width option.1 ++ " " ++ option.2 ++ "\n"

def render (stage : Stage) : String :=
  "[" ++ stage.kind ++ "]\n" ++ String.join (stage.ordered.map (optionLine stage.width))

def renderAll (stages : List Stage) : String := "\n".intercalate (stages.map render)

end Stage

end LogSieve

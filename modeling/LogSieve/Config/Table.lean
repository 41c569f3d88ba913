import LogSieve.OrderedMap

/-!
This module contains the tables of configuration documents in the format TOML, and the rules by
which they are built up: every key is defined once, and a table that is complete cannot be extended.
-/

namespace LogSieve.Config

inductive Origin where
  | header
  | parent
  | dotted
  | inline
  deriving DecidableEq, Repr

/--
What a key stands for. Numbers and moments of time are not told apart, as no setting has them.
-/
inductive Setting where
  | text (s : String)
  | bool (b : Bool)
  | number
  | list (items : List Setting)
  | table (origin : Origin) (entries : List (String × Setting))
  | tables (all : List (List (String × Setting)))
  deriving Repr, Inhabited

abbrev Entries := List (String × Setting)

namespace Entries

def define? (key : String) (value : Setting) (entries : Entries) : Option Entries :=
  match valueAt? key entries with
  | some _ => none
  | none => some (insertAt key value entries)

def changeAt? (change : Entries → Option Entries) : List String → Entries → Option Entries
  | [], entries => change entries
  | key :: path, entries =>
    match valueAt? key entries with
    | none =>
      (changeAt? change path []).map fun inner => insertAt key (.table .parent inner) entries
    | some (.table .inline _) => none
    | some (.table origin inner) =>
      (changeAt? change path inner).map fun inner => insertAt key (.table origin inner) entries
    | some (.tables (last :: earlier)) =>
      (changeAt? change path last).map fun last => insertAt key (.tables (last :: earlier)) entries
    | some _ => none

/--
Adds the entry of a dotted key. The tables on the way are created by dotted keys, and the last one
always is; the others may also be parents of tables with headers.
-/
def defineDotted? (key : String) (value : Setting) : List String → Entries → Option Entries
  | [], entries => define? key value entries
  | [last], entries =>
    match valueAt? last entries with
    | none => some (insertAt last (.table .dotted [(key, value)]) entries)
    | some (.table .dotted inner) =>
      (define? key value inner).map fun inner => insertAt last (.table .dotted inner) entries
    | some _ => none
  | k :: path, entries =>
    match valueAt? k entries with
    | none =>
      (defineDotted? key value path []).map fun inner => insertAt k (.table .dotted inner) entries
    | some (.table .dotted inner) =>
      (defineDotted? key value path inner).map fun inner => insertAt k (.table .dotted inner) entries
    | some (.table .parent inner) =>
      (defineDotted? key value path inner).map fun inner => insertAt k (.table .parent inner) entries
    | some (.tables (last :: earlier)) =>
      (defineDotted? key value path last).map fun last =>
        insertAt k (.tables (last :: earlier)) entries
    | some _ => none

def openTable? (key : String) (entries : Entries) : Option Entries :=
  match valueAt? key entries with
  | none => some (insertAt key (.table .header []) entries)
  | some (.table .parent inner) => some (insertAt key (.table .header inner) entries)
  | some _ => none

def openListed? (key : String) (entries : Entries) : Option Entries :=
  match valueAt? key entries with
  | none => some (insertAt key (.tables [[]]) entries)
  | some (.tables all) => some (insertAt key (.tables ([] :: all)) entries)
  | some _ => none

end Entries

structure Document where
  entries : Entries
  current : List String

namespace Document

def empty : Document := ⟨[], []⟩

def define? (doc : Document) (path : List String) (key : String) (value : Setting) :
    Option Document :=
  (doc.entries.changeAt? (Entries.defineDotted? key value path) doc.current).map fun entries =>
    { doc with entries := entries }

def openTable? (doc : Document) (path : List String) (key : String) : Option Document :=
  (doc.entries.changeAt? (Entries.openTable? key) path).map fun entries => ⟨entries, path ++ [key]⟩

def openListed? (doc : Document) (path : List String) (key : String) : Option Document :=
  (doc.entries.changeAt? (Entries.openListed? key) path).map fun entries => ⟨entries, path ++ [key]⟩

end Document

end LogSieve.Config

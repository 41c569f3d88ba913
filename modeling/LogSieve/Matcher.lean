import LogSieve.Expr.Truth
import LogSieve.Filter
import LogSieve.Pattern.Reader

/-!
This module contains the test of records against a filter. Every pattern of the filter is read only
once, in whatever language it is written.
-/

namespace LogSieve

/--
A filter whose patterns have been read. Each literal has one entry, with the first comparison in
which it is a pattern, and with the texts in which it occurs unless it is invalid.
-/
structure Matcher where
  filter : Filter
  entries : List (Comparison × Option (String → Bool))

namespace Matcher

def firstUses (cs : List Comparison) : List Comparison := go [] cs
where
  go (seen : List String) : List Comparison → List Comparison
    | [] => []
    | c :: cs =>
      if c.operator.isPattern && !seen.contains c.literal then
        c :: go (c.literal :: seen) cs
      else
        go seen cs

def ofFilter (filter : Filter) (language : PatternLanguage := .standard) : Matcher where
  filter := filter
  entries := (firstUses filter.expr.leaves).map fun c => (c, language c.literal)

def invalid (m : Matcher) : List Comparison :=
  m.entries.filterMap fun (c, pattern?) => if pattern?.isNone then some c else none

def occurs (m : Matcher) (literal text : String) : Bool :=
  match m.entries.find? (·.1.literal = literal) with
  | some (_, some pattern) => pattern text
  | _ => false

def accepts (m : Matcher) (record : Value) : Bool :=
  m.filter.expr.holds (Comparison.holds m.occurs record)

end Matcher

def Filter.accepts (filter : Filter) (record : Value) (language : PatternLanguage := .standard) :
    Bool :=
  (Matcher.ofFilter filter language).accepts record

end LogSieve

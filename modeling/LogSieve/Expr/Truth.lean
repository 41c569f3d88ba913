import LogSieve.Expr.Basic
import LogSieve.Text.Case
import LogSieve.Value.Basic

/-!
This module contains the truth of comparisons for records.
-/

namespace LogSieve

def Text.contains (needle : List Char) : List Char → Bool
  | [] => needle.isEmpty
  | c :: cs => needle.isPrefixOf (c :: cs) || contains needle cs

theorem Text.contains_iff {needle cs : List Char} :
    Text.contains needle cs = true ↔ ∃ before behind, cs = before ++ needle ++ behind := by
  induction cs with
  | nil => simp [Text.contains]
  | cons c cs ih =>
    simp only [Text.contains, Bool.or_eq_true, List.isPrefixOf_iff_prefix, ih]
    constructor
    . rintro (⟨behind, h⟩ | ⟨before, behind, rfl⟩)
      . exact ⟨[], behind, by simpa using h.symm⟩
      . exact ⟨c :: before, behind, by simp⟩
    . rintro ⟨before, behind, h⟩
      cases before with
      | nil => exact .inl ⟨behind, by simpa using h.symm⟩
      | cons d before =>
        simp only [List.cons_append, List.cons.injEq] at h
        exact .inr ⟨before, behind, h.2⟩

def Value.number? : Value → Option Double
  | .int i => some (Double.ofInt i)
  | .double d => some d
  | .text s => Double.read? (Text.trim s.toList)
  | _ => none

def Text.order (a b : String) : Ordering := compareOfLessAndEq a b

namespace Comparison

def orderOf? (c : Comparison) (v : Value) : Option Ordering :=
  match c.number? with
  | some n => v.number?.bind (Double.compare? · n)
  | none => some (Text.order v.plain c.literal)

def isPartOf (c : Comparison) (text : String) : Bool :=
  Text.contains (Text.lower c.literal.toList) (Text.lower text.toList)

/--
The truth of a comparison for a record. The truth of a pattern in a text is given by `occurs`. A
field that is missing or null satisfies no comparison, apart from the two negative ones.
-/
def holds (occurs : String → String → Bool) (record : Value) (c : Comparison) : Bool :=
  let value? := record.lookup? c.target.segments
  match c.operator with
  | .equal => value?.any fun v => v.plain = c.literal
  | .differs => !value?.any fun v => v.plain = c.literal
  | .has => if c.literal = "*" then value?.isSome else value?.any fun v => c.isPartOf v.plain
  | .order relation => (value?.bind c.orderOf?).any relation.holds
  | .like => value?.any fun v => occurs c.literal v.plain
  | .unlike => !value?.any fun v => occurs c.literal v.plain

end Comparison

end LogSieve

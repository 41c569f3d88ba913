import LogSieve.Proofs.PatternTable
import LogSieve.Proofs.Selection

/-!
This module contains the fields on which the decision about a record depends. They are those in
which the paths of the comparisons begin, and a field that is null counts as missing.
-/

namespace LogSieve

theorem OrderedMap.get?_erase_self {α : Type} (m : OrderedMap α) (key : String) :
    (m.erase key).get? key = none := by
  apply get?_eq_none
  simp [keys, erase]

theorem Value.lookup?_null (path : List String) : Value.null.lookup? path = none := by
  cases path with
  | nil => rfl
  | cons key path => rfl

namespace Record

def present? (r : Record) (key : String) : Option Value := (r.get? key).filter (!·.isNull)

theorem present?_insert_of_ne (r : Record) {key key' : String} (v : Value) (h : key ≠ key') :
    present? (r.insert key v) key' = r.present? key' := by
  unfold present?
  rw [OrderedMap.get?_insert_of_ne r v h]

theorem present?_insert_null (r : Record) (key : String) :
    present? (r.insert key .null) key = none := by
  unfold present?
  rw [OrderedMap.get?_insert_self]
  rfl

theorem present?_eq_none {r : Record} {key : String} (h : r.get? key = none) :
    r.present? key = none := by
  unfold present?
  rw [h]
  rfl

theorem present?_insert_null_eq_erase (r : Record) (key key' : String) :
    present? (r.insert key .null) key' = present? (r.erase key) key' := by
  by_cases h : key = key'
  . subst h
    rw [present?_insert_null]
    rw [present?_eq_none (OrderedMap.get?_erase_self r key)]
  . rw [present?_insert_of_ne r _ h]
    unfold present?
    rw [OrderedMap.get?_erase_of_ne r h]

theorem lookup?_cons (r : Record) (key : String) (path : List String) :
    (Value.object r.entries).lookup? (key :: path) = (r.present? key).bind (·.lookup? path) := by
  have hfield : (Value.object r.entries).field? key = r.get? key := rfl
  unfold present?
  cases hvalue : r.get? key with
  | none => simp [Value.lookup?, Value.at?, hfield, hvalue]
  | some v =>
    have hlookup : (Value.object r.entries).lookup? (key :: path) = v.lookup? path := by
      simp only [Value.lookup?, Value.at?, hfield, hvalue]
    rw [hlookup]
    cases v with
    | null => -- Nothing stands below null.
      apply Value.lookup?_null
    | _ => rfl

end Record

def Target.field (target : Target) : String := target.segments.head target.segments_ne_nil

theorem Record.lookup?_target (r : Record) (target : Target) :
    (Value.object r.entries).lookup? target.segments =
      (r.present? target.field).bind (·.lookup? target.segments.tail) := by
  rw [← lookup?_cons]
  unfold Target.field
  rw [List.cons_head_tail]

namespace Comparison

variable {occurs : String → String → Bool} {c : Comparison}

theorem holds_of_missing {r : Record} (h : r.present? c.target.field = none) :
    c.holds occurs (.object r.entries) = c.operator.isNegative := by
  have hlookup : (Value.object r.entries).lookup? c.target.segments = none := by
    rw [Record.lookup?_target, h]
    rfl
  unfold holds
  rw [hlookup]
  cases c.operator <;> simp [Operator.isNegative]

theorem holds_of_present?_eq {r r' : Record}
    (h : r.present? c.target.field = r'.present? c.target.field) :
    c.holds occurs (.object r.entries) = c.holds occurs (.object r'.entries) := by
  have hlookup : (Value.object r.entries).lookup? c.target.segments =
      (Value.object r'.entries).lookup? c.target.segments := by
    rw [Record.lookup?_target, Record.lookup?_target, h]
  unfold holds
  rw [hlookup]

end Comparison

namespace Filter

theorem accepts_of_present?_eq (language : PatternLanguage) {f : Filter} {r r' : Record}
    (h : ∀ c ∈ f.expr.leaves, r.present? c.target.field = r'.present? c.target.field) :
    f.accepts (.object r.entries) language = f.accepts (.object r'.entries) language := by
  unfold accepts Matcher.accepts
  apply Expr.holds_congr
  intro c hc
  apply Comparison.holds_of_present?_eq
  exact h c hc

/--
Whatever the patterns mean, a further field does not matter if no path begins in it, or if it is null.
A null in the place of a field is as if the field were removed: the comparisons of that field and of
everything below it hold if their operators are negative, and all others are as before.
-/
theorem accepts_insert (language : PatternLanguage) (f : Filter) (r : Record) (key : String)
    (v : Value) :
    let accepts (r : Record) := f.accepts (.object r.entries) language
    ((∀ c ∈ f.expr.leaves, c.target.field ≠ key) ∨ (r.get? key = none ∧ v = .null) →
      accepts (r.insert key v) = accepts r) ∧
    accepts (r.insert key .null) = accepts (r.erase key) ∧
    accepts (r.insert key .null) =
      f.expr.holds fun c =>
        if c.target.field = key then c.operator.isNegative
        else c.holds language.occurs (.object r.entries) := by
  intro accepts
  refine ⟨?_, ?_, ?_⟩
  . rintro (hfields | ⟨hmissing, rfl⟩)
    . apply accepts_of_present?_eq
      intro c hc
      apply Record.present?_insert_of_ne
      exact (hfields c hc).symm
    . apply accepts_of_present?_eq
      intro c _
      by_cases hfield : key = c.target.field
      . rw [← hfield, Record.present?_insert_null, Record.present?_eq_none hmissing]
      . rw [Record.present?_insert_of_ne r _ hfield]
  . apply accepts_of_present?_eq
    intro c _
    apply Record.present?_insert_null_eq_erase
  . apply (accepts_eq_holds language f _).trans
    apply Expr.holds_congr
    intro c _
    split
    . next hfield =>
      apply Comparison.holds_of_missing
      rw [hfield]
      apply Record.present?_insert_null
    . next hfield =>
      apply Comparison.holds_of_present?_eq
      apply Record.present?_insert_of_ne
      exact Ne.symm hfield

theorem accepts_insert_below :
    let unlike : Comparison := ⟨⟨["a", "b"], by decide, by decide⟩, .unlike, "x"⟩
    let less : Comparison := ⟨⟨["c"], by decide, by decide⟩, .order .lt, "2"⟩
    let f : Filter := ⟨.all [.not (.leaf unlike), .any [.leaf less]]⟩
    let r : Record := ⟨[("c", .int 1)], by unfold KeysIncrease; decide⟩
    (r.get? "a" = none ∧
      f.accepts (.object (r.insert "a" .null).entries) = f.accepts (.object r.entries)) ∧
    ((∀ c ∈ f.expr.leaves, c.target.field ≠ "b") ∧
      f.accepts (.object (r.insert "b" (.text "x")).entries) = f.accepts (.object r.entries)) := by
  intro unlike less f r
  have hmissing : r.get? "a" = none := by decide
  have hfields : ∀ c ∈ f.expr.leaves, c.target.field ≠ "b" := by decide
  exact ⟨⟨hmissing, (accepts_insert .standard f r "a" .null).1 (.inr ⟨hmissing, rfl⟩)⟩,
    ⟨hfields, (accepts_insert .standard f r "b" (.text "x")).1 (.inl hfields)⟩⟩

end Filter

end LogSieve

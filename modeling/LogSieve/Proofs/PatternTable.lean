import LogSieve.Matcher

/-!
This module contains the patterns that a matcher reads once for all records. Each literal has one
entry, that of the first comparison with it, and by these entries a record is accepted as if every
comparison read its pattern itself.
-/

namespace LogSieve

namespace Expr

mutual

theorem holds_congr {truth truth' : Comparison → Bool} (e : Expr)
    (h : ∀ c ∈ e.leaves, truth c = truth' c) : e.holds truth = e.holds truth' := by
  cases e with
  | leaf c => exact h c (by simp [leaves])
  | not e => rw [holds, holds, holds_congr e h]
  | all es => rw [holds, holds, holdsAll_eq_all, holdsAll_eq_all, (map_holds_congr es h).1]
  | any es => rw [holds, holds, holdsAny_eq_any, holdsAny_eq_any, (map_holds_congr es h).2]

theorem map_holds_congr {truth truth' : Comparison → Bool} (es : List Expr)
    (h : ∀ c ∈ leavesList es, truth c = truth' c) :
    es.all (holds truth) = es.all (holds truth') ∧ es.any (holds truth) = es.any (holds truth') := by
  cases es with
  | nil => exact ⟨rfl, rfl⟩
  | cons e es =>
    rw [leavesList, List.forall_mem_append] at h
    obtain ⟨hall, hany⟩ := map_holds_congr es h.2
    simp only [List.all_cons, List.any_cons, holds_congr e h.1, hall, hany, and_self]

end

end Expr

theorem Comparison.holds_congr {occurs occurs' : String → String → Bool} {c : Comparison}
    (h : c.operator.isPattern = true → occurs c.literal = occurs' c.literal) (record : Value) :
    c.holds occurs record = c.holds occurs' record := by
  unfold holds
  split
  . rfl
  . rfl
  . rfl
  . rfl
  . next hlike => rw [h (by rw [hlike]; rfl)]
  . next hunlike => rw [h (by rw [hunlike]; rfl)]

namespace Matcher

def uses (literal : String) (c : Comparison) : Bool := c.operator.isPattern && c.literal == literal

theorem firstUses.filter_go (literal : String) (seen : List String) (cs : List Comparison) :
    (go seen cs).filter (·.literal == literal) =
      if literal ∈ seen then [] else (cs.find? (uses literal)).toList := by
  induction cs generalizing seen with
  | nil => simp [go]
  | cons c cs ih =>
    unfold go
    by_cases hliteral : c.literal = literal
    . subst hliteral
      -- Only here does it matter what was seen: the comparison is kept, and then none behind it.
      cases hpattern : c.operator.isPattern <;> by_cases hseen : c.literal ∈ seen <;>
        simp [uses, hpattern, hseen, ih]
    . have hfind : (c :: cs).find? (uses literal) = cs.find? (uses literal) := by
        rw [List.find?_cons_of_neg]
        simp [uses, hliteral]
      rw [hfind]
      split
      . simp [hliteral, ih, Ne.symm hliteral]
      . exact ih seen

theorem filter_firstUses (literal : String) (cs : List Comparison) :
    (firstUses cs).filter (·.literal == literal) = (cs.find? (uses literal)).toList := by
  simpa [firstUses] using firstUses.filter_go literal [] cs

variable (language : PatternLanguage)

theorem find?_entries_ofFilter (f : Filter) (literal : String) :
    (ofFilter f language).entries.find? (·.1.literal = literal) =
      (f.expr.leaves.find? (uses literal)).map fun c => (c, language literal) := by
  have hfind : (firstUses f.expr.leaves).find? (·.literal == literal) =
      f.expr.leaves.find? (uses literal) := by
    rw [← List.head?_filter, filter_firstUses, Option.head?_toList]
  have hentries : (ofFilter f language).entries.find? (·.1.literal = literal) =
      ((firstUses f.expr.leaves).find? (·.literal == literal)).map
        fun c => (c, language c.literal) := by
    rw [ofFilter, List.find?_map]
    rfl
  rw [hentries, hfind]
  cases huse : f.expr.leaves.find? (uses literal) with
  | none => rfl
  | some c =>
    have hc := List.find?_some huse
    simp only [uses, Bool.and_eq_true, beq_iff_eq] at hc
    rw [Option.map_some, Option.map_some, hc.2]

theorem occurs_ofFilter {f : Filter} {c : Comparison} (hc : c ∈ f.expr.leaves)
    (hpattern : c.operator.isPattern = true) (text : String) :
    (ofFilter f language).occurs c.literal text = language.occurs c.literal text := by
  have hsome : (f.expr.leaves.find? (uses c.literal)).isSome = true := by
    rw [List.find?_isSome]
    exact ⟨c, hc, by simp [uses, hpattern]⟩
  obtain ⟨d, hd⟩ := Option.isSome_iff_exists.1 hsome
  unfold occurs PatternLanguage.occurs
  rw [find?_entries_ofFilter, hd]
  cases language c.literal <;> rfl

theorem filter_invalid_ofFilter (f : Filter) (literal : String) :
    (ofFilter f language).invalid.filter (·.literal == literal) =
      if language literal = none then (f.expr.leaves.find? (uses literal)).toList else [] := by
  have hinvalid : (ofFilter f language).invalid =
      (firstUses f.expr.leaves).filter fun c => (language c.literal).isNone := by
    simp only [invalid, ofFilter, List.filterMap_map, Function.comp_def]
    rw [← List.filterMap_eq_filter]
    rfl
  rw [hinvalid, List.filter_filter, ← filter_firstUses]
  split
  . next hnone =>
    apply List.filter_congr
    intro c _
    by_cases hliteral : c.literal = literal <;> simp [hliteral, hnone]
  . next hsome =>
    rw [List.filter_eq_nil_iff]
    intro c _ h
    simp only [Bool.and_eq_true, beq_iff_eq, Option.isNone_iff_eq_none] at h
    exact hsome (h.1 ▸ h.2)

end Matcher

namespace Filter

variable (language : PatternLanguage)

theorem accepts_eq_holds (f : Filter) (record : Value) :
    f.accepts record language = f.expr.holds (Comparison.holds language.occurs record) := by
  unfold accepts Matcher.accepts
  apply Expr.holds_congr
  intro c hc
  apply Comparison.holds_congr
  intro hpattern
  funext text
  exact Matcher.occurs_ofFilter language hc hpattern text

theorem accepts_anyOf (filters : List Filter) (record : Value) :
    (anyOf filters).accepts record language = filters.any (·.accepts record language) := by
  simp only [accepts_eq_holds]
  simp only [anyOf, Expr.holds, Expr.holdsAny_eq_any, List.any_map, Function.comp_def]

end Filter

end LogSieve

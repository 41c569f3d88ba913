import LogSieve.Proofs.RoundTrip

/-!
This module contains what the text of a filter is read as. The filters that can be built are those
that are read from texts, and those for the records of one of several others.
-/

namespace LogSieve

namespace Expr

theorem isNormalList_iff {es : List Expr} :
    isNormalList es = true ↔ ∀ e ∈ es, e.isNormal = true := by
  induction es with
  | nil => simp [isNormalList]
  | cons e es ih => simp [isNormalList, ih]

theorem hasEmptyList_eq_false_iff {es : List Expr} :
    hasEmptyList es = false ↔ ∀ e ∈ es, e.hasEmpty = false := by
  induction es with
  | nil => simp [hasEmptyList]
  | cons e es ih => simp [hasEmptyList, ih]

end Expr

namespace Filter

/--
The filters that are read from texts or made by `anyOf`, always of at least `least` such filters.
-/
inductive Built (least : Nat) : Filter → Prop where
  | ofText {text : String} {f : Filter} : Filter.ofText text = .ok f → Built least f
  | anyOf {filters : List Filter} : least ≤ filters.length → (∀ f ∈ filters, Built least f) →
      Built least (Filter.anyOf filters)

theorem ofText_eq_ok_iff {text : String} {f : Filter} :
    ofText text = .ok f ↔ parse text = .ok (.expression f.expr) := by
  unfold ofText
  split
  . next h => simp [h]
  . next parsed h =>
    rw [h]
    cases parsed with
    | field => simp [ofParsed]
    | expression e =>
      cases f
      simp [ofParsed]

theorem ofText_text_of_hasEmpty_eq_false {f : Filter} (h : f.expr.hasEmpty = false) :
    ofText f.text = .ok ⟨f.expr.normalized⟩ :=
  ofText_eq_ok_iff.2 (Expr.parse_text_of_hasEmpty_eq_false h)

theorem ofText_text_eq_ok_iff_isNormal {f : Filter} :
    ofText f.text = .ok f ↔ f.expr.isNormal = true := by
  constructor
  . intro h
    apply Expr.isNormal_of_parse
    exact ofText_eq_ok_iff.1 h
  . intro h
    have := ofText_text_of_hasEmpty_eq_false (Expr.hasEmpty_of_isNormal h)
    rw [Expr.normalized_of_isNormal h] at this
    exact this

theorem Built.hasEmpty_eq_false {f : Filter} (h : f.Built 1) : f.expr.hasEmpty = false := by
  induction h with
  | ofText h =>
    apply Expr.hasEmpty_of_isNormal
    exact Expr.isNormal_of_parse (ofText_eq_ok_iff.1 h)
  | anyOf hlength _ ih =>
    simp only [Filter.anyOf, Expr.hasEmpty, Bool.or_eq_false_iff]
    refine ⟨?_, ?_⟩
    . rw [List.isEmpty_eq_false_iff, ← List.length_pos_iff, List.length_map]
      omega
    . rw [Expr.hasEmptyList_eq_false_iff]
      simpa using ih

theorem Built.isNormal {f : Filter} (h : f.Built 2) : f.expr.isNormal = true := by
  induction h with
  | ofText h => exact Expr.isNormal_of_parse (ofText_eq_ok_iff.1 h)
  | anyOf hlength _ ih =>
    simp only [Filter.anyOf, Expr.isNormal, Bool.and_eq_true, decide_eq_true_eq, List.length_map]
    refine ⟨hlength, ?_⟩
    rw [Expr.isNormalList_iff]
    simpa using ih

/--
The text of a filter that is built of lists of at least one is read as its normal form, which accepts
the same records. That is the filter itself if and only if every list in it holds at least two
expressions, so it is for lists of at least two filters, and it never is for a list of one filter.
-/
theorem ofText_text_of_built {f : Filter} (h : f.Built 1) :
    ofText f.text = .ok ⟨f.expr.normalized⟩ ∧
    (∀ language record,
      Filter.accepts ⟨f.expr.normalized⟩ record language = f.accepts record language) ∧
    (ofText f.text = .ok f ↔ f.expr.isNormal = true) ∧
    (f.Built 2 → ofText f.text = .ok f) ∧
    ofText (anyOf [f]).text ≠ .ok (anyOf [f]) := by
  refine ⟨?_, ?_, ofText_text_eq_ok_iff_isNormal, ?_, ?_⟩
  . exact ofText_text_of_hasEmpty_eq_false h.hasEmpty_eq_false
  . exact Expr.accepts_normalized f.expr
  . intro hbuilt
    rw [ofText_text_eq_ok_iff_isNormal]
    exact hbuilt.isNormal
  . rw [ne_eq, ofText_text_eq_ok_iff_isNormal]
    simp [anyOf, Expr.isNormal]

theorem built_leaf (least : Nat) (c : Comparison) : Built least ⟨.leaf c⟩ :=
  .ofText (ofText_text_eq_ok_iff_isNormal.2 rfl)

theorem ofText_text_of_built_nested :
    let c : Comparison := ⟨⟨["a b"], by decide, by decide⟩, .like, "x\"\n"⟩
    let f : Filter := anyOf [⟨.leaf c⟩, anyOf [⟨.leaf c⟩, ⟨.leaf c⟩]]
    f.Built 1 ∧ f.Built 2 ∧ ofText f.text = .ok f := by
  intro c f
  have hbuilt : ∀ least ≤ 2, f.Built least := by
    intro least hleast
    have hleaf := built_leaf least c
    have hinner : Built least (anyOf [⟨.leaf c⟩, ⟨.leaf c⟩]) := .anyOf hleast (by simp [hleaf])
    exact .anyOf hleast (by simp [hleaf, hinner])
  have h := hbuilt 1 (by omega)
  obtain ⟨_, _, _, hread, _⟩ := ofText_text_of_built h
  exact ⟨h, hbuilt 2 (by omega), hread (hbuilt 2 (by omega))⟩

/--
A list of one filter, whose text is read as that filter and not as the list.
-/
theorem ofText_text_singleton_ne :
    let c : Comparison := ⟨⟨["a"], by decide, by decide⟩, .equal, "1"⟩
    let f : Filter := anyOf [⟨.leaf c⟩]
    f.Built 1 ∧ ofText f.text = .ok ⟨.leaf c⟩ ∧ ofText f.text ≠ .ok f := by
  intro c f
  have hbuilt : f.Built 1 := .anyOf (by simp) (by simp [built_leaf 1 c])
  have hread : ofText f.text = .ok ⟨.leaf c⟩ := ofText_text_of_hasEmpty_eq_false (f := f) rfl
  refine ⟨hbuilt, hread, ?_⟩
  rw [hread]
  simp [f, anyOf]

end Filter

end LogSieve

import LogSieve.Proofs.EscapedPattern
import LogSieve.Proofs.LiteralPattern
import LogSieve.Proofs.PatternTable
import LogSieve.Proofs.StepShape

/-!
This module contains the patterns in the conditions of stages. A pattern that is made from a literal
for equality occurs in no other text than the literal, and one that is the literal itself is the same
pattern for the matcher, as long as its blanks stand for themselves.
-/

namespace LogSieve

def Step.conditions (tag : String) (steps : List Step) : List (Option String) :=
  steps.map fun step => (step.stage tag).get? "Condition"

theorem Step.conditions_mark (tag : String) (condition : Condition) (marker : String)
    (steps : List Step) :
    conditions tag (.mark condition marker :: steps) =
      some condition.text :: conditions tag steps := by
  simp [conditions, stage, Stage.get?_set]

namespace Comparison

theorem conditions_steps {c : Comparison} {condition : Condition}
    (h : c.condition? = some condition) (tag key scope : String) :
    Step.conditions tag (c.steps key scope) =
      some condition.text ::
        if c.operator.isNegative then [some (Condition.unmarked (childKey scope 0)).text] else [] := by
  have hdeciding : ∀ marker, c.deciding marker = .mark condition marker := by
    intro marker
    simp only [deciding, h]
  rw [steps_eq]
  split
  . rw [hdeciding, Step.conditions_mark, Step.conditions_mark]
    rfl
  . rw [hdeciding, Step.conditions_mark]
    rfl

theorem condition?_of_isPattern {c : Comparison} (h : c.operator.isPattern = true) :
    c.condition? = some (.valueMatches c.target c.literal) := by
  unfold condition?
  split <;> simp_all [Operator.isPattern]

theorem condition?_of_equality {c : Comparison} (h : c.operator = .equal ∨ c.operator = .differs) :
    c.condition? = some (.valueMatches c.target ("^" ++ escapeLiteral c.literal ++ "$")) := by
  unfold condition?
  rcases h with h | h <;> rw [h]

/--
The stages of an equality or of its negation test the field by a valid pattern that occurs in a text
if and only if the text is the literal.
-/
theorem exists_conditions_equality {c : Comparison}
    (hc : c.operator = .equal ∨ c.operator = .differs) (tag key scope : String) :
    let pattern := escapeBlanks ("^" ++ escapeLiteral c.literal ++ "$")
    Step.conditions tag (c.steps key scope) =
      some ("Key_value_matches " ++ c.target.accessor ++ " " ++ pattern) ::
        (if c.operator.isNegative then [some ("Key_does_not_exist " ++ childKey scope 0)] else []) ∧
    ∀ classes : NamedClasses, ∃ p, Pattern.ofText? classes pattern = some p ∧
      ∀ v : String, p.occursIn v.toList = true ↔ v = c.literal := by
  intro pattern
  refine ⟨conditions_steps (condition?_of_equality hc) tag key scope, ?_⟩
  intro classes
  refine ⟨Pattern.exactly c.literal.toList, Pattern.ofText?_exactly classes c.literal, ?_⟩
  intro v
  rw [Pattern.occursIn_exactly_iff, String.toList_inj]

theorem exists_conditions_equality_blanks :
    let c : Comparison := ⟨⟨["a"], by decide, by decide⟩, .differs, "\\ $\t.\n"⟩
    (c.operator = .equal ∨ c.operator = .differs) ∧
      Step.conditions "t" (c.steps "k" "s") =
        [some "Key_value_matches $record['a'] ^\\\\\\x20\\$\\t\\.\\n$",
          some "Key_does_not_exist s_0"] ∧
      ∃ p, Pattern.ofText? .standard "^\\\\\\x20\\$\\t\\.\\n$" = some p ∧
        ∀ v : String, p.occursIn v.toList = true ↔ v = "\\ $\t.\n" := by
  intro c
  have hc : c.operator = .equal ∨ c.operator = .differs := .inr rfl
  have hpattern : escapeBlanks ("^" ++ escapeLiteral c.literal ++ "$") =
      "^\\\\\\x20\\$\\t\\.\\n$" := by decide
  obtain ⟨hconditions, hoccurs⟩ := exists_conditions_equality hc "t" "k" "s"
  rw [hpattern] at hconditions hoccurs
  refine ⟨hc, ?_, hoccurs .standard⟩
  rw [hconditions]
  decide

end Comparison

namespace Pattern

/--
A pattern whose blanks stand for themselves is the same pattern after they have been escaped, whatever
the named classes are and whichever patterns are too large. The stages of a comparison with it test
the field by the escaped pattern, which occurs in a text if and only if the matcher finds the pattern
there.
-/
theorem language_escapeBlanks (classes : NamedClasses) (fits : Pattern → Bool) {text : String}
    (h : hasLiteralBlanks text.toList = true) :
    let language := PatternLanguage.ofPatterns classes fits
    ofText? classes (escapeBlanks text) = ofText? classes text ∧
    language (escapeBlanks text) = language text ∧
    ∀ (f : Filter), ∀ c ∈ f.expr.leaves, c.operator.isPattern = true → c.literal = text →
      (∀ tag key scope, ∀ steps ∈ [c.steps key scope, c.scriptSteps key],
        (Step.conditions tag steps).head? =
          some (some ("Key_value_matches " ++ c.target.accessor ++ " " ++ escapeBlanks text))) ∧
      ∀ v : String, language.occurs (escapeBlanks text) v =
        (Matcher.ofFilter f language).occurs text v := by
  intro language
  have hsame : ofText? classes (escapeBlanks text) = ofText? classes text :=
    ofText?_escapeBlanks classes h
  have hlanguage : language (escapeBlanks text) = language text := by
    simp only [language, PatternLanguage.ofPatterns, hsame]
  refine ⟨hsame, hlanguage, ?_⟩
  rintro f c hc hpattern rfl
  have hcondition := Comparison.condition?_of_isPattern hpattern
  constructor
  . intro tag key scope
    simp only [List.forall_mem_cons, List.not_mem_nil, false_implies, implies_true, and_true]
    constructor
    . rw [Comparison.conditions_steps hcondition]
      rfl
    . rw [Comparison.scriptSteps_eq hcondition, if_pos hpattern, Step.conditions_mark]
      rfl
  . intro v
    rw [Matcher.occurs_ofFilter language hc hpattern, PatternLanguage.occurs, PatternLanguage.occurs,
      hlanguage]

theorem language_escapeBlanks_class :
    let text := "[a b](?i:c d)\t\x7b1,2\x7d\\p\x7bNd\x7d "
    let escaped := "[a\\x20b](?i:c\\x20d)\\t\x7b1,2\x7d\\p\x7bNd\x7d\\x20"
    let f : Filter := ⟨.leaf ⟨⟨["a"], by decide, by decide⟩, .unlike, text⟩⟩
    hasLiteralBlanks text.toList = true ∧ escapeBlanks text = escaped ∧
      (PatternLanguage.standard text).isSome = true ∧
      ofText? .standard escaped = ofText? .standard text ∧
      ∀ v : String, PatternLanguage.standard.occurs escaped v =
        (Matcher.ofFilter f).occurs text v := by
  intro text escaped f
  have hblanks : hasLiteralBlanks text.toList = true := by decide
  have hescaped : escapeBlanks text = escaped := by decide
  obtain ⟨hsame, _, hstages⟩ := language_escapeBlanks .standard (fun _ => true) hblanks
  obtain ⟨_, hoccurs⟩ := hstages f _ (by rw [Expr.leaves, List.mem_singleton]) rfl rfl
  rw [hescaped] at hsame hoccurs
  exact ⟨hblanks, hescaped, by decide +kernel, hsame, hoccurs⟩

/--
Escaping the blank of an escape, a blank that is skipped or one in the limits of a repetition or in
the name of a class makes a valid pattern occur elsewhere, or makes it invalid.
-/
theorem language_escapeBlanks_ne :
    let language := PatternLanguage.standard
    (language "\\ ").map (· " ") = some true ∧
      (language (escapeBlanks "\\ ")).map (· " ") = some false ∧
      (language "(?x)a b").map (· "ab") = some true ∧
      (language (escapeBlanks "(?x)a b")).map (· "ab") = some false ∧
      (language "a\x7b1, 2\x7d").isSome = true ∧
      language (escapeBlanks "a\x7b1, 2\x7d") = none ∧
      (language "\\p\x7bWhite Space\x7d").isSome = true ∧
      language (escapeBlanks "\\p\x7bWhite Space\x7d") = none := by
  intro language
  have hnone : ∀ text, (language text).isSome = false → language text = none := by
    intro text h
    exact Option.not_isSome_iff_eq_none.1 (by simp [h])
  exact ⟨by decide +kernel, by decide +kernel, by decide +kernel, by decide +kernel,
    by decide +kernel, hnone _ (by decide +kernel), by decide +kernel, hnone _ (by decide +kernel)⟩

end Pattern

end LogSieve

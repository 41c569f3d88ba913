import LogSieve.Matcher
import LogSieve.Proofs.LowerCase
import LogSieve.Proofs.Lua.Closure
import LogSieve.Proofs.ScriptTruth

/-!
This module contains where scripts and the matcher agree about texts that contain a literal. Scripts
only know the lower case of ASCII, so capitals beyond it keep them from finding a literal.
-/

namespace LogSieve

open Lua Script

theorem Text.contains_iff_infix {needle cs : List Char} :
    Text.contains needle cs = true ↔ needle <:+: cs := by
  rw [Text.contains_iff]
  constructor
  . rintro ⟨before, behind, rfl⟩
    exact ⟨before, behind, rfl⟩
  . rintro ⟨before, behind, rfl⟩
    exact ⟨before, behind, rfl⟩

namespace Comparison

theorem answer?_closure_has {c : Comparison} (h : c.operator = .has) (v : String) :
    c.closure.answer? (.data (.text v)) =
      some (Lua.find? (bytes (Text.lower c.literal.toList)) 1
        ((bytes v.toList).map lowerByte)).isSome := by
  have hneedle : (String.ofList (Text.lower c.literal.toList)).toList =
      Text.lower c.literal.toList := by simp
  have hset : (Datum.string (bytes v.toList) != .nil) = true := rfl
  simp only [closure, closureBody, h, giveBackIf, nilTree, shown, Exp.answer?, Datum.ofVal?,
    Exp.evalIn, Datum.toString, hneedle, Datum.isTrue, hset, if_true]
  cases Lua.find? (bytes (Text.lower c.literal.toList)) 1 ((bytes v.toList).map lowerByte) <;> rfl

variable {target : Target} {r : Record} {v literal : String}

theorem value?_script_has (hliteral : literal ≠ "*")
    (hv : (Value.object r.entries).at? target.segments = some (.text v)) (key : String) :
    value? answers r (script ⟨target, .has, literal⟩ key) =
      some (.bool (Text.contains (Text.lower literal.toList) (v.toList.map Char.toLower))) := by
  let c : Comparison := ⟨target, .has, literal⟩
  have hread : read? (c.script key) = some (.call c.closure [fieldTree target.segments]) := by
    rw [(c.isClosed_script key).isScript.read?]
    simp [c, tree, hliteral]
  have hfield := eval_fieldTree answers r target.segments_ne_nil
  have hclosure : c.closure.eval answers r = some (.function c.closure) := rfl
  have hanswer : answers c.closure (fieldTree target.segments) (.data (.text v)) =
      Text.contains (Text.lower literal.toList) (v.toList.map Char.toLower) := by
    rw [answers, answer?_closure_has rfl, map_lowerByte_bytes, Bool.eq_iff_iff,
      Text.contains_iff_infix, ← bytes_infix_bytes_iff, ← isSome_find?_iff 1]
    simp [c]
  rw [hv] at hfield
  rw [value?, hread, Option.bind_some]
  simp only [Exp.eval, hclosure, hfield, path?_closure, Val.ofValue?, Val.ofValue, hanswer]

theorem accepts_has_iff_of_lookup? (language : PatternLanguage) {record : Value} (hliteral : literal ≠ "*")
    (hv : record.lookup? target.segments = some (.text v)) :
    Filter.accepts ⟨.leaf ⟨target, .has, literal⟩⟩ record language = true ↔
      Text.lower literal.toList <:+: Text.lower v.toList := by
  rw [← Text.contains_iff_infix]
  simp [Filter.accepts, Matcher.accepts, Matcher.ofFilter, Expr.holds, holds, hliteral, hv, isPartOf,
    Value.plain]

theorem accepts_has_iff (language : PatternLanguage) (hliteral : literal ≠ "*")
    (hv : (Value.object r.entries).at? target.segments = some (.text v)) :
    Filter.accepts ⟨.leaf ⟨target, .has, literal⟩⟩ (.object r.entries) language = true ↔
      Text.lower literal.toList <:+: Text.lower v.toList := by
  apply accepts_has_iff_of_lookup? language hliteral
  simp [Value.lookup?, hv, Value.isNull]

/--
The script of a comparison with a text tells whether the literal in lower case stands in the text
whose letters of ASCII are in lower case, and then the matcher accepts the record as well. Both agree
about all literals if and only if the text has no capitals beyond ASCII.
-/
theorem value?_script_has_eq_accepts_iff
    (hv : (Value.object r.entries).at? target.segments = some (.text v)) (key : String)
    (language : PatternLanguage) :
    let told (literal : String) := value? answers r (script ⟨target, .has, literal⟩ key)
    let accepted (literal : String) :=
      Filter.accepts ⟨.leaf ⟨target, .has, literal⟩⟩ (.object r.entries) language
    (∀ literal ≠ "*", ∃ b, told literal = some (.bool b) ∧
      (b = true ↔ Text.lower literal.toList <:+: v.toList.map Char.toLower) ∧
      (b = true → accepted literal = true)) ∧
    ((∀ literal ≠ "*", told literal = some (.bool (accepted literal))) ↔
      ∀ c ∈ v.toList, 128 ≤ c.toNat → Text.lower [c] = [c]) := by
  intro told accepted
  refine ⟨?_, ?_, ?_⟩
  . intro literal hliteral
    refine ⟨_, value?_script_has hliteral hv key, Text.contains_iff_infix, ?_⟩
    intro h
    exact (accepts_has_iff language hliteral hv).2 (Text.lower_infix_lower (Text.contains_iff_infix.1 h))
  . -- The text itself is a literal that the matcher finds.
    intro h
    by_cases hstar : v = "*"
    . rw [hstar]
      exact Text.forall_mem_of_all (by decide)
    . have haccepted : accepted v = true := (accepts_has_iff language hstar hv).2 List.infix_rfl
      have htold := (value?_script_has hstar hv key).symm.trans (h v hstar)
      rw [haccepted, Option.some.injEq, Val.bool.injEq] at htold
      exact Text.lower_infix_map_iff.1 (Text.contains_iff_infix.1 htold)
  . intro h literal hliteral
    have hlower : Text.lower v.toList = v.toList.map Char.toLower := Text.lower_eq_map_iff.2 h
    have haccepted : accepted literal =
        Text.contains (Text.lower literal.toList) (v.toList.map Char.toLower) := by
      rw [Bool.eq_iff_iff, Text.contains_iff_infix, ← hlower]
      exact accepts_has_iff language hliteral hv
    rw [haccepted]
    exact value?_script_has hliteral hv key

theorem value?_script_has_eq_accepts_small :
    let target : Target := ⟨["log", "message"], by decide, by decide⟩
    let r : Record :=
      ⟨[("log", .object [("message", .text "Größe in KB")])], by unfold KeysIncrease; decide⟩
    (Value.object r.entries).at? target.segments = some (.text "Größe in KB") ∧
      (∀ c ∈ "Größe in KB".toList, 128 ≤ c.toNat → Text.lower [c] = [c]) ∧
      ∀ literal ≠ "*", value? answers r (script ⟨target, .has, literal⟩ "k") =
        some (.bool (Filter.accepts ⟨.leaf ⟨target, .has, literal⟩⟩ (.object r.entries))) := by
  intro target r
  have hv : (Value.object r.entries).at? target.segments = some (.text "Größe in KB") := by rfl
  have hsmall : ∀ c ∈ "Größe in KB".toList, 128 ≤ c.toNat → Text.lower [c] = [c] :=
    Text.forall_mem_of_all (by decide +kernel)
  exact ⟨hv, hsmall, (value?_script_has_eq_accepts_iff hv "k" .standard).2.2 hsmall⟩

/--
A capital beyond ASCII is found by the matcher but not by the script, even where it is the literal.
-/
theorem value?_script_has_ne_accepts :
    let target : Target := ⟨["a"], by decide, by decide⟩
    let r : Record := ⟨[("a", .text "É")], by unfold KeysIncrease; decide⟩
    value? answers r (script ⟨target, .has, "É"⟩ "k") = some (.bool false) ∧
      Filter.accepts ⟨.leaf ⟨target, .has, "É"⟩⟩ (.object r.entries) = true := by
  intro target r
  have hv : (Value.object r.entries).at? target.segments = some (.text "É") := rfl
  have hcontains : Text.contains (Text.lower "É".toList) ("É".toList.map Char.toLower) = false := by
    decide +kernel
  constructor
  . rw [value?_script_has (by decide) hv, hcontains]
  . exact (accepts_has_iff .standard (by decide) hv).2 List.infix_rfl

end Comparison

end LogSieve

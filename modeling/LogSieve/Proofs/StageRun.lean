import LogSieve.Pipeline
import LogSieve.Proofs.Record

/-!
This module contains the meaning of stages: what a list of stages makes of a record. The tests of
the nested record are left open, they are given by the truth of their texts.
-/

namespace LogSieve

inductive Outcome where
  | kept (r : Record)
  | dropped
  | stuck

def Outcome.andThen (o : Outcome) (f : Record → Outcome) : Outcome :=
  match o with
  | .kept r => f r
  | o => o

def splitAtSpace? (s : String) : Option (String × String) :=
  match s.toList.dropWhile (· != ' ') with
  | [] => none
  | _ :: rest => some (String.ofList (s.toList.takeWhile (· != ' ')), String.ofList rest)

def between? (opening closing text : List Char) : Option (List Char) :=
  let rest := text.drop opening.length
  if opening.isPrefixOf text && closing.isSuffixOf rest then
    some (rest.take (rest.length - closing.length))
  else
    none

/--
The truth of a condition with the given text. Everything but the absence of a field is a test of the
nested record.
-/
def Record.satisfies (truth : String → Value → Bool) (r : Record) (condition : String) : Bool :=
  match splitAtSpace? condition with
  | some (rule, field) =>
    if rule = "Key_does_not_exist" then !r.has field else truth condition r.nested
  | none => truth condition r.nested

namespace Stage

variable (truth : String → Value → Bool)

def runNest (stage : Stage) (r : Record) : Outcome :=
  match stage.get? "Operation", stage.get? "Nest_under", stage.get? "Nested_under" with
  | some "nest", some field, _ => .kept (r.nestUnder field)
  | some "lift", _, some field => .kept (r.liftFrom field)
  | _, _, _ => .stuck

def runSet (stage : Stage) (r : Record) : Outcome :=
  match stage.get? "Set" with
  | none => .kept r
  | some rule =>
    match splitAtSpace? rule with
    | some (field, value) => .kept (r.insert field (.text value))
    | none => .stuck

def runRemove (stage : Stage) (r : Record) : Outcome :=
  match stage.get? "Remove_wildcard" with
  | none => .kept r
  | some stem => .kept (r.sweep stem)

def runModify (stage : Stage) (r : Record) : Outcome :=
  if (stage.get? "Condition").all (r.satisfies truth) then
    (runSet stage r).andThen (runRemove stage)
  else
    .kept r

def scriptTest? (name code : String) : Option String :=
  let opening := "function " ++ name ++ "(tag, timestamp, record) if (function(record) return "
  let closing := " end)(record[" ++ Script.quote nestField ++ "] or \x7b\x7d) then record[" ++
    Script.quote name ++ "] = \"1\" return 2, timestamp, record end return 0, timestamp, record end"
  (between? opening.toList closing.toList code.toList).map String.ofList

def runScript (stage : Stage) (r : Record) : Outcome :=
  match stage.get? "call", stage.get? "code" with
  | some name, some code =>
    match scriptTest? name code with
    | some test => .kept (if truth test r.nested then r.insert name (.text "1") else r)
    | none => .stuck
  | _, _ => .stuck

def keepIf (present : Bool) (rule : String) (r : Record) : Outcome :=
  match splitAtSpace? rule with
  | some (field, "1") => if r.has field = present then .kept r else .dropped
  | _ => .stuck

def runGrep (stage : Stage) (r : Record) : Outcome :=
  match stage.get? "Regex", stage.get? "Exclude" with
  | some rule, none => keepIf true rule r
  | none, some rule => keepIf false rule r
  | _, _ => .stuck

def run (stage : Stage) (r : Record) : Outcome :=
  match stage.name? with
  | some "nest" => stage.runNest r
  | some "modify" => stage.runModify truth r
  | some "lua" => stage.runScript truth r
  | some "grep" => stage.runGrep r
  | _ => .stuck

def runAll : List Stage → Record → Outcome
  | [], r => .kept r
  | stage :: stages, r => (stage.run truth r).andThen (runAll stages)

end Stage

theorem dropWhile_append_space {cs : List Char} (h : ' ' ∉ cs) (rest : List Char) :
    (cs ++ ' ' :: rest).dropWhile (· != ' ') = ' ' :: rest := by
  rw [List.dropWhile_append_of_pos]
  . simp
  . intro c hc
    simp only [bne_iff_ne, ne_eq]
    rintro rfl
    exact h hc

theorem takeWhile_append_space {cs : List Char} (h : ' ' ∉ cs) (rest : List Char) :
    (cs ++ ' ' :: rest).takeWhile (· != ' ') = cs := by
  rw [List.takeWhile_append_of_pos]
  . simp
  . intro c hc
    simp only [bne_iff_ne, ne_eq]
    rintro rfl
    exact h hc

theorem splitAtSpace?_append {a : String} (h : ' ' ∉ a.toList) (b : String) :
    splitAtSpace? (a ++ (" " ++ b)) = some (a, b) := by
  have htext : (a ++ (" " ++ b)).toList = a.toList ++ ' ' :: b.toList := by simp
  unfold splitAtSpace?
  rw [htext, dropWhile_append_space h, takeWhile_append_space h]
  simp

theorem between?_append (opening cs closing : List Char) :
    between? opening closing (opening ++ cs ++ closing) = some cs := by
  have hprefix : opening.isPrefixOf (opening ++ cs ++ closing) = true := by
    simp [List.isPrefixOf_iff_prefix]
  have hdrop : (opening ++ cs ++ closing).drop opening.length = cs ++ closing := by simp
  have hsuffix : closing.isSuffixOf (cs ++ closing) = true := by
    simp [List.isSuffixOf_iff_suffix]
  unfold between?
  simp only [hdrop, hprefix, hsuffix]
  simp

namespace Stage

theorem get?_set (stage : Stage) (key value key' : String) :
    (stage.set key value).get? key' = if key = key' then some value else stage.get? key' := by
  split
  . next h =>
    rw [← h, get?_set_self]
  . next h => rw [get?_set_of_ne _ _ h]

theorem get?_filter (name tag key : String) :
    (filter name tag).get? key =
      if "Match" = key then some tag else if "Name" = key then some name else none := by
  have h : filter name tag = ((⟨"FILTER", .empty⟩ : Stage).set "Name" name).set "Match" tag := rfl
  rw [h, get?_set, get?_set]
  rfl

variable {truth : String → Value → Bool}

@[simp]
theorem runAll_nil (r : Record) : runAll truth [] r = .kept r := rfl

theorem runAll_cons_of_kept {stage : Stage} {stages : List Stage} {r r' : Record}
    (h : stage.run truth r = .kept r') :
    runAll truth (stage :: stages) r = runAll truth stages r' := by
  rw [runAll, h]
  rfl

theorem runAll_cons_of_dropped {stage : Stage} {stages : List Stage} {r : Record}
    (h : stage.run truth r = .dropped) : runAll truth (stage :: stages) r = .dropped := by
  rw [runAll, h]
  rfl

theorem scriptTest?_testCode (c : Comparison) (name : String) :
    scriptTest? name (Step.testCode c name) = some (c.script name) := by
  unfold scriptTest?
  have htext : ∀ opening closing : String, ∀ code : String,
      code = opening ++ c.script name ++ closing →
        (between? opening.toList closing.toList code.toList).map String.ofList =
          some (c.script name) := by
    intro opening closing code h
    rw [h, String.toList_append, String.toList_append, between?_append]
    simp
  apply htext
  unfold Step.testCode
  simp only [String.append_assoc]

end Stage

namespace Condition

def rule : Condition → String
  | .valueMatches _ _ => "Key_value_matches"
  | .keyExists _ => "Key_exists"
  | .unmarked _ => "Key_does_not_exist"

def operand : Condition → String
  | .valueMatches target pattern => target.accessor ++ (" " ++ escapeBlanks pattern)
  | .keyExists target => target.accessor
  | .unmarked marker => marker

theorem space_not_mem_rule (condition : Condition) : ' ' ∉ condition.rule.toList := by
  cases condition <;> simp [rule]

theorem text_eq_append (condition : Condition) :
    condition.text = condition.rule ++ (" " ++ condition.operand) := by
  apply String.toList_inj.1
  cases condition with
  | valueMatches target pattern => simp [text_valueMatches, rule, operand]
  | keyExists target => simp [text_keyExists, rule, operand]
  | unmarked marker => simp [text_unmarked, rule, operand]

theorem splitAtSpace?_text (condition : Condition) :
    splitAtSpace? condition.text = some (condition.rule, condition.operand) := by
  rw [text_eq_append, splitAtSpace?_append condition.space_not_mem_rule]

def holds (truth : String → Value → Bool) (r : Record) : Condition → Bool
  | .unmarked marker => !r.has marker
  | condition => truth condition.text r.nested

theorem satisfies_text (truth : String → Value → Bool) (r : Record) (condition : Condition) :
    r.satisfies truth condition.text = condition.holds truth r := by
  unfold Record.satisfies
  rw [condition.splitAtSpace?_text]
  cases condition with
  | valueMatches target pattern => simp [rule, holds]
  | keyExists target => simp [rule, holds]
  | unmarked marker => simp [rule, operand, holds]

end Condition

namespace Step

open Stage

variable {truth : String → Value → Bool}

theorem run_nest (tag : String) (r : Record) :
    (Step.nest.stage tag).run truth r = .kept (r.nestUnder nestField) := by
  simp [stage, Stage.nest, run, runNest, name?, get?_set, get?_filter]

theorem run_lift (tag : String) (r : Record) :
    (Step.lift.stage tag).run truth r = .kept (r.liftFrom nestField) := by
  simp [stage, Stage.lift, run, runNest, name?, get?_set, get?_filter]

theorem run_sweep (tag stem : String) (r : Record) :
    ((Step.sweep stem).stage tag).run truth r = .kept (r.sweep stem) := by
  simp [stage, run, runModify, runSet, runRemove, Outcome.andThen, name?, get?_set, get?_filter]

theorem run_mark (tag : String) (condition : Condition) {marker : String} (r : Record)
    (h : ' ' ∉ marker.toList) :
    ((Step.mark condition marker).stage tag).run truth r =
      .kept (if condition.holds truth r then r.insert marker (.text "1") else r) := by
  -- Without blanks in the marker, the rule is divided behind it.
  have hset : splitAtSpace? (marker ++ " 1") = some (marker, "1") := splitAtSpace?_append h "1"
  simp only [stage, run, runModify, runSet, runRemove, name?, get?_set, get?_filter,
    String.reduceEq, if_true, if_false, Option.all_some, Condition.satisfies_text, hset,
    Outcome.andThen]
  split <;> rfl

theorem run_test (tag : String) (c : Comparison) (marker : String) (r : Record) :
    ((Step.test c marker).stage tag).run truth r =
      .kept (if truth (c.script marker) r.nested then r.insert marker (.text "1") else r) := by
  simp [stage, run, runScript, name?, get?_set, get?_filter, scriptTest?_testCode]

theorem run_select (tag : String) (exclude : Bool) {marker : String} (r : Record)
    (h : ' ' ∉ marker.toList) :
    ((Step.select exclude marker).stage tag).run truth r =
      if r.has marker != exclude then .kept r else .dropped := by
  have hrule : splitAtSpace? (marker ++ " 1") = some (marker, "1") := splitAtSpace?_append h "1"
  cases exclude with
  | true =>
    simp only [stage, parity, run, runGrep, name?, get?_set, get?_filter, String.reduceEq, if_true,
      if_false, keepIf, hrule]
    cases r.has marker <;> rfl
  | false =>
    simp only [stage, parity, run, runGrep, name?, get?_set, get?_filter, String.reduceEq, if_true,
      if_false, keepIf, hrule, Bool.false_eq_true]
    cases r.has marker <;> rfl

def marker? : Step → Option String
  | .mark _ marker | .test _ marker => some marker
  | _ => none

def applyMark (truth : String → Value → Bool) (r : Record) : Step → Record
  | .mark condition marker =>
    if condition.holds truth r then r.insert marker (.text "1") else r
  | .test c marker =>
    if truth (c.script marker) r.nested then r.insert marker (.text "1") else r
  | _ => r

def marked (truth : String → Value → Bool) (steps : List Step) (r : Record) : Record :=
  steps.foldl (applyMark truth) r

def SetsOnly (p : String → Prop) (steps : List Step) : Prop :=
  ∀ step ∈ steps, ∃ marker, step.marker? = some marker ∧ p marker

theorem SetsOnly.append {p : String → Prop} {as bs : List Step} (ha : SetsOnly p as)
    (hb : SetsOnly p bs) : SetsOnly p (as ++ bs) := by
  intro step hstep
  cases List.mem_append.1 hstep with
  | inl h => exact ha step h
  | inr h => exact hb step h

theorem SetsOnly.mono {p q : String → Prop} {steps : List Step} (h : SetsOnly p steps)
    (hpq : ∀ marker, p marker → q marker) : SetsOnly q steps := by
  intro step hstep
  obtain ⟨marker, hmarker, hp⟩ := h step hstep
  exact ⟨marker, hmarker, hpq marker hp⟩

theorem setsOnly_nil (p : String → Prop) : SetsOnly p [] := by
  intro step hstep
  simp at hstep

theorem setsOnly_cons {p : String → Prop} {step : Step} {steps : List Step} {marker : String}
    (hmarker : step.marker? = some marker) (hp : p marker) (h : SetsOnly p steps) :
    SetsOnly p (step :: steps) := by
  intro step' hstep'
  cases List.mem_cons.1 hstep' with
  | inl heq =>
    rw [heq]
    exact ⟨marker, hmarker, hp⟩
  | inr hmem => exact h step' hmem

theorem setsOnly_singleton {p : String → Prop} {step : Step} {marker : String}
    (hmarker : step.marker? = some marker) (hp : p marker) : SetsOnly p [step] := by
  apply setsOnly_cons hmarker hp
  apply setsOnly_nil

theorem marked_append (as bs : List Step) (r : Record) :
    marked truth (as ++ bs) r = marked truth bs (marked truth as r) := by
  simp [marked]

theorem marked_cons (step : Step) (steps : List Step) (r : Record) :
    marked truth (step :: steps) r = marked truth steps (applyMark truth r step) := rfl

@[simp]
theorem marked_nil (r : Record) : marked truth [] r = r := rfl

theorem applyMark_eq (truth : String → Value → Bool) {step : Step} {marker : String}
    (h : step.marker? = some marker) (r : Record) :
    applyMark truth r step = r ∨ applyMark truth r step = r.insert marker (.text "1") := by
  cases step with
  | mark condition m =>
    simp only [marker?, Option.some.injEq] at h
    simp only [applyMark, h]
    split
    . exact .inr rfl
    . exact .inl rfl
  | test c m =>
    simp only [marker?, Option.some.injEq] at h
    simp only [applyMark, h]
    split
    . exact .inr rfl
    . exact .inl rfl
  | _ => simp [marker?] at h

theorem run_eq_applyMark {step : Step} {marker : String} (h : step.marker? = some marker)
    (hspace : ' ' ∉ marker.toList) (tag : String) (r : Record) :
    (step.stage tag).run truth r = .kept (applyMark truth r step) := by
  cases step with
  | mark condition m =>
    simp only [marker?, Option.some.injEq] at h
    rw [run_mark _ _ _ (by rw [h]; exact hspace)]
    rfl
  | test c m =>
    rw [run_test]
    rfl
  | _ => simp [marker?] at h

theorem runAll_marked {steps : List Step} (h : SetsOnly (' ' ∉ ·.toList) steps) (tag : String)
    (stages : List Stage) (r : Record) :
    runAll truth (steps.map (stage tag) ++ stages) r = runAll truth stages (marked truth steps r) := by
  induction steps generalizing r with
  | nil => rfl
  | cons step steps ih =>
    obtain ⟨marker, hmarker, hspace⟩ := h step (by simp)
    rw [List.map_cons, List.cons_append,
      runAll_cons_of_kept (run_eq_applyMark hmarker hspace tag r), marked_cons]
    apply ih
    intro step' hstep'
    exact h step' (List.mem_cons_of_mem _ hstep')

theorem marked_induction {p : String → Prop} {steps : List Step} (h : SetsOnly p steps)
    {motive : Record → Prop} (r : Record) (start : motive r)
    (insert : ∀ r marker, p marker → motive r → motive (r.insert marker (.text "1"))) :
    motive (marked truth steps r) := by
  induction steps generalizing r with
  | nil => exact start
  | cons step steps ih =>
    obtain ⟨marker, hmarker, hp⟩ := h step (by simp)
    rw [marked_cons]
    apply ih
    . intro step' hstep'
      exact h step' (List.mem_cons_of_mem _ hstep')
    . cases applyMark_eq truth hmarker r with
      | inl heq =>
        rw [heq]
        exact start
      | inr heq =>
        rw [heq]
        exact insert r marker hp start

theorem get?_marked {p : String → Prop} {steps : List Step} (h : SetsOnly p steps) (r : Record)
    {key : String} (hkey : ¬p key) : (marked truth steps r).get? key = r.get? key := by
  apply marked_induction (motive := fun r' => r'.get? key = r.get? key) h r rfl
  intro r' marker hp hr'
  rw [OrderedMap.get?_insert_of_ne, hr']
  rintro rfl
  exact hkey hp

theorem has_marked {p : String → Prop} {steps : List Step} (h : SetsOnly p steps) (r : Record)
    {key : String} (hkey : ¬p key) : (marked truth steps r).has key = r.has key := by
  unfold OrderedMap.has
  rw [get?_marked h r hkey]

theorem nested_marked {p : String → Prop} {steps : List Step} (h : SetsOnly p steps) (r : Record)
    (hnest : ¬p nestField) : (marked truth steps r).nested = r.nested := by
  unfold Record.nested
  rw [get?_marked h r hnest]

theorem filterKeys_marked {p : String → Prop} {steps : List Step} (h : SetsOnly p steps) (r : Record)
    {q : String → Bool} (hq : ∀ key, p key → q key = false) :
    (marked truth steps r).filterKeys q = r.filterKeys q := by
  apply marked_induction (motive := fun r' => r'.filterKeys q = r.filterKeys q) h r rfl
  intro r' marker hp hr'
  rw [OrderedMap.filterKeys_insert _ _ (hq marker hp), hr']

end Step

end LogSieve

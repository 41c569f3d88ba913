import LogSieve.Proofs.Engine
import LogSieve.Proofs.MarkerNames

/-!
This module contains the fields of a record on which the stages of a pipeline depend. A condition is
about a marker or begins in the field of the nested record. A script hands the nested record to a
function of its own and reads nothing else.
-/

namespace LogSieve

namespace Lua

def Token.opensBlock : Token → Bool
  | .keyword "function" | .keyword "if" | .keyword "do" => true
  | _ => false

/--
The tokens outside of all functions with the given parameter, in which its name stands for something
else. Inside of such a function, the number of open blocks is kept.
-/
def outside (parameter : String) : Nat → List Token → List Token
  | _, [] => []
  | 0, .keyword "function" :: .symbol "(" :: .name name :: .symbol ")" :: ts =>
    if name = parameter then
      outside parameter 1 ts
    else
      .keyword "function" :: .symbol "(" :: .name name :: .symbol ")" :: outside parameter 0 ts
  | 0, t :: ts => t :: outside parameter 0 ts
  | depth + 1, t :: ts =>
    if t.opensBlock then outside parameter (depth + 2) ts
    else if t = .keyword "end" then outside parameter depth ts
    else outside parameter (depth + 1) ts

def readField? (table : String) : List Token → Option String
  | .name name :: .symbol "[" :: .string key :: .symbol "]" :: ts =>
    if name = table ∧ ts.head? ≠ some (.symbol "=") then some key else none
  | _ => none

def fieldsRead (table text : String) : List String :=
  occurrences (readField? table) (outside table 0 (tokens text))

def Leads (a b : Nat) (ts : List Token) : Prop :=
  ∀ parameter depth rest,
    outside parameter (depth + a + 1) (ts ++ rest) = outside parameter (depth + b + 1) rest

theorem Leads.append {a b c : Nat} {ts us : List Token} (hts : Leads a b ts) (hus : Leads b c us) :
    Leads a c (ts ++ us) := by
  intro parameter depth rest
  rw [List.append_assoc, hts, hus]

def isFlat (ts : List Token) : Bool := ts.all fun t => !t.opensBlock && t != .keyword "end"

theorem leads_of_isFlat {ts : List Token} (h : isFlat ts = true) (a : Nat) : Leads a a ts := by
  intro parameter depth rest
  induction ts with
  | nil => rfl
  | cons t ts ih =>
    simp only [isFlat, List.all_cons, Bool.and_eq_true, Bool.not_eq_true', bne_iff_ne] at h
    rw [List.cons_append, outside]
    simp only [h.1.1, h.1.2, if_false, Bool.false_eq_true]
    exact ih h.2

def LeadsText (a b : Nat) (text : String) : Prop := ∃ ts, Scans .idle text ts .idle ∧ Leads a b ts

theorem LeadsText.append {a b c : Nat} {s t : String} (hs : LeadsText a b s)
    (ht : LeadsText b c t) : LeadsText a c (s ++ t) := by
  obtain ⟨ts, hts, hleads⟩ := hs
  obtain ⟨us, hus, hleads'⟩ := ht
  exact ⟨ts ++ us, hts.append hus, hleads.append hleads'⟩

theorem leadsText_of_isFlat {text : String} {ts : List Token} (hts : Scans .idle text ts .idle)
    (h : isFlat ts = true) (a : Nat) : LeadsText a a text :=
  ⟨ts, hts, leads_of_isFlat h a⟩

theorem leadsText_quote (s : String) (a : Nat) : LeadsText a a (Script.quote s) :=
  leadsText_of_isFlat (scans_quote s) rfl a

end Lua

open Lua

namespace Script

theorem isFlat_stringTokens (ss : List String) : isFlat (stringTokens ss) = true := by
  induction ss with
  | nil => rfl
  | cons s ss ih =>
    cases ss with
    | nil => rfl
    | cons s' ss => exact ih

theorem leadsText_test {body value : String} (hbody : LeadsText 1 1 (body ++ " "))
    (hvalue : LeadsText 0 0 (value ++ ")")) : LeadsText 0 0 (test body value) := by
  have hstart : LeadsText 0 1 "(function(v) " :=
    ⟨[.symbol "(", .keyword "function", .symbol "(", .name "v", .symbol ")"], by decide,
      fun _ _ _ => rfl⟩
  have hcall : LeadsText 1 0 "end)(" :=
    ⟨[.keyword "end", .symbol ")", .symbol "("], by decide, fun _ _ _ => rfl⟩
  rw [test_eq]
  exact hstart.append (hbody.append (hcall.append hvalue))

theorem leadsText_field {path : List String} (h : path ≠ []) :
    LeadsText 0 0 (field path ++ ")") := by
  match path with
  | [s] =>
    have hopening : LeadsText 0 0 "record[" :=
      ⟨[.name "record", .symbol "["], by decide, fun _ _ _ => rfl⟩
    have hclosing : LeadsText 0 0 ("]" ++ ")") :=
      ⟨[.symbol "]", .symbol ")"], by decide, fun _ _ _ => rfl⟩
    rw [field, String.append_assoc, String.append_assoc]
    exact hopening.append ((leadsText_quote s 0).append hclosing)
  | s :: s' :: ss =>
    have hstart : Leads 1 1 loopStart := leads_of_isFlat (by decide) 1
    have hstrings : Leads 1 1 (stringTokens (s :: s' :: ss)) :=
      leads_of_isFlat (isFlat_stringTokens _) 1
    -- The loop is open while the condition in it is, and both are closed again.
    have hend : Leads 1 1 loopEnd := fun _ _ _ => rfl
    have hrecord : LeadsText 0 0 ("record" ++ ")") :=
      ⟨[.name "record", .symbol ")"], by decide, fun _ _ _ => rfl⟩
    have hclosing : LeadsText 0 0 ")" := ⟨[.symbol ")"], by decide, fun _ _ _ => rfl⟩
    rw [field_cons_cons]
    apply LeadsText.append _ hclosing
    apply leadsText_test _ hrecord
    exact ⟨_, scans_pathLoop s (s' :: ss), (hstart.append hstrings).append hend⟩

theorem leadsText_relation (relation : Relation) (a : Nat) : LeadsText a a (relation.text ++ " ") :=
  leadsText_of_isFlat (isComparison_relation relation).scans rfl a

theorem leadsText_orderedText (relation : Relation) (literal : String) {value : String}
    (hvalue : LeadsText 0 0 (value ++ ")")) :
    LeadsText 0 0 (orderedText value relation literal) := by
  have hguard : LeadsText 1 1 "return v ~= nil and tostring(v) " :=
    ⟨guardTokens ++ [.name "tostring", .symbol "(", .name "v", .symbol ")"], by decide,
      fun _ _ _ => rfl⟩
  have hspace : LeadsText 1 1 " " := ⟨[], by decide, fun _ _ _ => rfl⟩
  have hbody := hguard.append
    ((leadsText_relation relation 1).append ((leadsText_quote literal 1).append hspace))
  apply leadsText_test _ hvalue
  simpa only [String.append_assoc] using hbody

theorem leadsText_orderedNumber (relation : Relation) {number : Double} {value : String}
    (h : number.isFinite = true) (hvalue : LeadsText 0 0 (value ++ ")")) :
    LeadsText 0 0 (orderedNumber value relation number) := by
  obtain ⟨negative, text, htext, _, hnumeral⟩ := exists_numeral h
  have hguard : LeadsText 1 1 "v = tonumber(v) return v ~= nil and v " :=
    ⟨assignTokens ++ guardTokens ++ [.name "v"], by decide, fun _ _ _ => rfl⟩
  have hsigned : isFlat (signed negative text) = true := by
    cases negative <;> rfl
  have hnumber : LeadsText 1 1 (number.plainText ++ " ") := by
    rw [htext, String.append_assoc]
    exact leadsText_of_isFlat (scans_signed hnumeral negative) hsigned 1
  have hbody := hguard.append ((leadsText_relation relation 1).append hnumber)
  apply leadsText_test _ hvalue
  simpa only [String.append_assoc] using hbody

end Script

open Script

theorem Comparison.leadsText_script {c : Comparison} {relation : Relation}
    (h : c.operator = .order relation) (marker : String) : LeadsText 0 0 (c.script marker) := by
  have hvalue : LeadsText 0 0 (c.target.script ++ ")") := leadsText_field c.target.segments_ne_nil
  unfold script
  simp only [h]
  cases hnumber : c.number? with
  | some number => exact leadsText_orderedNumber relation (isFinite_of_number? hnumber) hvalue
  | none => exact leadsText_orderedText relation c.literal hvalue

theorem Step.fieldsRead_testCode {c : Comparison} {relation : Relation} {marker : String}
    (hc : c.operator = .order relation) (hmarker : isName marker = true) :
    fieldsRead "record" (testCode c marker) = [Stage.nestField] := by
  obtain ⟨ts, hts, hleads⟩ := c.leadsText_script hc marker
  -- The test stands in a function whose parameter has the same name as that of the script.
  have houtside : outside "record" 0 (tokens (testCode c marker)) =
      (openingTokens marker).take 11 ++ (closingTokens marker).drop 1 := by
    calc outside "record" 0 (tokens (testCode c marker))
      _ = (openingTokens marker).take 11 ++ outside "record" 1 (ts ++ closingTokens marker) := by
        rw [tokens_testCode hmarker hts]
        rfl
      _ = (openingTokens marker).take 11 ++ (closingTokens marker).drop 1 := by
        rw [hleads "record" 0 (closingTokens marker)]
        rfl
  rw [fieldsRead, houtside]
  rfl

def accessorField (accessor : String) : String :=
  match accessor.toList with
  | '$' :: path => String.ofList (path.takeWhile (· != '['))
  | _ => accessor

/--
The fields of the record that decide what a stage does: that of its condition, those of its rules
for keeping records, and those that its script reads. Fields that are only moved or removed are not
read.
-/
def Stage.fieldsRead (stage : Stage) : List String :=
  (((stage.get? "Condition").bind conditionParts?).map (accessorField ·.2.1)).toList ++
    (((stage.get? "Regex").bind splitAtSpace?).map (·.1)).toList ++
    (((stage.get? "Exclude").bind splitAtSpace?).map (·.1)).toList ++
    ((stage.get? "code").map (Lua.fieldsRead "record")).getD []

theorem accessorField_eq_self {field : String} (h : '$' ∉ field.toList) :
    accessorField field = field := by
  unfold accessorField
  split
  . next path hpath => simp [hpath] at h
  . rfl

theorem accessorField_eq_nestField {accessor : String} {rest : List Char}
    (h : accessor.toList = "$record[".toList ++ rest) :
    accessorField accessor = Stage.nestField := by
  unfold accessorField
  rw [h]
  rfl

theorem accessorField_of_conditionParts? {rule rest : String} {more : List Char}
    (hrule : ' ' ∉ rule.toList) (h : rest.toList = "$record[".toList ++ more) :
    (conditionParts? (rule ++ (" " ++ rest))).map (fun parts => accessorField parts.2.1) =
      some Stage.nestField := by
  have hcut : rest.toList.takeWhile (· != ' ') =
      "$record[".toList ++ more.takeWhile (· != ' ') := by
    rw [h]
    rfl
  unfold conditionParts?
  rw [splitAtSpace?_append hrule]
  cases hsplit : splitAtSpace? rest with
  | none => simp [hsplit, accessorField_eq_nestField h]
  | some parts =>
    have haccessor : accessorField parts.1 = Stage.nestField := by
      unfold splitAtSpace? at hsplit
      split at hsplit
      . simp at hsplit
      . rw [← Option.some.inj hsplit, hcut]
        apply accessorField_eq_nestField
        rw [String.toList_ofList]
    simp [hsplit, haccessor]

namespace Condition

theorem text_eq_unmarked_iff (condition : Condition) (marker : String) :
    condition.text = "Key_does_not_exist " ++ marker ↔ condition = .unmarked marker := by
  constructor
  . intro h
    have hsplit : (condition.rule, condition.operand) = ("Key_does_not_exist", marker) := by
      apply Option.some.inj
      rw [← splitAtSpace?_text, h]
      exact (unmarked marker).splitAtSpace?_text
    cases condition with
    | unmarked m =>
      rw [Prod.mk.injEq] at hsplit
      rw [← hsplit.2]
      rfl
    | _ => simp [rule] at hsplit
  . rintro rfl
    rfl

def field : Condition → String
  | .unmarked marker => marker
  | _ => Stage.nestField

theorem accessorField_text (condition : Condition) (hspace : ' ' ∉ condition.field.toList)
    (hdollar : '$' ∉ condition.field.toList) :
    (conditionParts? condition.text).map (fun parts => accessorField parts.2.1) =
      some condition.field := by
  have haccessor : ∀ target : Target, ∃ more,
      target.accessor.toList = "$record[".toList ++ more := by
    intro target
    rw [Target.toList_accessor]
    cases hsegments : target.segments with
    | nil => exact absurd hsegments target.segments_ne_nil
    | cons s ss =>
      rw [Target.bracketed_cons]
      exact ⟨_, rfl⟩
  rw [text_eq_append]
  cases condition with
  | valueMatches target pattern =>
    obtain ⟨more, hmore⟩ := haccessor target
    apply accessorField_of_conditionParts? (space_not_mem_rule _)
    rw [operand, String.toList_append, hmore, List.append_assoc]
  | keyExists target =>
    obtain ⟨more, hmore⟩ := haccessor target
    exact accessorField_of_conditionParts? (space_not_mem_rule _) hmore
  | unmarked marker =>
    rw [field] at hspace hdollar ⊢
    rw [operand, conditionParts?_two (space_not_mem_rule _) hspace, Option.map_some,
      accessorField_eq_self hdollar]

end Condition

namespace Step

theorem fieldsRead_mark (tag : String) (condition : Condition) (marker : String)
    (hspace : ' ' ∉ condition.field.toList) (hdollar : '$' ∉ condition.field.toList) :
    ((mark condition marker).stage tag).fieldsRead = [condition.field] := by
  have hfield := condition.accessorField_text hspace hdollar
  simp [Stage.fieldsRead, get?_stage, options, valueAt?, hfield]

theorem fieldsRead_test (tag : String) {c : Comparison} {relation : Relation} {marker : String}
    (hc : c.operator = .order relation) (hmarker : isName marker = true) :
    ((test c marker).stage tag).fieldsRead = [Stage.nestField] := by
  have hcode := fieldsRead_testCode hc hmarker
  simp [Stage.fieldsRead, get?_stage, options, valueAt?, hcode]

theorem fieldsRead_select (tag : String) (exclude : Bool) {marker : String}
    (h : ' ' ∉ marker.toList) : ((select exclude marker).stage tag).fieldsRead = [marker] := by
  have hrule : splitAtSpace? (marker ++ " 1") = some (marker, "1") := splitAtSpace?_append h "1"
  cases exclude <;> simp [Stage.fieldsRead, get?_stage, options, valueAt?, hrule]

theorem fieldsRead_deciding (tag : String) (c : Comparison) {marker : String}
    (hmarker : isName marker = true) :
    ((c.deciding marker).stage tag).fieldsRead = [Stage.nestField] := by
  unfold Comparison.deciding
  cases hcondition : c.condition? with
  | some condition =>
    have hfield : condition.field = Stage.nestField := by
      rcases Comparison.eq_of_condition?_eq_some hcondition with ⟨pattern, rfl⟩ | rfl <;> rfl
    have hspace : ' ' ∉ condition.field.toList := by
      rw [hfield]
      decide
    have hdollar : '$' ∉ condition.field.toList := by
      rw [hfield]
      decide
    rw [← hfield]
    exact fieldsRead_mark tag condition marker hspace hdollar
  | none =>
    obtain ⟨relation, hc⟩ := Comparison.condition?_eq_none_iff.1 hcondition
    exact fieldsRead_test tag hc hmarker

end Step

end LogSieve

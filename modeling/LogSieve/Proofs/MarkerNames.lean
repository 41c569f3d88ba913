import LogSieve.Proofs.Envelope
import LogSieve.Proofs.Lua.Effects
import LogSieve.Proofs.ScriptTree
import LogSieve.Proofs.StepShape

/-!
This module contains the names of the markers that the stages for a tag set. Whatever the tag is, they
are identifiers of Lua, and a stage with a script declares the function that it calls.
-/

namespace LogSieve

open Lua

namespace Script

theorem isPure_stringTokens (ss : List String) : IsPure (stringTokens ss) := by
  induction ss with
  | nil => exact isPure_nil
  | cons s ss ih =>
    cases ss with
    | nil => exact isPure_string s
    | cons s' ss =>
      have hcomma : IsPure [.string s, .symbol ","] := ⟨by simp, fun _ => rfl, fun _ => rfl⟩
      exact hcomma.append ih

theorem isPureText_call : IsPureText "end)(" :=
  ⟨[.keyword "end", .symbol ")", .symbol "("], by decide, by decide, fun _ => rfl, fun _ => rfl⟩

theorem isPureText_test {body value : String} (hbody : IsPureText (body ++ " " ++ "end)("))
    (hvalue : IsPureText (value ++ ")")) : IsPureText (test body value) := by
  have hstart : IsPureText "(function(v) " :=
    ⟨[.symbol "(", .keyword "function", .symbol "(", .name "v", .symbol ")"], by decide,
      by decide, fun _ => rfl, fun _ => rfl⟩
  have htest := hstart.append (hbody.append hvalue)
  rw [test_eq]
  simpa only [String.append_assoc] using htest

theorem isPureText_field {path : List String} (h : path ≠ []) : IsPureText (field path ++ ")") := by
  match path with
  | [s] =>
    -- The bracket behind the key could end the target of an assignment.
    have hopening : Scans .idle "record[" [.name "record", .symbol "["] .idle := by decide
    have hclosing : Scans .idle ("]" ++ ")") [.symbol "]", .symbol ")"] .idle := by decide
    have hpure : IsPure ([.name "record", .symbol "["] ++ ([.string s] ++ [.symbol "]", .symbol ")"])) :=
      ⟨by simp, fun _ => rfl, fun _ => rfl⟩
    rw [field, String.append_assoc, String.append_assoc]
    exact ⟨_, hopening.append ((scans_quote s).append hclosing), hpure⟩
  | s :: s' :: ss =>
    have hcall : Scans .idle "end)(" [.keyword "end", .symbol ")", .symbol "("] .idle := by decide
    have hstart : IsPure loopStart := ⟨by decide, fun _ => rfl, fun _ => rfl⟩
    have hend : IsPure (loopEnd ++ [.keyword "end", .symbol ")", .symbol "("]) :=
      ⟨by decide, fun _ => rfl, fun _ => rfl⟩
    have hpure := (hstart.append (isPure_stringTokens (s :: s' :: ss))).append hend
    have hrecord : IsPureText "record)" :=
      ⟨[.name "record", .symbol ")"], by decide, by decide, fun _ => rfl, fun _ => rfl⟩
    have hclosing : IsPureText ")" := ⟨[.symbol ")"], by decide, by decide, fun _ => rfl, fun _ => rfl⟩
    rw [← List.append_assoc] at hpure
    rw [field_cons_cons]
    apply IsPureText.append _ hclosing
    exact isPureText_test ⟨_, (scans_pathLoop s (s' :: ss)).append hcall, hpure⟩ hrecord

theorem isPureText_orderedText (relation : Relation) (literal : String) {value : String}
    (hvalue : IsPureText (value ++ ")")) : IsPureText (orderedText value relation literal) := by
  have hguard : IsPureText "return v ~= nil and tostring(v) " :=
    ⟨guardTokens ++ [.name "tostring", .symbol "(", .name "v", .symbol ")"], by decide,
      by decide, fun _ => rfl, fun _ => rfl⟩
  have hrelation : IsPureText (relation.text ++ " ") :=
    ⟨_, (isComparison_relation relation).scans, by simp, fun _ => rfl, fun _ => rfl⟩
  have hspace : IsPureText " " := ⟨[], by decide, isPure_nil⟩
  have hbody := hguard.append
    (hrelation.append ((isPureText_quote literal).append (hspace.append isPureText_call)))
  apply isPureText_test _ hvalue
  simpa only [String.append_assoc] using hbody

theorem isPureText_orderedNumber (relation : Relation) {number : Double} {value : String}
    (h : number.isFinite = true) (hvalue : IsPureText (value ++ ")")) :
    IsPureText (orderedNumber value relation number) := by
  obtain ⟨negative, text, htext, _, hnumeral⟩ := exists_numeral h
  have hguard : Scans .idle "v = tonumber(v) return v ~= nil and v "
      (assignTokens ++ guardTokens ++ [.name "v"]) .idle := by
    decide
  -- The name could start the target of an assignment, if the relation did not follow it.
  have hpure : IsPure (assignTokens ++ guardTokens ++ [.name "v"] ++ [.symbol relation.text]) := by
    cases relation <;> exact ⟨by decide, fun _ => rfl, fun _ => rfl⟩
  have hstart : IsPureText ("v = tonumber(v) return v ~= nil and v " ++ (relation.text ++ " ")) :=
    ⟨_, hguard.append (isComparison_relation relation).scans, hpure⟩
  have hnumber : IsPureText (number.plainText ++ " ") := by
    rw [htext, String.append_assoc]
    exact ⟨_, scans_signed hnumeral negative, isPure_signed negative text⟩
  have hbody := hstart.append (hnumber.append isPureText_call)
  apply isPureText_test _ hvalue
  simpa only [String.append_assoc] using hbody

end Script

open Script

theorem Comparison.isPureText_script {c : Comparison} {relation : Relation}
    (h : c.operator = .order relation) (marker : String) : IsPureText (c.script marker) := by
  have hvalue : IsPureText (c.target.script ++ ")") := isPureText_field c.target.segments_ne_nil
  unfold script
  simp only [h]
  cases hnumber : c.number? with
  | some number => exact isPureText_orderedNumber relation (isFinite_of_number? hnumber) hvalue
  | none => exact isPureText_orderedText relation c.literal hvalue

namespace Step

def openingTokens (marker : String) : List Lua.Token :=
  [.keyword "function", .name marker, .symbol "(", .name "tag", .symbol ",", .name "timestamp",
    .symbol ",", .name "record", .symbol ")", .keyword "if", .symbol "(", .keyword "function",
    .symbol "(", .name "record", .symbol ")", .keyword "return"]

def closingTokens (marker : String) : List Lua.Token :=
  [.keyword "end", .symbol ")", .symbol "(", .name "record", .symbol "[", .string Stage.nestField,
    .symbol "]", .keyword "or", .symbol "\x7b", .symbol "\x7d", .symbol ")", .keyword "then",
    .name "record", .symbol "[", .string marker, .symbol "]", .symbol "=", .string "1",
    .keyword "return", .number "2", .symbol ",", .name "timestamp", .symbol ",", .name "record",
    .keyword "end", .keyword "return", .number "0", .symbol ",", .name "timestamp", .symbol ",",
    .name "record", .keyword "end"]

theorem scans_openingTokens {marker : String} (h : isName marker = true) :
    Scans .idle
      ("function " ++ (marker ++ "(" ++ "tag, timestamp, record) if (function(record) return "))
      (openingTokens marker) .idle := by
  have hfunction : Scans .idle "function " [.keyword "function"] .idle := by decide
  have hname : Scans .idle (marker ++ "(") [.name marker, .symbol "("] .idle :=
    scans_name_append h (c := '(') (by decide) (by decide)
  exact hfunction.append (hname.append (by decide))

theorem spells_closingTokens (marker : String) :
    Spells (" end)(record[" ++ (Script.quote Stage.nestField ++ ("] or \x7b\x7d) then record[" ++
      (Script.quote marker ++
        "] = \"1\" return 2, timestamp, record end return 0, timestamp, record end"))))
      (closingTokens marker) := by
  have hcall : Scans .idle " end)(record["
      [.keyword "end", .symbol ")", .symbol "(", .name "record", .symbol "["] .idle := by
    decide
  have hthen : Scans .idle "] or \x7b\x7d) then record["
      [.symbol "]", .keyword "or", .symbol "\x7b", .symbol "\x7d", .symbol ")", .keyword "then",
        .name "record", .symbol "["] .idle := by
    decide
  have hassign : Scans .idle "] = \"1\" return 2, timestamp, record end return 0, timestamp, record "
      [.symbol "]", .symbol "=", .string "1", .keyword "return", .number "2", .symbol ",",
        .name "timestamp", .symbol ",", .name "record", .keyword "end", .keyword "return",
        .number "0", .symbol ",", .name "timestamp", .symbol ",", .name "record"] .idle := by
    decide
  have hlast : Spells "end" [.keyword "end"] := ⟨by decide, by decide, by decide⟩
  have hend : "] = \"1\" return 2, timestamp, record end return 0, timestamp, record end" =
      "] = \"1\" return 2, timestamp, record end return 0, timestamp, record " ++ "end" := rfl
  simp only [hend, -String.reduceAppend]
  exact Spells.append hcall (Spells.append (scans_quote Stage.nestField)
    (Spells.append hthen (Spells.append (scans_quote marker) (Spells.append hassign hlast))))

theorem tokens_testCode {c : Comparison} {marker : String} {ts : List Lua.Token}
    (hmarker : isName marker = true) (hts : Scans .idle (c.script marker) ts .idle) :
    tokens (testCode c marker) = openingTokens marker ++ (ts ++ closingTokens marker) := by
  have htext : testCode c marker =
      ("function " ++ (marker ++ "(" ++ "tag, timestamp, record) if (function(record) return ")) ++
        (c.script marker ++ (" end)(record[" ++ (Script.quote Stage.nestField ++
          ("] or \x7b\x7d) then record[" ++ (Script.quote marker ++
            "] = \"1\" return 2, timestamp, record end return 0, timestamp, record end"))))) := by
    have hparen : "(tag, timestamp, record) if (function(record) return " =
        "(" ++ "tag, timestamp, record) if (function(record) return " := rfl
    unfold testCode
    simp only [hparen, String.append_assoc, -String.reduceAppend]
  rw [htext]
  exact (Spells.append (scans_openingTokens hmarker)
    (Spells.append hts (spells_closingTokens marker))).tokens_eq

theorem effects_testCode {c : Comparison} {relation : Relation} {marker : String}
    (hc : c.operator = .order relation) (hmarker : isName marker = true) :
    declaredFunctions (testCode c marker) = [marker] ∧
      assignedFields (testCode c marker) = [("record", marker)] ∧
      .invalid ∉ tokens (testCode c marker) := by
  obtain ⟨ts, hts, hpure⟩ := c.isPureText_script hc marker
  have htokens := tokens_testCode hmarker hts
  refine ⟨?_, ?_, ?_⟩
  . calc declaredFunctions (testCode c marker)
      _ = marker :: occurrences declaredFunction? (ts ++ closingTokens marker) := by
        rw [declaredFunctions, htokens]
        rfl
      _ = [marker] := by
        rw [hpure.declared]
        rfl
  . calc assignedFields (testCode c marker)
      _ = occurrences assignedField? (ts ++ closingTokens marker) := by
        rw [assignedFields, htokens]
        rfl
      _ = [("record", marker)] := by
        rw [hpure.assigned]
        rfl
  . have hopening : .invalid ∉ openingTokens marker := by simp [openingTokens]
    have hclosing : .invalid ∉ closingTokens marker := by simp [closingTokens]
    rw [htokens]
    simp [hopening, hpure.valid, hclosing]

end Step

/--
A stage that gives the name of a marker as one word of an option, or to the only function of a script
and to the only field that the script assigns to.
-/
inductive Stage.Names (marker : String) (stage : Stage) : Prop where
  | word (value : String) :
      stage.name? = some "modify" → stage.get? "Set" = some value →
      value.toList.splitOn ' ' = [marker.toList, ['1']] → Names marker stage
  | function (code : String) :
      stage.name? = some "lua" → stage.get? "call" = some marker → stage.get? "code" = some code →
      declaredFunctions code = [marker] → assignedFields code = [("record", marker)] →
      .invalid ∉ tokens code → Names marker stage

namespace Step

theorem names_mark (tag : String) (condition : Condition) {marker : String}
    (h : ' ' ∉ marker.toList) : ((mark condition marker).stage tag).Names marker := by
  have hsplit : (marker ++ " 1").toList.splitOn ' ' = [marker.toList, ['1']] := by
    rw [String.toList_append]
    exact List.splitOn_append_cons_self_of_not_mem h ['1']
  exact .word (marker ++ " 1") (get?_stage tag _ "Name") (get?_stage tag _ "Set") hsplit

theorem names_test (tag : String) {c : Comparison} {relation : Relation} {marker : String}
    (hc : c.operator = .order relation) (hmarker : isName marker = true) :
    ((test c marker).stage tag).Names marker := by
  obtain ⟨hdeclared, hassigned, hvalid⟩ := effects_testCode hc hmarker
  exact .function (testCode c marker) (get?_stage tag _ "Name") (get?_stage tag _ "call")
    (get?_stage tag _ "code") hdeclared hassigned hvalid

theorem names_deciding (tag : String) (c : Comparison) {marker : String}
    (hmarker : isName marker = true) (hspace : ' ' ∉ marker.toList) :
    ((c.deciding marker).stage tag).Names marker := by
  unfold Comparison.deciding
  cases hcondition : c.condition? with
  | some condition => exact names_mark tag condition hspace
  | none =>
    obtain ⟨relation, hc⟩ := Comparison.condition?_eq_none_iff.1 hcondition
    exact names_test tag hc hmarker

end Step

namespace Pipeline

theorem isName_of_atOrInScope {tag marker : String} (h : AtOrInScope (tagMarker tag) marker) :
    isName marker = true := by
  have hparts : ∀ c ∈ marker.toList, isMarkerPart c = true := by
    intro c hc
    rw [← Bool.not_eq_false]
    intro hpart
    exact not_mem_of_atOrInScope h hpart hc
  obtain ⟨cs, hcs⟩ : ∃ cs, marker.toList = '_' :: cs := by
    obtain ⟨rest, hrest⟩ := h.isPrefix
    rw [← hrest, tagMarker, String.toList_append]
    exact ⟨_, rfl⟩
  have hkeyword : Script.keywords.contains marker = false := by
    have hstarts : (Script.keywords.all fun keyword => keyword.toList.head? != some '_') = true := by
      decide
    rw [← Bool.not_eq_true, List.contains_iff_mem]
    intro hmem
    simpa [hcs] using List.all_eq_true.1 hstarts marker hmem
  have hrest : cs.all (fun c => c.isAlphanum || c == '_') = true := by
    rw [List.all_eq_true]
    intro c hc
    exact hparts c (by simp [hcs, hc])
  unfold isName
  simp only [hcs, hkeyword, hrest]
  rfl

/--
Whatever the tag is, the stages between those that frame them set markers whose names are identifiers
and single words.
-/
theorem exists_isName_names_components (tag : String) (filters : List Filter) (exclude : Bool) :
    ∃ inner,
      components tag filters exclude =
        Stage.nest tag :: (inner ++
          [(Step.select exclude (tagMarker tag)).stage tag, (Step.sweep (tagMarker tag)).stage tag,
            Stage.lift tag]) ∧
      ∀ stage ∈ inner, ∃ marker,
        Script.isName marker = true ∧ ' ' ∉ marker.toList ∧ stage.Names marker := by
  refine ⟨tagStages tag filters, components_eq tag filters exclude, ?_⟩
  intro stage hstage
  obtain ⟨step, hstep, rfl⟩ := List.mem_map.1 hstage
  cases decides_of_mem_tagSteps tag filters hstep with
  | @comparison c marker _ hscope =>
    have hname : isName marker = true := isName_of_atOrInScope hscope
    have hspace : ' ' ∉ marker.toList := not_mem_of_atOrInScope hscope (by decide)
    exact ⟨marker, hname, hspace, Step.names_deciding tag c hname hspace⟩
  | @missing inner marker _ hscope =>
    have hspace : ' ' ∉ marker.toList := not_mem_of_atOrInScope hscope (by decide)
    exact ⟨marker, isName_of_atOrInScope hscope, hspace, Step.names_mark tag _ hspace⟩

end Pipeline

end LogSieve

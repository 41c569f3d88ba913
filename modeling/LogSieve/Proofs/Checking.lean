import Mathlib
import LogSieve.Command.Run
import LogSieve.Proofs.PatternTable
import LogSieve.Proofs.TrailingGap

/-!
This module contains what a check makes of a file. It keeps lines of the file in their order, and a
check of the lines that are kept finds the same records again, although a line can lose a carriage
return on the way.
-/

namespace LogSieve

namespace Text

def withoutReturn (line : List Char) : List Char := lines.ended line.reverse

theorem eq_withoutReturn_or (line : List Char) :
    line = withoutReturn line ∨ line = withoutReturn line ++ ['\r'] := by
  unfold withoutReturn lines.ended
  split
  . next part hpart =>
    right
    simpa using congrArg List.reverse hpart
  . left
    simp

theorem apply_withoutReturn {α : Type} {f : List Char → α}
    (h : ∀ line, f (line ++ ['\r']) = f line) (line : List Char) :
    f (withoutReturn line) = f line := by
  rcases eq_withoutReturn_or line with hline | hline
  . rw [← hline]
  . conv =>
      rhs
      rw [hline, h]

theorem lines.go_append {line : List Char} (h : '\n' ∉ line) (part rest : List Char) :
    go part (line ++ rest) = go (line.reverse ++ part) rest := by
  induction line generalizing part with
  | nil => rfl
  | cons c line ih =>
    rw [List.mem_cons, not_or] at h
    rw [List.cons_append, go, if_neg (Ne.symm h.1), ih h.2]
    simp

theorem lines_append_feed {line : List Char} (h : '\n' ∉ line) (rest : List Char) :
    lines (line ++ '\n' :: rest) = withoutReturn line :: lines rest := by
  rw [lines, lines.go_append h, lines.go, if_pos rfl, List.append_nil]
  rfl

theorem lines_of_feeds {kept : List (List Char)} (h : ∀ line ∈ kept, '\n' ∉ line) :
    lines (kept.flatMap (· ++ ['\n'])) = kept.map withoutReturn := by
  induction kept with
  | nil => rfl
  | cons line kept ih =>
    rw [List.forall_mem_cons] at h
    rw [List.flatMap_cons, List.append_assoc, List.singleton_append, lines_append_feed h.1, ih h.2,
      List.map_cons]

theorem lines.not_mem_ended {part : List Char} (h : '\n' ∉ part) : '\n' ∉ ended part := by
  unfold ended
  split
  . simpa using h
  . simpa using h

theorem lines.not_mem_of_mem_go {part cs line : List Char} (hpart : '\n' ∉ part)
    (hline : line ∈ go part cs) : '\n' ∉ line := by
  induction cs generalizing part with
  | nil =>
    unfold go at hline
    split at hline
    . simp at hline
    . rw [List.mem_singleton] at hline
      simpa [hline] using hpart
  | cons c cs ih =>
    unfold go at hline
    split at hline
    . rcases List.mem_cons.1 hline with rfl | hline
      . exact not_mem_ended hpart
      . exact ih List.not_mem_nil hline
    . next hc =>
      have hpart' : '\n' ∉ c :: part := by simp [hpart, Ne.symm hc]
      exact ih hpart' hline

end Text

/--
A carriage return is a blank of JSON, so one behind a text does not matter to a reader of JSON.
-/
def Libraries.IgnoresReturns (libraries : Libraries) : Prop :=
  ∀ text, libraries.readJson? (text ++ "\r") = libraries.readJson? text

theorem Libraries.ignoresReturns_standard : standard.IgnoresReturns := by
  intro text
  have hread : standard.readJson? = Value.ofText? := rfl
  have htext : text ++ "\r" = String.ofList (text.toList ++ ['\r']) := by
    rw [← String.toList_inj]
    simp
  rw [hread, htext, Value.ofText?_append_return, String.ofList_toList]

namespace Run

variable (libraries : Libraries)

def recordOf? (line : List Char) : Option Value := libraries.readJson? (String.ofList line)

def keeps (f : Filter) (line : List Char) : Bool :=
  !Text.isBlankLine line &&
    (recordOf? libraries line).any fun record => f.accepts record libraries.patterns

def kept (f : Filter) (cs : List Char) : List (List Char) :=
  (Text.lines cs).filter (keeps libraries f)

def records (lines : List (List Char)) : List Value := lines.filterMap (recordOf? libraries)

def withFeeds (lines : List (List Char)) : String :=
  String.join (lines.map fun line => String.ofList line ++ "\n")

theorem toList_withFeeds (lines : List (List Char)) :
    (withFeeds lines).toList = lines.flatMap (· ++ ['\n']) := by
  simp [withFeeds, List.flatMap_map]

variable {libraries} {f : Filter}

theorem isSome_recordOf?_of_keeps {line : List Char} (h : keeps libraries f line = true) :
    (recordOf? libraries line).isSome = true := by
  unfold keeps at h
  cases hrecord : recordOf? libraries line with
  | none => simp [hrecord] at h
  | some record => rfl

theorem map_some_records_kept (cs : List Char) :
    (records libraries (kept libraries f cs)).map some =
      (kept libraries f cs).map (recordOf? libraries) := by
  rw [records, List.map_filterMap_some_eq_filter_map_isSome, List.filter_eq_self]
  intro record? hrecord
  obtain ⟨line, hline, rfl⟩ := List.mem_map.1 hrecord
  exact isSome_recordOf?_of_keeps (List.mem_filter.1 hline).2

theorem accepted_recordLines (contents : String) :
    accepted (Matcher.ofFilter f libraries.patterns).accepts
        (recordLines libraries.readJson? contents) =
      (kept libraries f contents.toList).filterMap fun line =>
        (recordOf? libraries line).map fun record => (String.ofList line, record) := by
  unfold accepted recordLines kept
  rw [List.filterMap_filterMap, List.filterMap_filter]
  -- The numbers of the lines are for the log and do not matter here.
  conv =>
    rhs
    rw [← List.zipIdx_map_fst 0 (Text.lines contents.toList), List.filterMap_map]
  congr 1
  funext (line, i)
  rw [Function.comp_apply, keeps, recordOf?]
  dsimp only
  cases Text.isBlankLine line with
  | true => rfl
  | false =>
    cases libraries.readJson? (String.ofList line) with
    | none => rfl
    | some record => rfl

section

variable {text : String} (hfilter : Filter.ofText text = .ok f) {files : Files}
  {file contents : String} (hfile : files file = .ok contents)
include hfilter hfile

theorem result_check (format : Format) :
    (check files text file format libraries).result =
      .ok (checkOutput libraries.printJson format
        (accepted (Matcher.ofFilter f libraries.patterns).accepts
          (recordLines libraries.readJson? contents))) := by
  simp only [check, hfilter, hfile]

theorem result_check_text :
    (check files text file .text libraries).result =
      .ok (withFeeds (kept libraries f contents.toList)) := by
  rw [result_check hfilter hfile, checkOutput, accepted_recordLines, List.map_filterMap, withFeeds]
  congr 2
  rw [List.filterMap_eq_map_iff_forall_eq_some]
  intro line hline
  obtain ⟨record, hrecord⟩ := Option.isSome_iff_exists.1
    (isSome_recordOf?_of_keeps (List.mem_filter.1 hline).2)
  rw [hrecord]
  rfl

theorem result_check_json :
    (check files text file .json libraries).result =
      .ok (libraries.printJson (.list (records libraries (kept libraries f contents.toList)))) := by
  rw [result_check hfilter hfile, checkOutput, accepted_recordLines, List.map_filterMap, records]
  simp only [Option.map_map, Function.comp_def, Option.map_id']

end

section

variable (hreturns : libraries.IgnoresReturns)
include hreturns

theorem recordOf?_append_return (line : List Char) :
    recordOf? libraries (line ++ ['\r']) = recordOf? libraries line := by
  rw [recordOf?, recordOf?, String.ofList_append]
  exact hreturns _

theorem keeps_append_return (f : Filter) (line : List Char) :
    keeps libraries f (line ++ ['\r']) = keeps libraries f line := by
  have hblank : Text.isBlankLine (line ++ ['\r']) = Text.isBlankLine line := by
    have hreturn : Text.isBlank '\r' = true := by decide
    simp only [Text.isBlankLine, List.all_append, List.all_cons, List.all_nil, hreturn,
      Bool.and_true]
  rw [keeps, keeps, hblank, recordOf?_append_return hreturns]

theorem records_kept_withFeeds (f : Filter) (cs : List Char) :
    records libraries (kept libraries f (withFeeds (kept libraries f cs)).toList) =
      records libraries (kept libraries f cs) := by
  have hfeeds : ∀ line ∈ kept libraries f cs, '\n' ∉ line := by
    intro line hline
    exact Text.lines.not_mem_of_mem_go List.not_mem_nil (List.mem_filter.1 hline).1
  have hkeeps : keeps libraries f ∘ Text.withoutReturn = keeps libraries f :=
    funext (Text.apply_withoutReturn (keeps_append_return hreturns f))
  have hrecords : recordOf? libraries ∘ Text.withoutReturn = recordOf? libraries :=
    funext (Text.apply_withoutReturn (recordOf?_append_return hreturns))
  have hkept : (kept libraries f cs).filter (keeps libraries f) = kept libraries f cs := by
    rw [kept, List.filter_filter]
    simp only [Bool.and_self]
  rw [kept, toList_withFeeds, Text.lines_of_feeds hfeeds, List.filter_map, hkeeps, hkept, records,
    List.filterMap_map, hrecords]
  rfl

/--
A check of a file makes a text of the lines that it keeps, in the order of the file and each with a
line feed behind it, or prints the list of their records. A check of that text prints the same list.
-/
theorem check_of_checked {text : String} (hfilter : Filter.ofText text = .ok f) {files : Files}
    {file contents : String} (hfile : files file = .ok contents) :
    let lines := (Text.lines contents.toList).filter fun line =>
      !Text.isBlankLine line && (libraries.readJson? (String.ofList line)).any fun record =>
        f.accepts record libraries.patterns
    ∃ records : List Value,
      records.map some = lines.map (fun line => libraries.readJson? (String.ofList line)) ∧
      (check files text file .text libraries).result =
        .ok (String.join (lines.map fun line => String.ofList line ++ "\n")) ∧
      (check files text file .json libraries).result = .ok (libraries.printJson (.list records)) ∧
      ∀ (output : String) (files' : Files) (file' : String),
        (check files text file .text libraries).result = .ok output → files' file' = .ok output →
          (check files' text file' .json libraries).result =
            (check files text file .json libraries).result := by
  intro lines
  refine ⟨records libraries lines, map_some_records_kept contents.toList,
    result_check_text hfilter hfile, result_check_json hfilter hfile, ?_⟩
  intro output files' file' houtput hfile'
  rw [result_check_text hfilter hfile, Except.ok.injEq] at houtput
  rw [← houtput] at hfile'
  rw [result_check_json hfilter hfile', result_check_json hfilter hfile,
    records_kept_withFeeds hreturns]

end

theorem check_of_checked_returns :
    let files : Files := fun _ => .ok
      "\x7b\"a\": 1\x7d\r\r\r\n \n\x7b\n\x7b\"a\": 2\x7d\n\x7b\"a\":1,\"b\":[true]\x7d"
    let output := "\x7b\"a\": 1\x7d\r\r\n\x7b\"a\":1,\"b\":[true]\x7d\n"
    let printed := "[\n  \x7b\n    \"a\": 1\n  \x7d,\n  \x7b\n    \"a\": 1,\n    \"b\": [\n      " ++
      "true\n    ]\n  \x7d\n]"
    Libraries.standard.IgnoresReturns ∧ (Filter.ofText "a = 1").isOk = true ∧
      (check files "a = 1" "records" .text).result = .ok output ∧
      (check files "a = 1" "records" .json).result = .ok printed ∧
      (check (fun _ => .ok output) "a = 1" "kept" .json).result = .ok printed := by
  intro files output printed
  have hreturns := Libraries.ignoresReturns_standard
  have hfilter : Filter.ofText "a = 1" = .ok ⟨.leaf ⟨⟨["a"], by simp, by simp⟩, .equal, "1"⟩⟩ := by
    cbv
  have hfile : files "records" = .ok _ := rfl
  obtain ⟨_, _, htext, _, hagain⟩ := check_of_checked hreturns hfilter hfile
  have houtput : (check files "a = 1" "records" .text).result = .ok output := by
    rw [htext, Except.ok.injEq]
    decide +kernel
  have hprinted : (check files "a = 1" "records" .json).result = .ok printed := by
    rw [result_check_json hfilter hfile, Except.ok.injEq]
    decide +kernel
  refine ⟨hreturns, by rw [hfilter]; rfl, houtput, hprinted, ?_⟩
  rw [hagain output _ "kept" houtput rfl, hprinted]

theorem logs_check {text : String} (hfilter : Filter.ofText text = .ok f) (files : Files)
    (file : String) (format : Format) :
    (Matcher.ofFilter f libraries.patterns).invalid.map invalidPatternLog <+:
        (check files text file format libraries).logs ∧
      ∀ fault, files file = .error fault →
        (check files text file format libraries).logs =
          (Matcher.ofFilter f libraries.patterns).invalid.map invalidPatternLog := by
  constructor
  . cases hfile : files file with
    | error fault => simp [check, hfilter, hfile]
    | ok contents => simp [check, hfilter, hfile]
  . intro fault hfile
    simp [check, hfilter, hfile]

end Run

/--
Whatever the patterns mean, those that are read once for all records are as good as patterns that are
read wherever they stand. Each invalid pattern is reported once, with the first comparison that uses
it.
-/
theorem Filter.accepts_and_warnings (libraries : Libraries) (f : Filter) :
    let language := libraries.patterns
    let m := Matcher.ofFilter f language
    let warnings := m.invalid.map fun c =>
      LogEntry.mk .warn ("invalid regex '" ++ c.literal ++ "' for field " ++ c.target.text)
    (∀ record, m.accepts record = f.expr.holds (Comparison.holds language.occurs record)) ∧
    (∀ (c : Comparison) record, language c.literal = none →
      (c.operator = .like → c.holds language.occurs record = false) ∧
        (c.operator = .unlike → c.holds language.occurs record = true)) ∧
    (∀ (filters : List Filter) record, (anyOf filters).accepts record language = true ↔
      ∃ g ∈ filters, g.accepts record language = true) ∧
    (∀ literal, m.invalid.filter (·.literal == literal) =
      if language literal = none then (f.expr.leaves.find? (Matcher.uses literal)).toList else []) ∧
    (∀ (files : Files) (text file : String) (format : Format), Filter.ofText text = .ok f →
      warnings <+: (Run.check files text file format libraries).logs ∧
        ∀ fault, files file = .error fault →
          (Run.check files text file format libraries).logs = warnings) := by
  intro language m warnings
  refine ⟨accepts_eq_holds language f, ?_, ?_, Matcher.filter_invalid_ofFilter language f, ?_⟩
  . intro c record hinvalid
    have hoccurs : ∀ text, language.occurs c.literal text = false := by
      intro text
      simp [PatternLanguage.occurs, hinvalid]
    constructor
    . intro hlike
      simp [Comparison.holds, hlike, hoccurs]
    . intro hunlike
      simp [Comparison.holds, hunlike, hoccurs]
  . intro filters record
    rw [accepts_anyOf, List.any_eq_true]
  . intro files text file format hfilter
    exact Run.logs_check hfilter files file format

end LogSieve

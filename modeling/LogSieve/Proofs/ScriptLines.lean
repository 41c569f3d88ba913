import LogSieve.Proofs.LineFeeds
import LogSieve.Proofs.Named
import LogSieve.Script.Name

/-!
This module contains the lines of the script of named filters: one for each filter, from which its
name and its expression are read back, and those of the cleanup if there is one.
-/

namespace LogSieve

theorem splitOn_flatMap_append {lines : List (List Char)} (h : ∀ line ∈ lines, '\n' ∉ line)
    (rest : List Char) :
    (lines.flatMap (· ++ ['\n']) ++ rest).splitOn '\n' = lines ++ rest.splitOn '\n' := by
  induction lines with
  | nil => rfl
  | cons line lines ih =>
    rw [List.forall_mem_cons] at h
    have hline : ∀ c ∈ line, (c == '\n') = false := by
      intro c hc
      rw [beq_eq_false_iff_ne]
      rintro rfl
      exact h.1 hc
    have hrest := ih h.2
    rw [List.splitOn_eq_splitOnP] at hrest ⊢
    rw [List.flatMap_cons, List.append_assoc, List.append_assoc, List.singleton_append,
      List.splitOnP_append_cons_of_forall_mem hline '\n' (by decide), hrest, List.cons_append]

namespace Script

theorem isWordPart_of_isName {name : String} (h : isName name = true) :
    ∀ c ∈ name.toList, Lua.State.isWordPart c = true := by
  obtain ⟨c, cs, hname, hc, hcs, _⟩ := Lua.exists_of_isName h
  rw [hname, List.forall_mem_cons]
  refine ⟨?_, hcs⟩
  simp only [Lua.State.isWordStart, Bool.or_eq_true] at hc
  simp only [Lua.State.isWordPart, Char.isAlphanum, Bool.or_eq_true]
  exact hc.elim (fun hc => .inl (.inl hc)) .inr

theorem not_mem_of_isName {name : String} (h : isName name = true) {c : Char}
    (hc : Lua.State.isWordPart c = false) : c ∉ name.toList := by
  intro hmem
  rw [isWordPart_of_isName h c hmem] at hc
  contradiction

def binding? (line : String) : Option (String × String) :=
  match splitAtSpace? line with
  | some ("local", rest) =>
    match splitAtSpace? rest with
    | some (name, rest) =>
      match splitAtSpace? rest with
      | some ("=", e) => some (name, e)
      | _ => none
    | none => none
  | _ => none

def leadingBindings : List String → List (String × String)
  | [] => []
  | line :: lines =>
    match binding? line with
    | some binding => binding :: leadingBindings lines
    | none => []

/--
The bindings at the beginning of a script, which is divided at its line feeds.
-/
def readBindings (script : String) : List (String × String) :=
  leadingBindings ((script.toList.splitOn '\n').map String.ofList)

theorem binding?_eq {name : String} (h : ' ' ∉ name.toList) (e : String) :
    binding? ("local " ++ name ++ " = " ++ e) = some (name, e) := by
  have htext : "local " ++ name ++ " = " ++ e =
      "local" ++ (" " ++ (name ++ (" " ++ ("=" ++ (" " ++ e))))) := by
    have hlocal : "local " = "local" ++ " " := rfl
    have hequals : " = " = " " ++ ("=" ++ " ") := rfl
    rw [hlocal, hequals]
    simp only [String.append_assoc]
  have hlocal := splitAtSpace?_append (a := "local") (by decide)
    (name ++ (" " ++ ("=" ++ (" " ++ e))))
  have hequals := splitAtSpace?_append (a := "=") (by decide) e
  rw [htext, binding?, hlocal]
  simp only [splitAtSpace?_append h, hequals]

theorem leadingBindings_append {lines rest : List String} {bindings : List (String × String)}
    (h : lines.map binding? = bindings.map some) :
    leadingBindings (lines ++ rest) = bindings ++ leadingBindings rest := by
  induction lines generalizing bindings with
  | nil =>
    rw [List.map_nil, eq_comm, List.map_eq_nil_iff] at h
    rw [h]
    rfl
  | cons line lines ih =>
    cases bindings with
    | nil => simp at h
    | cons binding bindings =>
      simp only [List.map_cons, List.cons.injEq] at h
      rw [List.cons_append, leadingBindings, h.1]
      simp only [ih h.2, List.cons_append]

theorem newline_not_mem_joined {connective neutral : String} {es : List String}
    (hconnective : '\n' ∉ connective.toList) (hneutral : '\n' ∉ neutral.toList)
    (hes : ∀ e ∈ es, '\n' ∉ e.toList) : '\n' ∉ (joined connective neutral es).toList := by
  unfold joined
  split
  . exact hneutral
  . simp only [String.toList_append, String.toList_intercalate, List.mem_append, not_or]
    refine ⟨⟨by simp, ?_⟩, by simp⟩
    apply not_mem_intercalate
    . simp [hconnective]
    . simpa using hes

end Script

namespace Expr

mutual

theorem newline_not_mem_script (key : String) (e : Expr) : '\n' ∉ (e.script key).toList := by
  match e with
  | .leaf c => exact c.newline_not_mem_script key
  | .not e => simp [script, Script.negated, newline_not_mem_script key e]
  | .all es =>
    apply Script.newline_not_mem_joined (by decide) (by decide)
    exact newline_not_mem_scripts key 0 es
  | .any es =>
    apply Script.newline_not_mem_joined (by decide) (by decide)
    exact newline_not_mem_scripts key 0 es

theorem newline_not_mem_scripts (key : String) (i : Nat) (es : List Expr) :
    ∀ e ∈ scripts key i es, '\n' ∉ e.toList := by
  match es with
  | [] => simp [scripts]
  | e :: es =>
    rw [scripts, List.forall_mem_cons]
    exact ⟨newline_not_mem_script (childKey key i) e, newline_not_mem_scripts key (i + 1) es⟩

end

end Expr

namespace Pipeline

def hasPattern (fs : List (String × Filter)) : Bool :=
  fs.any fun f => f.2.expr.leaves.any (·.operator.isPattern)

theorem namedSteps_isEmpty (fs : List (String × Filter)) :
    (namedSteps 0 fs).isEmpty = !hasPattern fs := by
  rw [Bool.eq_iff_iff, List.isEmpty_iff, namedSteps_eq_nil_iff]
  simp [hasPattern]

theorem bindings_eq_mapIdx (i : Nat) (fs : List (String × Filter)) :
    bindings i fs = fs.mapIdx fun j f => (f.1, f.2.expr.script (namedKey (i + j))) := by
  induction fs generalizing i with
  | nil => rfl
  | cons f fs ih =>
    rw [bindings, ih, List.mapIdx_cons]
    simp only [Nat.add_zero, Nat.add_assoc, Nat.add_comm 1]

theorem map_fst_bindings (i : Nat) (fs : List (String × Filter)) :
    (bindings i fs).map (·.1) = fs.map (·.1) := by
  induction fs generalizing i with
  | nil => rfl
  | cons f fs ih =>
    rw [bindings, List.map_cons, ih]
    rfl

theorem newline_not_mem_bindings (i : Nat) (fs : List (String × Filter)) :
    ∀ b ∈ bindings i fs, '\n' ∉ b.2.toList := by
  induction fs generalizing i with
  | nil => simp [bindings]
  | cons f fs ih =>
    rw [bindings, List.forall_mem_cons]
    exact ⟨f.2.expr.newline_not_mem_script (namedKey i), ih (i + 1)⟩

theorem named_script (tag : String) (filters : OrderedMap Filter) :
    (named tag filters).2 = String.join ((bindings 0 filters.entries).map bindingLine) ++
      if hasPattern filters.entries then cleanup else "" := by
  rw [named_eq_of_steps rfl, namedSteps_isEmpty, ← localLines_eq_join]
  cases hasPattern filters.entries with
  | true => rfl
  | false => simp

def lineText (b : String × String) : String := "local " ++ b.1 ++ " = " ++ b.2

theorem toList_join_bindingLine (bs : List (String × String)) :
    (String.join (bs.map bindingLine)).toList =
      (bs.map fun b => (lineText b).toList).flatMap (· ++ ['\n']) := by
  simp [String.toList_join, List.flatMap_map, bindingLine, lineText]

section

variable {filters : OrderedMap Filter}

theorem isName_of_mem_bindings (hnames : ∀ name ∈ filters.keys, Script.isName name = true) :
    ∀ b ∈ bindings 0 filters.entries, Script.isName b.1 = true := by
  intro b hb
  apply hnames
  have hmem := List.mem_map_of_mem (f := (·.1)) hb
  rwa [map_fst_bindings] at hmem

theorem splitOn_script (tag : String)
    (hnames : ∀ name ∈ filters.keys, Script.isName name = true) :
    (named tag filters).2.toList.splitOn '\n' =
      ((bindings 0 filters.entries).map fun b => (lineText b).toList) ++
        (if hasPattern filters.entries then cleanup else "").toList.splitOn '\n' := by
  rw [named_script, String.toList_append, toList_join_bindingLine]
  apply splitOn_flatMap_append
  rw [List.forall_mem_map]
  intro b hb
  have hname : '\n' ∉ b.1.toList :=
    Script.not_mem_of_isName (isName_of_mem_bindings hnames b hb) (by decide)
  simp [lineText, hname, newline_not_mem_bindings 0 filters.entries b hb]

theorem readBindings_script (tag : String)
    (hnames : ∀ name ∈ filters.keys, Script.isName name = true) :
    Script.readBindings (named tag filters).2 = bindings 0 filters.entries := by
  have hlines : (((bindings 0 filters.entries).map fun b => (lineText b).toList).map
      String.ofList).map Script.binding? = (bindings 0 filters.entries).map some := by
    rw [List.map_map, List.map_map]
    apply List.map_congr_left
    intro b hb
    have hspace : ' ' ∉ b.1.toList :=
      Script.not_mem_of_isName (isName_of_mem_bindings hnames b hb) (by decide)
    rw [Function.comp, Function.comp, String.ofList_toList]
    exact Script.binding?_eq hspace b.2
  -- Behind the bindings there is nothing, or a blank line before the cleanup.
  have hrest : Script.leadingBindings (((if hasPattern filters.entries then cleanup else
      "").toList.splitOn '\n').map String.ofList) = [] := by
    cases hasPattern filters.entries <;> decide +kernel
  rw [Script.readBindings, splitOn_script tag hnames, List.map_append,
    Script.leadingBindings_append hlines, hrest, List.append_nil]

end

/--
The script of filters with the names of variables has one line for each of them, in the order of
their names, and the lines of a loop that removes all markers if and only if there is a pattern. As no
expression holds a line feed, names and expressions are read back from the lines.
-/
theorem readBindings_named (tag : String) (filters : OrderedMap Filter)
    (hnames : ∀ name ∈ filters.keys, Script.isName name = true) :
    let script := (named tag filters).2
    let bound := filters.entries.mapIdx fun i f => (f.1, f.2.expr.script (namedKey i))
    let loop := ["", "for k, v in pairs(record) do", "  if string.match(k, \"^__match_.+\") then",
      "    record[k] = nil", "  end", "end"]
    let ending := if hasPattern filters.entries then loop else []
    script = String.join (bound.map fun b => "local " ++ b.1 ++ " = " ++ b.2 ++ "\n") ++
      String.join (ending.map fun line => line ++ "\n") ∧
    (∀ b ∈ bound, '\n' ∉ b.2.toList) ∧
    script.toList.splitOn '\n' =
      (bound.map fun b => ("local " ++ b.1 ++ " = " ++ b.2).toList) ++ ending.map String.toList ++
        [[]] ∧
    Script.readBindings script = bound ∧
    ((Script.readBindings script).map (·.1)).Pairwise (· < ·) := by
  intro script bound loop ending
  have hbound : bound = bindings 0 filters.entries := by
    rw [bindings_eq_mapIdx]
    simp only [Nat.zero_add]
    rfl
  have hread : Script.readBindings script = bound := by
    rw [hbound]
    exact readBindings_script tag hnames
  have hending : (if hasPattern filters.entries then cleanup else "") =
      String.join (ending.map fun line => line ++ "\n") := by
    unfold ending
    cases hasPattern filters.entries <;> decide
  have hlines : (if hasPattern filters.entries then cleanup else "").toList.splitOn '\n' =
      ending.map String.toList ++ [[]] := by
    unfold ending
    cases hasPattern filters.entries <;> decide +kernel
  refine ⟨?_, ?_, ?_, hread, ?_⟩
  . rw [hbound, ← hending]
    exact named_script tag filters
  . rw [hbound]
    exact newline_not_mem_bindings 0 filters.entries
  . rw [hbound, List.append_assoc, ← hlines]
    exact splitOn_script tag hnames
  . rw [hread, hbound, map_fst_bindings, List.pairwise_map]
    exact filters.keysIncrease

theorem readBindings_named_lineFeeds :
    let text : Comparison := ⟨⟨["a\nlocal b", "c"], by decide, by decide⟩, .equal, "x\ny = 1"⟩
    let order : Comparison := ⟨⟨["b"], by decide, by decide⟩, .order .lt, "2.5"⟩
    let message : Comparison := ⟨⟨["m"], by decide, by decide⟩, .unlike, "^\n"⟩
    let filters : OrderedMap Filter :=
      (OrderedMap.empty.insert "slow_1" ⟨.any [.leaf order, .not (.leaf message)]⟩).insert
        "_same" ⟨.leaf text⟩
    (∀ name ∈ filters.keys, Script.isName name = true) ∧ hasPattern filters.entries = true ∧
      (Script.readBindings (named "app" filters).2).map (·.1) = ["_same", "slow_1"] ∧
      (((named "app" filters).2.toList.splitOn '\n').drop 2).map String.ofList =
        ["", "for k, v in pairs(record) do", "  if string.match(k, \"^__match_.+\") then",
          "    record[k] = nil", "  end", "end", ""] := by
  intro text order message filters
  have hnames : ∀ name ∈ filters.keys, Script.isName name = true := by decide
  obtain ⟨_, _, hlines, hread, _⟩ := readBindings_named "app" filters hnames
  refine ⟨hnames, by decide, ?_, ?_⟩
  . rw [hread]
    rfl
  . rw [hlines]
    rfl

end Pipeline

end LogSieve

import LogSieve.Stage.Basic

/-!
This module contains the lines of rendered stages: a line with the kind of a stage, a line for each
of its options, and a blank line between two stages.
-/

namespace LogSieve

theorem not_mem_of_mem_splitOn {x : Char} {cs part : List Char} (h : part ∈ cs.splitOn x) :
    x ∉ part := by
  rw [List.splitOn_eq_splitOnP] at h
  induction cs generalizing part with
  | nil =>
    simp only [List.splitOnP_nil, List.mem_singleton] at h
    simp [h]
  | cons c cs ih =>
    rw [List.splitOnP_cons_eq_if_modifyHead] at h
    split at h
    . rcases List.mem_cons.1 h with rfl | h
      . simp
      . exact ih h
    . next hc =>
      -- The first part of the rest goes on to the left, all others stay.
      cases hparts : cs.splitOnP (· == x) with
      | nil => simp [hparts] at h
      | cons first parts =>
        simp only [hparts, List.modifyHead_cons, List.mem_cons] at h ih
        rcases h with rfl | h
        . have := ih (.inl rfl)
          simp only [beq_iff_eq] at hc
          simp [this, Ne.symm hc]
        . exact ih (.inr h)

theorem splitOn_intercalate_eq_iff {x : Char} {parts : List (List Char)} (hne : parts ≠ []) :
    ([x].intercalate parts).splitOn x = parts ↔ ∀ part ∈ parts, x ∉ part := by
  constructor
  . intro h part hpart
    rw [← h] at hpart
    exact not_mem_of_mem_splitOn hpart
  . intro h
    exact List.splitOn_intercalate x h hne

namespace OrderedMap

variable {α : Type}

theorem nodup_entries (m : OrderedMap α) : m.entries.Nodup := by
  apply m.keysIncrease.imp
  rintro a _ h rfl
  exact String.lt_irrefl a.1 h

theorem mem_of_get?_eq_some {m : OrderedMap α} {key : String} {value : α}
    (h : m.get? key = some value) : (key, value) ∈ m.entries := by
  unfold get? at h
  generalize m.entries = es at h
  fun_induction valueAt? key es with
  | case1 => simp at h
  | case2 v es => simp_all
  | case3 k v es hne ih => exact List.mem_cons_of_mem _ (ih h)

theorem get?_eq_some_iff {m : OrderedMap α} {key : String} {value : α} :
    m.get? key = some value ↔ (key, value) ∈ m.entries := by
  refine ⟨mem_of_get?_eq_some, ?_⟩
  intro h
  have hentries : ∀ es : List (String × α), KeysIncrease es → (key, value) ∈ es →
      valueAt? key es = some value := by
    intro es hes hmem
    induction es with
    | nil => simp at hmem
    | cons e es ih =>
      obtain ⟨hfirst, hes⟩ := List.pairwise_cons.1 hes
      rcases List.mem_cons.1 hmem with rfl | hmem
      . simp [valueAt?]
      . have hne : e.1 ≠ key := by
          intro heq
          have := hfirst _ hmem
          rw [heq] at this
          exact String.lt_irrefl key this
        rw [valueAt?, if_neg hne, ih hes hmem]
  exact hentries m.entries m.keysIncrease h

end OrderedMap

namespace Stage

theorem ordered_perm (stage : Stage) : stage.ordered.Perm stage.options.entries := by
  have hleading : (leading.filterMap fun key => (stage.get? key).map (key, ·)).Perm
      (stage.options.entries.filter (leading.contains ·.1)) := by
    rw [List.perm_ext_iff_of_nodup]
    . intro option
      simp only [List.mem_filterMap, Option.map_eq_some_iff, List.mem_filter, List.contains_iff_mem]
      constructor
      . rintro ⟨key, hkey, value, hvalue, rfl⟩
        exact ⟨OrderedMap.get?_eq_some_iff.1 hvalue, hkey⟩
      . rintro ⟨hoption, hkey⟩
        exact ⟨option.1, hkey, option.2, OrderedMap.get?_eq_some_iff.2 hoption, rfl⟩
    . apply List.Pairwise.filterMap (R := (· ≠ ·))
      . intro key key' hkey option hoption option' hoption'
        rw [Option.map_eq_some_iff] at hoption hoption'
        obtain ⟨_, _, rfl⟩ := hoption
        obtain ⟨_, _, rfl⟩ := hoption'
        simp [hkey]
      . show leading.Nodup
        decide
    . exact stage.options.nodup_entries.filter _
  apply List.Perm.trans (hleading.append_right _)
  exact List.filter_append_perm _ _

def sectionLines (stage : Stage) : List String :=
  ("[" ++ stage.kind ++ "]") :: stage.ordered.map fun option =>
    "    " ++ padded stage.width option.1 ++ " " ++ option.2

theorem length_sectionLines (stage : Stage) :
    stage.sectionLines.length = stage.options.size + 1 := by
  simp [sectionLines, OrderedMap.size, stage.ordered_perm.length_eq]

def allLines (stages : List Stage) : List String :=
  [""].intercalate (stages.map sectionLines) ++ [""]

theorem toList_render (stage : Stage) :
    stage.render.toList = stage.sectionLines.flatMap fun line => line.toList ++ ['\n'] := by
  unfold render sectionLines
  simp only [String.toList_append, String.toList_join, List.flatMap_cons, List.flatMap_map]
  have hline : ∀ option : String × String, (optionLine stage.width option).toList =
      ("    " ++ padded stage.width option.1 ++ " " ++ option.2).toList ++ ['\n'] := by
    intro option
    simp [optionLine]
  simp [hline]

theorem toList_renderAll {stages : List Stage} (hne : stages ≠ []) :
    (renderAll stages).toList =
      ([""].intercalate (stages.map sectionLines)).flatMap fun line => line.toList ++ ['\n'] := by
  unfold renderAll
  induction stages with
  | nil => simp at hne
  | cons stage stages ih =>
    cases stages with
    | nil => simp [toList_render]
    | cons stage' stages =>
      have := ih (by simp)
      simp only [List.map_cons] at this ⊢
      rw [String.intercalate_cons_cons, List.intercalate_cons_cons, String.toList_append,
        String.toList_append, this, toList_render]
      simp

theorem flatMap_eq_intercalate (lines : List String) :
    (lines.flatMap fun line => line.toList ++ ['\n']) =
      ['\n'].intercalate ((lines ++ [""]).map String.toList) := by
  induction lines with
  | nil => simp
  | cons line lines ih =>
    have hne : (lines ++ [""]).map String.toList ≠ [] := by simp
    obtain ⟨first, rest, hrest⟩ := List.exists_cons_of_ne_nil hne
    rw [List.flatMap_cons, ih, List.cons_append, List.map_cons, hrest, List.intercalate_cons_cons]

theorem forall_mem_allLines_iff {stages : List Stage} :
    (∀ line ∈ allLines stages, '\n' ∉ line.toList) ↔
      ∀ stage ∈ stages, ∀ line ∈ stage.sectionLines, '\n' ∉ line.toList := by
  unfold allLines
  induction stages with
  | nil => simp
  | cons stage stages ih =>
    cases stages with
    | nil => simp [or_imp, forall_and]
    | cons stage' stages =>
      simp only [List.map_cons] at ih ⊢
      rw [List.intercalate_cons_cons, List.append_assoc, List.append_assoc, List.forall_mem_append,
        List.forall_mem_append, ih, List.forall_mem_cons (a := stage)]
      simp

theorem newline_not_mem_sectionLines_iff (stage : Stage) :
    (∀ line ∈ stage.sectionLines, '\n' ∉ line.toList) ↔
      '\n' ∉ stage.kind.toList ∧
      ∀ option ∈ stage.options.entries, '\n' ∉ option.1.toList ∧ '\n' ∉ option.2.toList := by
  have hoption : ∀ option : String × String,
      '\n' ∉ ("    " ++ padded stage.width option.1 ++ " " ++ option.2).toList ↔
        '\n' ∉ option.1.toList ∧ '\n' ∉ option.2.toList := by
    intro option
    simp [padded]
  simp only [sectionLines, List.forall_mem_cons, List.forall_mem_map, hoption,
    stage.ordered_perm.mem_iff]
  simp

theorem splitOn_renderAll_iff {stages : List Stage} (hne : stages ≠ []) :
    (renderAll stages).toList.splitOn '\n' = (allLines stages).map String.toList ↔
      ∀ stage ∈ stages, '\n' ∉ stage.kind.toList ∧
        ∀ option ∈ stage.options.entries, '\n' ∉ option.1.toList ∧ '\n' ∉ option.2.toList := by
  rw [toList_renderAll hne, flatMap_eq_intercalate]
  change (['\n'].intercalate ((allLines stages).map String.toList)).splitOn '\n' = _ ↔ _
  rw [splitOn_intercalate_eq_iff (by simp [allLines]), List.forall_mem_map, forall_mem_allLines_iff]
  simp only [newline_not_mem_sectionLines_iff]

end Stage

end LogSieve

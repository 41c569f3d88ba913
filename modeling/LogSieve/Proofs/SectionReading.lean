import LogSieve.Proofs.Rendering
import LogSieve.Text.Blank

/-!
This module contains a reader for the text of stages. It finds all that the stages hold, as long as
their parts do not break the lines and columns of the text.
-/

namespace LogSieve

section

variable {α : Type} {key : String} {value : α} {es : List (String × α)}

theorem insertAt_perm (h : ∀ e ∈ es, e.1 ≠ key) :
    (insertAt key value es).Perm ((key, value) :: es) := by
  fun_induction insertAt key value es with
  | case1 => exact .refl _
  | case2 => exact .refl _
  | case3 v es _ => exact absurd rfl (h _ List.mem_cons_self)
  | case4 k v es _ _ ih =>
    rw [List.forall_mem_cons] at h
    exact ((ih h.2).cons (k, v)).trans (.swap ..)

end

namespace OrderedMap

variable {α : Type}

theorem nodup_keys (m : OrderedMap α) : (m.entries.map (·.1)).Nodup := by
  rw [List.Nodup, List.pairwise_map]
  apply m.keysIncrease.imp
  intro a b hlt heq
  exact String.lt_irrefl b.1 (heq ▸ hlt)

theorem eq_of_perm {m m' : OrderedMap α} (h : m.entries.Perm m'.entries) : m = m' := by
  have hentries : m.entries = m'.entries := by
    apply h.eq_of_pairwise _ m.keysIncrease m'.keysIncrease
    intro a b _ _ hab hba
    exact absurd hba (String.lt_asymm hab)
  cases m
  cases m'
  cases hentries
  rfl

theorem perm_entries_foldl_insert (m : OrderedMap α) {es : List (String × α)}
    (h : ((m.entries ++ es).map (·.1)).Nodup) :
    (es.foldl (fun m (key, value) => m.insert key value) m).entries.Perm (m.entries ++ es) := by
  induction es generalizing m with
  | nil => simp
  | cons e es ih =>
    have hinsert : (m.insert e.1 e.2).entries.Perm (m.entries ++ [e]) := by
      refine (insertAt_perm ?_).trans (List.perm_append_singleton e m.entries).symm
      intro e' he' heq
      rw [List.map_append, List.nodup_append] at h
      exact h.2.2 e'.1 (List.mem_map_of_mem he') e.1 (by simp) heq
    have happend : ((m.insert e.1 e.2).entries ++ es).Perm (m.entries ++ e :: es) := by
      simpa using hinsert.append_right es
    rw [List.foldl_cons]
    exact (ih _ ((happend.map _).nodup_iff.2 h)).trans happend

theorem ofList_of_perm {m : OrderedMap α} {es : List (String × α)} (h : es.Perm m.entries) :
    ofList es = m := by
  apply eq_of_perm
  have hnodup : (es.map (·.1)).Nodup := (h.map _).nodup_iff.2 m.nodup_keys
  exact (perm_entries_foldl_insert empty hnodup).trans h

end OrderedMap

structure Section where
  kind : String
  options : List (String × String)
  deriving DecidableEq, Repr

namespace Section

def stage (s : Section) : Stage := ⟨s.kind, OrderedMap.ofList s.options⟩

def readOption (cs : List Char) : String × String :=
  let key := cs.takeWhile (· != ' ')
  let rest := cs.dropWhile (· != ' ')
  (String.ofList key, String.ofList (rest.dropWhile (· == ' ')))

/--
Puts a line before options and the sections behind them. A line that starts with a bracket opens a
section for the options, a line with four spaces holds an option, and a blank line does not come
before options.
-/
def addLine? (line : List Char) :
    List (String × String) × List Section → Option (List (String × String) × List Section)
  | (options, sections) =>
    if Text.isBlankLine line then
      if options.isEmpty then some ([], sections) else none
    else
      match line with
      | '[' :: cs =>
        if cs.getLast? = some ']' then some ([], ⟨String.ofList cs.dropLast, options⟩ :: sections)
        else none
      | ' ' :: ' ' :: ' ' :: ' ' :: cs => some (readOption cs :: options, sections)
      | _ => none

def readAll? (text : String) : Option (List Section) := do
  let (options, sections) ← (text.toList.splitOn '\n').foldrM addLine? ([], [])
  if options.isEmpty then some sections else none

theorem addLine?_header (kind : String) (options : List (String × String)) (sections : List Section) :
    addLine? ("[" ++ kind ++ "]").toList (options, sections) =
      some ([], ⟨kind, options⟩ :: sections) := by
  have htext : ("[" ++ kind ++ "]").toList = '[' :: (kind.toList ++ [']']) := by simp
  have hblank : Text.isBlankLine ('[' :: (kind.toList ++ [']'])) = false := by
    have hbracket : Text.isBlank '[' = false := by decide
    simp [Text.isBlankLine, hbracket]
  simp [htext, addLine?, hblank]

theorem readOption_padded {key value : String} (hkey : ' ' ∉ key.toList)
    (hvalue : value.toList.head? ≠ some ' ') (width : Nat) :
    readOption (Stage.padded width key ++ " " ++ value).toList = (key, value) := by
  obtain ⟨n, hline⟩ : ∃ n, (Stage.padded width key ++ " " ++ value).toList =
      key.toList ++ ' ' :: (List.replicate n ' ' ++ value.toList) := by
    refine ⟨width - key.length, ?_⟩
    rw [← List.cons_append, ← List.replicate_succ]
    simp [Stage.padded, List.replicate_succ']
  have hchars : ∀ c ∈ key.toList, (c != ' ') = true := by
    intro c hc
    simp only [bne_iff_ne, ne_eq]
    rintro rfl
    exact hkey hc
  have hspaces : ∀ c ∈ List.replicate n ' ', (c == ' ') = true := by simp
  have hstart : value.toList.dropWhile (· == ' ') = value.toList := by
    cases hcs : value.toList with
    | nil => rfl
    | cons c cs =>
      rw [hcs, List.head?_cons] at hvalue
      rw [List.dropWhile_cons_of_neg]
      simpa using hvalue
  rw [readOption, hline, List.takeWhile_append_of_pos hchars, List.dropWhile_append_of_pos hchars]
  simp [List.dropWhile_append_of_pos hspaces, hstart]

theorem addLine?_option {key value : String} (hne : key ≠ "")
    (hkey : key.toList.any Text.isBlank = false) (hvalue : value.toList.head? ≠ some ' ')
    (width : Nat) (options : List (String × String)) (sections : List Section) :
    addLine? ("    " ++ Stage.padded width key ++ " " ++ value).toList (options, sections) =
      some ((key, value) :: options, sections) := by
  rw [List.any_eq_false] at hkey
  have hspace : ' ' ∉ key.toList := by
    intro h
    exact hkey _ h (by decide)
  let rest := (Stage.padded width key ++ " " ++ value).toList
  have htext : ("    " ++ Stage.padded width key ++ " " ++ value).toList =
      ' ' :: ' ' :: ' ' :: ' ' :: rest := by
    simp [rest]
  have hblank : Text.isBlankLine (' ' :: ' ' :: ' ' :: ' ' :: rest) = false := by
    obtain ⟨c, hc⟩ := List.exists_mem_of_ne_nil _ (mt String.toList_eq_nil_iff.1 hne)
    rw [Text.isBlankLine, List.all_eq_false]
    exact ⟨c, by simp [rest, Stage.padded, hc], by simp [hkey c hc]⟩
  rw [htext, addLine?, if_neg (by simp [hblank])]
  simp only [rest, readOption_padded hspace hvalue width]

end Section

namespace Stage

structure IsPlain (stage : Stage) : Prop where
  kind : '\n' ∉ stage.kind.toList
  ne_empty : ∀ option ∈ stage.options.entries, option.1 ≠ ""
  any_isBlank : ∀ option ∈ stage.options.entries, option.1.toList.any Text.isBlank = false
  value : ∀ option ∈ stage.options.entries, '\n' ∉ option.2.toList ∧ option.2.toList.head? ≠ some ' '

def shown (stage : Stage) : Section := ⟨stage.kind, stage.ordered⟩

theorem foldrM_addLine?_options {stage : Stage} (h : stage.IsPlain) {options : List (String × String)}
    (hoptions : ∀ option ∈ options, option ∈ stage.options.entries) (width : Nat)
    (sections : List Section) :
    (options.map fun option =>
        ("    " ++ padded width option.1 ++ " " ++ option.2).toList).foldrM
      Section.addLine? ([], sections) = some (options, sections) := by
  induction options with
  | nil => rfl
  | cons option options ih =>
    rw [List.forall_mem_cons] at hoptions
    obtain ⟨hoption, hoptions⟩ := hoptions
    rw [List.map_cons, List.foldrM_cons, ih hoptions]
    exact Section.addLine?_option (h.ne_empty _ hoption) (h.any_isBlank _ hoption)
      (h.value _ hoption).2 width options sections

theorem foldrM_addLine?_sectionLines {stage : Stage} (h : stage.IsPlain) (sections : List Section) :
    (stage.sectionLines.map String.toList).foldrM Section.addLine? ([], sections) =
      some ([], stage.shown :: sections) := by
  have hoptions : ∀ option ∈ stage.ordered, option ∈ stage.options.entries := by
    intro option hoption
    exact stage.ordered_perm.mem_iff.1 hoption
  rw [sectionLines, List.map_cons, List.map_map, List.foldrM_cons, Function.comp_def,
    foldrM_addLine?_options h hoptions]
  exact Section.addLine?_header _ _ _

theorem allLines_cons (stage : Stage) (stages : List Stage) :
    allLines (stage :: stages) =
      stage.sectionLines ++ "" :: if stages.isEmpty then [] else allLines stages := by
  cases stages with
  | nil => simp [allLines]
  | cons stage' stages => simp [allLines]

theorem foldrM_addLine?_allLines {stages : List Stage} (h : ∀ stage ∈ stages, stage.IsPlain) :
    ((allLines stages).map String.toList).foldrM Section.addLine? ([], []) =
      some ([], stages.map shown) := by
  induction stages with
  | nil => rfl
  | cons stage stages ih =>
    rw [List.forall_mem_cons] at h
    have hrest : ((if stages.isEmpty then [] else allLines stages).map String.toList).foldrM
        Section.addLine? ([], []) = some ([], stages.map shown) := by
      cases stages with
      | nil => rfl
      | cons stage' stages => exact ih h.2
    rw [allLines_cons, List.map_append, List.foldrM_append, List.map_cons, List.foldrM_cons, hrest]
    exact foldrM_addLine?_sectionLines h.1 _

theorem readAll?_of_isPlain {stages : List Stage} (h : ∀ stage ∈ stages, stage.IsPlain) :
    Section.readAll? (renderAll stages) = some (stages.map shown) := by
  have hlines : (renderAll stages).toList.splitOn '\n' = (allLines stages).map String.toList := by
    cases stages with
    | nil => rfl
    | cons stage stages =>
      rw [splitOn_renderAll_iff (by simp)]
      intro stage hstage
      refine ⟨(h stage hstage).kind, ?_⟩
      intro option hoption
      refine ⟨?_, ((h stage hstage).value option hoption).1⟩
      intro hfeed
      exact List.any_eq_false.1 ((h stage hstage).any_isBlank option hoption) _ hfeed (by decide)
  rw [Section.readAll?, hlines, foldrM_addLine?_allLines h]
  rfl

theorem stage_shown (stage : Stage) : stage.shown.stage = stage := by
  rw [Section.stage, shown, OrderedMap.ofList_of_perm stage.ordered_perm]

theorem exists_others (stage : Stage) :
    ∃ others, stage.ordered = ((stage.get? "Name").map ("Name", ·)).toList ++
        ((stage.get? "Match").map ("Match", ·)).toList ++ others ∧
      KeysIncrease others ∧ ∀ option ∈ others, option.1 ≠ "Name" ∧ option.1 ≠ "Match" := by
  refine ⟨stage.options.entries.filter (!leading.contains ·.1), ?_, ?_, ?_⟩
  . rw [ordered]
    cases hname : stage.get? "Name" <;> cases hmatch : stage.get? "Match" <;>
      simp [leading, hname, hmatch]
  . exact stage.options.keysIncrease.filter _
  . intro option hoption
    simpa [leading] using (List.mem_filter.1 hoption).2

/--
The text of stages holds each of them with all its options, which stand there once: the name first,
then the tag that is matched, then the others by their keys.
-/
theorem readAll?_renderAll {stages : List Stage} (h : ∀ stage ∈ stages, stage.IsPlain) :
    Section.readAll? (renderAll stages) = some (stages.map shown) ∧
    (stages.map shown).map Section.stage = stages ∧
    ∀ stage ∈ stages, stage.shown.options.Perm stage.options.entries ∧
      ∃ others, stage.shown.options = ((stage.get? "Name").map ("Name", ·)).toList ++
          ((stage.get? "Match").map ("Match", ·)).toList ++ others ∧
        KeysIncrease others ∧ ∀ option ∈ others, option.1 ≠ "Name" ∧ option.1 ≠ "Match" := by
  refine ⟨readAll?_of_isPlain h, ?_, ?_⟩
  . simp [Function.comp_def, stage_shown]
  . intro stage _
    exact ⟨stage.ordered_perm, stage.exists_others⟩

theorem readAll?_renderAll_wide :
    let options := OrderedMap.ofList [("größe", ""), ("Alias", "\t"), ("Match", "a.*  ")]
    Section.readAll? (renderAll [⟨"FILTER", options⟩, ⟨"[a]]", .empty⟩]) =
      some [⟨"FILTER", [("Match", "a.*  "), ("Alias", "\t"), ("größe", "")]⟩, ⟨"[a]]", []⟩] := by
  intro options
  have hplain : ∀ stage ∈ [Stage.mk "FILTER" options, ⟨"[a]]", .empty⟩], stage.IsPlain := by
    rw [List.forall_mem_cons, List.forall_mem_singleton]
    refine ⟨⟨?_, ?_, ?_, ?_⟩, ⟨?_, ?_, ?_, ?_⟩⟩ <;> decide +kernel
  rw [(readAll?_renderAll hplain).1]
  decide +kernel

end Stage

end LogSieve

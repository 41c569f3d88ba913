import LogSieve.Job
import LogSieve.Proofs.FilterText
import LogSieve.Proofs.ScriptChunk

/-!
This module contains the names that the script of named filters reads without having bound them, and
what becomes of it if a filter has one of these names.
-/

namespace LogSieve

open Lua

namespace Job

theorem compile_cons_eq_ok_iff {e : String × String} {es : List (String × String)}
    {fs : List (String × Filter)} :
    compile (e :: es) = .ok fs ↔ Script.isName e.1 = true ∧
      ∃ f rest, Filter.ofText e.2 = .ok f ∧ compile es = .ok rest ∧ fs = (e.1, f) :: rest := by
  simp only [compile]
  split
  . next hname =>
    split
    . next hfilter => simp [hfilter]
    . next f hfilter =>
      cases hrest : compile es with
      | error cause => simp [Except.map]
      | ok rest => simp [Except.map, hname, hfilter, eq_comm]
  . next hname => simp [hname]

theorem compile_eq_ok {es : List (String × String)} {fs : List (String × Filter)}
    (h : compile es = .ok fs) :
    fs.map (·.1) = es.map (·.1) ∧ ∀ f ∈ fs, Script.isName f.1 = true := by
  induction es generalizing fs with
  | nil =>
    cases h
    simp
  | cons e es ih =>
    obtain ⟨hname, f, rest, _, hrest, rfl⟩ := compile_cons_eq_ok_iff.1 h
    obtain ⟨hnames, hisName⟩ := ih hrest
    rw [List.forall_mem_cons, List.map_cons, List.map_cons, hnames]
    exact ⟨rfl, hname, hisName⟩

theorem compiled_eq_ok {job : Job} {filters : OrderedMap Filter} (h : job.compiled = .ok filters) :
    filters.keys = job.filters.keys ∧ ∀ name ∈ filters.keys, Script.isName name = true := by
  unfold compiled at h
  cases hcompile : compile job.filters.entries with
  | error cause =>
    rw [hcompile] at h
    cases h
  | ok fs =>
    rw [hcompile] at h
    cases h
    obtain ⟨hnames, hisName⟩ := compile_eq_ok hcompile
    have hincrease : KeysIncrease fs := by
      have hkeys := job.filters.keysIncrease
      unfold KeysIncrease at hkeys ⊢
      rw [← List.pairwise_map] at hkeys ⊢
      rw [hnames]
      exact hkeys
    rw [OrderedMap.ofList_of_keysIncrease hincrease]
    refine ⟨hnames, ?_⟩
    simpa [OrderedMap.keys] using hisName

theorem compile_texts {fs : List (String × Filter)} (hnames : ∀ f ∈ fs, Script.isName f.1 = true)
    (hnormal : ∀ f ∈ fs, f.2.expr.isNormal = true) :
    compile (fs.map fun f => (f.1, f.2.text)) = .ok fs := by
  induction fs with
  | nil => rfl
  | cons f fs ih =>
    rw [List.forall_mem_cons] at hnames hnormal
    rw [List.map_cons, compile_cons_eq_ok_iff]
    exact ⟨hnames.1, f.2, fs, Filter.ofText_text_eq_ok_iff_isNormal.2 hnormal.1,
      ih hnames.2 hnormal.2, rfl⟩

def ofFilters (tag : String) (filters : OrderedMap Filter) : Job :=
  { tag, filters := filters.map Filter.text }

theorem compiled_ofFilters (tag : String) {filters : OrderedMap Filter}
    (hnames : ∀ name ∈ filters.keys, Script.isName name = true)
    (hnormal : ∀ f ∈ filters.entries, f.2.expr.isNormal = true) :
    (ofFilters tag filters).compiled = .ok filters := by
  have hcompile := compile_texts (by simpa [OrderedMap.keys] using hnames) hnormal
  unfold compiled ofFilters OrderedMap.map
  rw [hcompile]
  exact congrArg Except.ok (OrderedMap.ofList_of_keysIncrease filters.keysIncrease)

end Job

namespace Script

def outerNames : List String :=
  ["ipairs", "pairs", "record", "string", "tonumber", "tostring", "type"]

def fieldNames : List String → List String
  | [_] => ["record"]
  | _ => ["ipairs", "type", "record"]

theorem readsAll_strings (ss : List String) : Exp.readsAll (ss.map .string) = [] := by
  induction ss with
  | nil => rfl
  | cons s ss ih =>
    rw [List.map_cons, Exp.readsAll, ih]
    rfl

theorem reads_fieldTree (path : List String) : (fieldTree path).reads = fieldNames path := by
  unfold fieldTree fieldNames
  split
  . rfl
  . simp [pathLoop, Exp.reads, Exp.readsAll, Statement.readsAll, readsAll_strings]

theorem reads_foldl_binary (op : BinaryOp) (e : Exp) (es : List Exp) :
    (es.foldl (.binary op) e).reads = e.reads ++ Exp.readsAll es := by
  induction es generalizing e with
  | nil => simp [Exp.readsAll]
  | cons e' es ih => simp [ih, Exp.reads, Exp.readsAll]

theorem reads_joinedTree (op : BinaryOp) {neutral : Exp} (h : neutral.reads = []) (es : List Exp) :
    (joinedTree op neutral es).reads = Exp.readsAll es := by
  cases es with
  | nil => exact h
  | cons e es => exact reads_foldl_binary op e es

end Script

open Script

theorem Double.reads_tree (number : Double) : number.tree.reads = [] := by
  have hsigned : ∀ negative text, (Double.tree.signedTree negative text).reads = [] := by
    intro negative text
    cases negative <;> rfl
  unfold Double.tree
  split
  . exact hsigned _ _
  . exact hsigned _ _
  . rfl

namespace Comparison

def closureNames (c : Comparison) : List String :=
  match c.operator with
  | .has => ["string", "tostring"]
  | .order _ => [if c.number?.isSome then "tonumber" else "tostring"]
  | _ => ["tostring"]

theorem mem_reads_closure (c : Comparison) (x : String) :
    x ∈ c.closure.reads ↔ x ∈ c.closureNames := by
  unfold closure closureBody closureNames
  cases c.operator with
  | order relation =>
    cases c.number? with
    | some number =>
      simp [giveBackIf, nilTree, Exp.reads, Exp.readsAll, Statement.readsAll, number.reads_tree]
    | none => simp [giveBackIf, nilTree, shown, Exp.reads, Exp.readsAll, Statement.readsAll]
  | _ => simp [giveBackIf, nilTree, shown, Exp.reads, Exp.readsAll, Statement.readsAll]

def outerNames (c : Comparison) : List String :=
  let names := fieldNames c.target.segments
  match c.operator with
  | .like | .unlike => ["record"]
  | .has => if c.literal = "*" then names else c.closureNames ++ names
  | _ => c.closureNames ++ names

theorem mem_reads_tree (c : Comparison) (key x : String) :
    x ∈ (c.tree key).reads ↔ x ∈ c.outerNames := by
  have hcall : x ∈ (Exp.call c.closure [fieldTree c.target.segments]).reads ↔
      x ∈ c.closureNames ++ fieldNames c.target.segments := by
    simp [Exp.reads, Exp.readsAll, mem_reads_closure, reads_fieldTree]
  have hfield : (nilTree .differs (fieldTree c.target.segments)).reads =
      fieldNames c.target.segments := by
    simp [nilTree, Exp.reads, reads_fieldTree]
  unfold tree outerNames
  cases c.operator with
  | like => rfl
  | unlike => rfl
  | equal => exact hcall
  | differs => exact hcall
  | has =>
    simp only
    split
    . rw [hfield]
    . exact hcall
  | order relation => exact hcall

theorem outerNames_subset (c : Comparison) : c.outerNames ⊆ Script.outerNames := by
  have hfield : fieldNames c.target.segments ⊆ Script.outerNames := by
    unfold fieldNames
    split <;> decide
  have hclosure : c.closureNames ⊆ Script.outerNames := by
    unfold closureNames
    split
    . decide
    . split <;> decide
    . decide
  have hboth : c.closureNames ++ fieldNames c.target.segments ⊆ Script.outerNames :=
    List.append_subset.2 ⟨hclosure, hfield⟩
  have hrecord : ["record"] ⊆ Script.outerNames := by decide
  unfold outerNames
  cases c.operator with
  | like => exact hrecord
  | unlike => exact hrecord
  | equal => exact hboth
  | differs => exact hboth
  | has =>
    simp only
    split
    . exact hfield
    . exact hboth
  | order relation => exact hboth

end Comparison

namespace Expr

mutual

theorem mem_reads_tree (key x : String) : (e : Expr) →
    (x ∈ (e.tree key).reads ↔ ∃ c ∈ e.leaves, x ∈ c.outerNames)
  | .leaf c => by
    rw [tree, leaves, c.mem_reads_tree]
    simp
  | .not e => mem_reads_tree key x e
  | .all es => by
    rw [tree, reads_joinedTree .and rfl, leaves]
    exact mem_readsAll_trees key x 0 es
  | .any es => by
    rw [tree, reads_joinedTree .or rfl, leaves]
    exact mem_readsAll_trees key x 0 es

theorem mem_readsAll_trees (key x : String) (i : Nat) : (es : List Expr) →
    (x ∈ Exp.readsAll (trees key i es) ↔ ∃ c ∈ leavesList es, x ∈ c.outerNames)
  | [] => by simp [trees, Exp.readsAll, leavesList]
  | e :: es => by
    simp only [trees, Exp.readsAll, leavesList, List.mem_append, or_and_right, exists_or]
    rw [mem_reads_tree (childKey key i) x e, mem_readsAll_trees key x (i + 1) es]

end

end Expr

namespace Pipeline

def cleanupNames : List String := ["pairs", "record", "string"]

theorem cleanupNames_subset : cleanupNames ⊆ Script.outerNames := by decide

/--
No filter has a name that the script reads behind its binding: in one of the later filters, or in the
cleanup if there is one.
-/
def IsUnshadowed (fs : List (String × Filter)) : Prop :=
  (fs.Pairwise fun f g => ∀ c ∈ g.2.expr.leaves, f.1 ∉ c.outerNames) ∧
    (hasPattern fs = true → ∀ f ∈ fs, f.1 ∉ cleanupNames)

instance (fs : List (String × Filter)) : Decidable (IsUnshadowed fs) :=
  inferInstanceAs (Decidable (_ ∧ _))

theorem isUnshadowed_of_not_mem {fs : List (String × Filter)}
    (h : ∀ f ∈ fs, f.1 ∉ Script.outerNames) : IsUnshadowed fs := by
  refine ⟨?_, ?_⟩
  . apply List.pairwise_of_forall_mem_list
    intro f hf g _ c _ hmem
    exact h f hf (c.outerNames_subset hmem)
  . intro _ f hf hmem
    exact h f hf (cleanupNames_subset hmem)

theorem mem_reads_cleanupLoop (x : String) : x ∈ cleanupLoop.reads ↔ x ∈ cleanupNames := by
  have hreads : cleanupLoop.reads = ["pairs", "record", "string", "record"] := by
    simp [cleanupLoop, Lua.Command.reads, Lua.Command.readsAll, Lua.Command.declared, Exp.reads,
      Exp.readsAll]
  rw [hreads]
  grind [cleanupNames]

theorem declared_declarations (i : Nat) (fs : List (String × Filter)) :
    (declarations i fs).flatMap (·.declared) = fs.map (·.1) := by
  induction fs generalizing i with
  | nil => rfl
  | cons f fs ih =>
    rw [declarations, List.flatMap_cons, ih, List.map_cons]
    rfl

theorem declared_commands (fs : List (String × Filter)) :
    (commands fs).flatMap (·.declared) = fs.map (·.1) := by
  rw [commands, List.flatMap_append, declared_declarations]
  cases hasPattern fs <;> simp [cleanupLoop, Lua.Command.declared]

theorem exists_mem_reads_declarations_iff (i : Nat) (fs : List (String × Filter)) (x : String) :
    (∃ d ∈ declarations i fs, x ∈ d.reads) ↔
      ∃ f ∈ fs, ∃ c ∈ f.2.expr.leaves, x ∈ c.outerNames := by
  induction fs generalizing i with
  | nil => simp [declarations]
  | cons f fs ih => simp [declarations, ih, Lua.Command.reads, Expr.mem_reads_tree]

theorem unshadowed_declarations_iff (i : Nat) (fs : List (String × Filter)) :
    Lua.Command.Unshadowed (declarations i fs) ↔
      fs.Pairwise fun f g => ∀ c ∈ g.2.expr.leaves, f.1 ∉ c.outerNames := by
  unfold Lua.Command.Unshadowed
  induction fs generalizing i with
  | nil => simp [declarations]
  | cons f fs ih =>
    have hlater : (∀ d ∈ declarations (i + 1) fs, f.1 ∉ d.reads) ↔
        ∀ g ∈ fs, ∀ c ∈ g.2.expr.leaves, f.1 ∉ c.outerNames := by
      simpa using not_congr (exists_mem_reads_declarations_iff (i + 1) fs f.1)
    rw [declarations, List.pairwise_cons, List.pairwise_cons, ih, ← hlater]
    simp [Lua.Command.declared]

theorem unshadowed_commands_iff (fs : List (String × Filter)) :
    Lua.Command.Unshadowed (commands fs) ↔ IsUnshadowed fs := by
  have hdeclared : (∀ c ∈ declarations 0 fs, ∀ x ∈ c.declared, x ∉ cleanupLoop.reads) ↔
      ∀ f ∈ fs, f.1 ∉ cleanupNames := by
    have hnames : (∀ c ∈ declarations 0 fs, ∀ x ∈ c.declared, x ∉ cleanupLoop.reads) ↔
        ∀ x ∈ (declarations 0 fs).flatMap (·.declared), x ∉ cleanupLoop.reads := by
      simp only [List.mem_flatMap, forall_exists_index, and_imp]
      exact ⟨fun h x c hc hx => h c hc x hx, fun h c hc x hx => h x c hc hx⟩
    rw [hnames, declared_declarations]
    simp only [mem_reads_cleanupLoop, List.forall_mem_map]
  have hdeclarations := unshadowed_declarations_iff 0 fs
  unfold Lua.Command.Unshadowed at hdeclarations
  unfold Lua.Command.Unshadowed commands IsUnshadowed
  rw [List.pairwise_append, hdeclarations]
  cases hasPattern fs with
  | true => simpa using fun _ => hdeclared
  | false => simp

theorem mem_outerNames_of_mem_commands (fs : List (String × Filter)) :
    ∀ d ∈ commands fs, ∀ x ∈ d.reads, x ∈ Script.outerNames := by
  intro d hd x hx
  rw [commands, List.mem_append] at hd
  rcases hd with hd | hd
  . obtain ⟨f, _, c, _, hc⟩ := (exists_mem_reads_declarations_iff 0 fs x).1 ⟨d, hd, hx⟩
    exact c.outerNames_subset hc
  . have hloop : d = cleanupLoop := by
      split at hd <;> simp_all
    rw [hloop, mem_reads_cleanupLoop] at hx
    exact cleanupNames_subset hx

/--
The script for the filters of a job declares their names and reads only `Script.outerNames`. As long
as no filter has a name that is read behind its binding, and so in particular if none has one of these
names, each command of the script does what it does by itself, whatever the operations of Lua do.
-/
theorem run_commands_of_compiled {job : Job} {filters : OrderedMap Filter}
    (h : job.compiled = .ok filters) :
    let cs := commands filters.entries
    readChunk? (named job.tag filters).2 = some cs ∧
    cs.flatMap (·.declared) = job.filters.keys ∧
    (∀ c ∈ cs, ∀ x ∈ c.reads, x ∈ Script.outerNames) ∧
    (Lua.Command.Unshadowed cs ↔ IsUnshadowed filters.entries) ∧
    ((∀ name ∈ job.filters.keys, name ∉ Script.outerNames) → IsUnshadowed filters.entries) ∧
    (IsUnshadowed filters.entries → ∀ (S V : Type) (ops : Operations S V) (outer : Bindings V),
      Lua.Command.run ops outer cs = Lua.Command.runEach ops outer cs) := by
  obtain ⟨hkeys, hnames⟩ := Job.compiled_eq_ok h
  refine ⟨readChunk?_named job.tag hnames, ?_, mem_outerNames_of_mem_commands _,
    unshadowed_commands_iff _, ?_, ?_⟩
  . rw [declared_commands, ← hkeys]
    rfl
  . intro houter
    apply isUnshadowed_of_not_mem
    intro f hf
    apply houter
    rw [← hkeys]
    exact List.mem_map_of_mem hf
  . intro hunshadowed S V ops outer
    exact Lua.Command.run_eq_runEach ops ((unshadowed_commands_iff _).2 hunshadowed) outer

theorem run_commands_of_compiled_type :
    let nested : Comparison := ⟨⟨["a", "b"], by decide, by decide⟩, .equal, "1"⟩
    let message : Comparison := ⟨⟨["m"], by decide, by decide⟩, .like, "^x"⟩
    let filters : OrderedMap Filter :=
      (OrderedMap.empty.insert "type" ⟨.leaf message⟩).insert "same" ⟨.leaf nested⟩
    (Job.ofFilters "app" filters).compiled = .ok filters ∧ "type" ∈ Script.outerNames ∧
    IsUnshadowed filters.entries ∧
    ∀ (S V : Type) (ops : Operations S V) (outer : Bindings V),
      Lua.Command.run ops outer (commands filters.entries) =
        Lua.Command.runEach ops outer (commands filters.entries) := by
  intro nested message filters
  have hcompiled : (Job.ofFilters "app" filters).compiled = .ok filters :=
    Job.compiled_ofFilters "app" (by decide) (by decide)
  obtain ⟨_, _, _, _, _, hrun⟩ := run_commands_of_compiled hcompiled
  have hunshadowed : IsUnshadowed filters.entries := by decide
  exact ⟨hcompiled, by decide, hunshadowed, hrun hunshadowed⟩

/--
The operations that read the fields of a record and tell whether something is missing. All others are
left out. As in Lua, only a table has fields.
-/
def fieldOperations : Operations Unit Val where
  nil := .nil
  bool := .bool
  number text := .data (.double ((Double.read? text.toList).getD .nan))
  string text := .data (.text text)
  isTrue := Val.isTrue
  table _ := failure
  index v key :=
    match key with
    | .data (.text key) => liftM (v.field? key)
    | _ => failure
  store _ _ _ := failure
  call _ _ := failure
  minus _ := failure
  compare op v w :=
    match op with
    | .equal => liftM ((v.equals? w).map .bool)
    | .differs => liftM ((v.equals? w).map fun equal => .bool (!equal))
    | _ => failure
  items _ := failure

/--
All names that scripts read can be given to filters. If one is called `record`, the next one reads a
field of its result, which is no table.
-/
theorem run_commands_record_eq_none :
    let a : Comparison := ⟨⟨["a"], by decide, by decide⟩, .has, "*"⟩
    let b : Comparison := ⟨⟨["b"], by decide, by decide⟩, .has, "*"⟩
    let filters : OrderedMap Filter :=
      (OrderedMap.empty.insert "record" ⟨.leaf a⟩).insert "seen" ⟨.leaf b⟩
    let job := Job.ofFilters "*" filters
    let cs := commands filters.entries
    let fields : Val := .data (.object [("a", .text "x"), ("b", .text "y")])
    let outer : Bindings Val := fun x => if x = "record" then fields else .nil
    (∀ name ∈ Script.outerNames, Script.isName name = true) ∧ job.compiled = .ok filters ∧
    readChunk? (named job.tag filters).2 = some cs ∧
    Lua.Command.runEach fieldOperations outer cs () =
      some ([("record", .bool true), ("seen", .bool true)], ()) ∧
    Lua.Command.run fieldOperations outer cs () = none := by
  intro a b filters job cs fields outer
  have hnames : ∀ name ∈ filters.keys, Script.isName name = true := by decide
  refine ⟨by decide, Job.compiled_ofFilters "*" hnames (by decide), readChunk?_named "*" hnames,
    ?_, ?_⟩
  . rfl
  . rfl

end Pipeline

end LogSieve

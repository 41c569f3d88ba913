import LogSieve.Proofs.Lua.Syntax

/-!
This module contains the scopes of names in Lua: what an expression or a command does depends only on
the names that it reads. What the operations of Lua do is left open.
-/

namespace LogSieve.Lua

/--
The operations of Lua on values of type `V`. They may fail, and they may read and change a state of
type `S`, in which the contents of tables are kept.
-/
structure Operations (S V : Type) where
  nil : V
  bool : Bool → V
  number : String → V
  string : String → V
  isTrue : V → Bool
  table : List V → StateT S Option V
  index : V → V → StateT S Option V
  store : V → V → V → StateT S Option Unit
  call : V → List V → StateT S Option V
  minus : V → StateT S Option V
  compare : BinaryOp → V → V → StateT S Option V
  items : V → StateT S Option (List (V × V))

abbrev Bindings (V : Type) := String → V

def Bindings.set {V : Type} (values : Bindings V) (name : String) (v : V) : Bindings V :=
  fun x => if x = name then v else values x

def Bindings.setAll {V : Type} (values : Bindings V) (locals : List (String × V)) : Bindings V :=
  locals.foldl (fun values (name, v) => values.set name v) values

namespace Bindings

variable {V : Type} {values values' : Bindings V}

theorem set_congr {name x : String} {v : V} (h : x ≠ name → values x = values' x) :
    values.set name v x = values'.set name v x := by
  unfold set
  split
  . rfl
  . next hne => exact h hne

theorem setAll_congr {locals : List (String × V)} {x : String}
    (h : x ∉ locals.map (·.1) → values x = values' x) :
    values.setAll locals x = values'.setAll locals x := by
  induction locals generalizing values values' with
  | nil => exact h (by simp)
  | cons l locals ih =>
    apply ih
    intro hlocals
    apply set_congr
    intro hne
    exact h (by simp [hne, hlocals])

theorem setAll_of_not_mem {locals : List (String × V)} {x : String} (h : x ∉ locals.map (·.1)) :
    values.setAll locals x = values x := by
  induction locals generalizing values with
  | nil => rfl
  | cons l locals ih =>
    rw [List.map_cons, List.mem_cons, not_or] at h
    have hset : values.set l.1 l.2 x = values x := if_neg h.1
    rw [← hset]
    exact ih h.2

end Bindings

section

variable {S V : Type}

def runItems (body : V × V → Bindings V → StateT S Option (Bindings V × Option V)) :
    List (V × V) → Bindings V → StateT S Option (Bindings V × Option V)
  | [], values => pure (values, none)
  | item :: items, values => do
    let (values, result) ← body item values
    match result with
    | some v => pure (values, some v)
    | none => runItems body items values

variable (ops : Operations S V) (outer : Bindings V)

mutual

def Exp.run (names : List String) (values : Bindings V) : Exp → StateT S Option V
  | .nil => pure ops.nil
  | .true => pure (ops.bool Bool.true)
  | .false => pure (ops.bool Bool.false)
  | .number text => pure (ops.number text)
  | .string text => pure (ops.string text)
  | .name x => pure (if x ∈ names then values x else outer x)
  | .table items => do
    let vs ← Exp.runAll names values items
    ops.table vs
  | .function _ _ => failure
  | .index e key => do
    let v ← Exp.run names values e
    let k ← Exp.run names values key
    ops.index v k
  | .call (.function parameter body) arguments => do
    let vs ← Exp.runAll names values arguments
    if names = [] then do
      let (_, result) ← Statement.runAll [parameter] (values.set parameter (vs.headD ops.nil)) body
      pure (result.getD ops.nil)
    else
      failure
  | .call f arguments => do
    let v ← Exp.run names values f
    let vs ← Exp.runAll names values arguments
    ops.call v vs
  | .not e => do
    let v ← Exp.run names values e
    pure (ops.bool !(ops.isTrue v))
  | .minus e => do
    let v ← Exp.run names values e
    ops.minus v
  | .binary .and a b => do
    let v ← Exp.run names values a
    if ops.isTrue v then Exp.run names values b else pure v
  | .binary .or a b => do
    let v ← Exp.run names values a
    if ops.isTrue v then pure v else Exp.run names values b
  | .binary op a b => do
    let v ← Exp.run names values a
    let w ← Exp.run names values b
    ops.compare op v w

def Exp.runAll (names : List String) (values : Bindings V) : List Exp → StateT S Option (List V)
  | [] => pure []
  | e :: es => do
    let v ← Exp.run names values e
    let vs ← Exp.runAll names values es
    pure (v :: vs)

def Statement.runAll (names : List String) (values : Bindings V) :
    List Statement → StateT S Option (Bindings V × Option V)
  | [] => pure (values, none)
  | .giveBack e :: _ => do
    let v ← Exp.run names values e
    pure (values, some v)
  | .assign x e :: ss => do
    let v ← Exp.run names values e
    if x ∈ names then Statement.runAll names (values.set x v) ss else failure
  | .ifThen e body :: ss => do
    let v ← Exp.run names values e
    if ops.isTrue v then do
      let (values, result) ← Statement.runAll names values body
      match result with
      | some v => pure (values, some v)
      | none => Statement.runAll names values ss
    else
      Statement.runAll names values ss
  | .forIn key value e body :: ss => do
    let v ← Exp.run names values e
    let items ← ops.items v
    let (inner, result) ← runItems (fun item values => Statement.runAll (key :: value :: names)
      ((values.set key item.1).set value item.2) body) items values
    match result with
    | some v => pure (inner, some v)
    | none =>
      -- Behind the loop, its variables are those from before it.
      Statement.runAll names ((inner.set key (values key)).set value (values value)) ss

end

def Exp.value (e : Exp) : StateT S Option V := e.run ops outer [] fun _ => ops.nil

end

mutual

def Exp.reads : Exp → List String
  | .name x => [x]
  | .table items => Exp.readsAll items
  | .function parameter body => (Statement.readsAll body).filter (· ≠ parameter)
  | .index e key => e.reads ++ key.reads
  | .call f arguments => f.reads ++ Exp.readsAll arguments
  | .not e => e.reads
  | .minus e => e.reads
  | .binary _ a b => a.reads ++ b.reads
  | _ => []

def Exp.readsAll : List Exp → List String
  | [] => []
  | e :: es => e.reads ++ Exp.readsAll es

def Statement.readsAll : List Statement → List String
  | [] => []
  | .giveBack e :: ss => e.reads ++ Statement.readsAll ss
  | .assign _ e :: ss => e.reads ++ Statement.readsAll ss
  | .ifThen e body :: ss => e.reads ++ Statement.readsAll body ++ Statement.readsAll ss
  | .forIn key value e body :: ss =>
    e.reads ++ (Statement.readsAll body).filter (fun x => x ≠ key ∧ x ≠ value) ++
      Statement.readsAll ss

end

section

variable {S V : Type} (ops : Operations S V)

theorem Exp.run_call_of_ne_function (outer : Bindings V) (names : List String) (values : Bindings V)
    {f : Exp} (h : ∀ parameter body, f ≠ .function parameter body) (arguments : List Exp) :
    (Exp.call f arguments).run ops outer names values =
      (f.run ops outer names values >>= fun v =>
        Exp.runAll ops outer names values arguments >>= ops.call v) := by
  rw [Exp.run]
  exact h

variable {outer outer' : Bindings V}

mutual

theorem Exp.run_congr (names : List String) (values : Bindings V) (e : Exp)
    (h : ∀ x ∈ e.reads, x ∉ names → outer x = outer' x) :
    e.run ops outer names values = e.run ops outer' names values := by
  match e with
  | .nil | .true | .false | .number _ | .string _ => simp only [Exp.run]
  | .function _ _ => simp only [Exp.run]
  | .name x =>
    simp only [Exp.run]
    split
    . rfl
    . next hx => rw [h x (by simp [Exp.reads]) hx]
  | .table items =>
    have hitems := Exp.runAll_congr names values items h
    simp only [Exp.run, hitems]
  | .index e key =>
    simp only [Exp.reads, List.mem_append, or_imp, forall_and] at h
    have he := Exp.run_congr names values e h.1
    have hkey := Exp.run_congr names values key h.2
    simp only [Exp.run, he, hkey]
  | .call f arguments =>
    simp only [Exp.reads, List.mem_append, or_imp, forall_and] at h
    have harguments := Exp.runAll_congr names values arguments h.2
    by_cases hf : ∃ parameter body, f = .function parameter body
    . obtain ⟨parameter, body, rfl⟩ := hf
      have hbody : names = [] → ∀ x ∈ Statement.readsAll body, x ∉ [parameter] →
          outer x = outer' x := by
        intro hnames x hx hne
        apply h.1 x _ (by simp [hnames])
        simpa [Exp.reads, hx] using hne
      simp only [Exp.run, harguments]
      split
      . next hnames =>
        have hrun := fun values => Statement.runAll_congr [parameter] values body (hbody hnames)
        simp only [hrun]
      . rfl
    . have hne : ∀ parameter body, f ≠ .function parameter body := by
        intro parameter body heq
        exact hf ⟨parameter, body, heq⟩
      have hrun := Exp.run_congr names values f h.1
      simp only [Exp.run_call_of_ne_function ops _ names values hne, hrun, harguments]
  | .not e =>
    have he := Exp.run_congr names values e h
    simp only [Exp.run, he]
  | .minus e =>
    have he := Exp.run_congr names values e h
    simp only [Exp.run, he]
  | .binary op a b =>
    simp only [Exp.reads, List.mem_append, or_imp, forall_and] at h
    have ha := Exp.run_congr names values a h.1
    have hb := Exp.run_congr names values b h.2
    cases op <;> simp only [Exp.run, ha, hb]

theorem Exp.runAll_congr (names : List String) (values : Bindings V) (es : List Exp)
    (h : ∀ x ∈ Exp.readsAll es, x ∉ names → outer x = outer' x) :
    Exp.runAll ops outer names values es = Exp.runAll ops outer' names values es := by
  match es with
  | [] => rfl
  | e :: es =>
    simp only [Exp.readsAll, List.mem_append, or_imp, forall_and] at h
    have he := Exp.run_congr names values e h.1
    have hes := Exp.runAll_congr names values es h.2
    simp only [Exp.runAll, he, hes]

theorem Statement.runAll_congr (names : List String) (values : Bindings V) (ss : List Statement)
    (h : ∀ x ∈ Statement.readsAll ss, x ∉ names → outer x = outer' x) :
    Statement.runAll ops outer names values ss = Statement.runAll ops outer' names values ss := by
  match ss with
  | [] => simp only [Statement.runAll]
  | .giveBack e :: ss =>
    simp only [Statement.readsAll, List.mem_append, or_imp, forall_and] at h
    have he := Exp.run_congr names values e h.1
    simp only [Statement.runAll, he]
  | .assign x e :: ss =>
    simp only [Statement.readsAll, List.mem_append, or_imp, forall_and] at h
    have he := Exp.run_congr names values e h.1
    have hss := fun values => Statement.runAll_congr names values ss h.2
    simp only [Statement.runAll, he, hss]
  | .ifThen e body :: ss =>
    simp only [Statement.readsAll, List.mem_append, or_imp, forall_and] at h
    have he := Exp.run_congr names values e h.1.1
    have hbody := fun values => Statement.runAll_congr names values body h.1.2
    have hss := fun values => Statement.runAll_congr names values ss h.2
    simp only [Statement.runAll, he, hbody, hss]
  | .forIn key value e body :: ss =>
    simp only [Statement.readsAll, List.mem_append, or_imp, forall_and] at h
    have he := Exp.run_congr names values e h.1.1
    have hbody := fun values => Statement.runAll_congr (key :: value :: names) values body (by
      intro x hx hne
      simp only [List.mem_cons, not_or] at hne
      exact h.1.2 x (by simp [hx, hne]) hne.2.2)
    have hss := fun values => Statement.runAll_congr names values ss h.2
    simp only [Statement.runAll, he, hbody, hss]

end

theorem Exp.value_congr {e : Exp} (h : ∀ x ∈ e.reads, outer x = outer' x) :
    e.value ops outer = e.value ops outer' :=
  Exp.run_congr ops [] _ e fun x hx _ => h x hx

end

end LogSieve.Lua

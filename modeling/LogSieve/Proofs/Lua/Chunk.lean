import LogSieve.Proofs.Lua.Reading
import LogSieve.Proofs.Lua.Scope

/-!
This module contains Lua text that consists of commands: its reader, what it does, and when a command
does the same with the local names of the commands before it as without them.
-/

namespace LogSieve.Lua

inductive Command where
  | declare (name : String) (e : Exp)
  | store (table key e : Exp)
  | ifThen (e : Exp) (body : List Command)
  | forIn (key value : String) (e : Exp) (body : List Command)

namespace Reader

def commands : Nat → List Token → Option (List Command × List Token)
  | 0, _ => none
  | n + 1, ts =>
    match ts with
    | .keyword "local" :: .name name :: .symbol "=" :: ts =>
      match expression n 0 ts with
      | some (e, rest) => (commands n rest).map fun (next, rest) => (.declare name e :: next, rest)
      | none => none
    | .keyword "if" :: ts =>
      match expression n 0 ts with
      | some (e, .keyword "then" :: rest) =>
        match commands n rest with
        | some (body, .keyword "end" :: rest) =>
          (commands n rest).map fun (next, rest) => (.ifThen e body :: next, rest)
        | _ => none
      | _ => none
    | .keyword "for" :: .name key :: .symbol "," :: .name value :: .keyword "in" :: ts =>
      match expression n 0 ts with
      | some (e, .keyword "do" :: rest) =>
        match commands n rest with
        | some (body, .keyword "end" :: rest) =>
          (commands n rest).map fun (next, rest) => (.forIn key value e body :: next, rest)
        | _ => none
      | _ => none
    | .name name :: ts =>
      match suffixes n (.name name) ts with
      | some (.index table key, .symbol "=" :: rest) =>
        match expression n 0 rest with
        | some (e, rest) =>
          (commands n rest).map fun (next, rest) => (.store table key e :: next, rest)
        | none => none
      | _ => none
    | ts => some ([], ts)

end Reader

def readChunk? (text : String) : Option (List Command) :=
  let ts := tokens text
  match Reader.commands (10 * ts.length + 10) ts with
  | some (cs, []) => some cs
  | _ => none

namespace Command

def declared : Command → List String
  | .declare name _ => [name]
  | _ => []

mutual

def reads : Command → List String
  | .declare _ e => e.reads
  | .store table key e => table.reads ++ key.reads ++ e.reads
  | .ifThen e body => e.reads ++ readsAll body
  | .forIn key value e body =>
    e.reads ++ (readsAll body).filter (fun x => x ≠ key ∧ x ≠ value)

def readsAll : List Command → List String
  | [] => []
  | c :: cs => c.reads ++ (readsAll cs).filter (· ∉ c.declared)

end

section

variable {S V : Type} (ops : Operations S V)

mutual

def exec (outer : Bindings V) : Command → StateT S Option (List (String × V))
  | .declare name e => do
    let v ← e.value ops outer
    pure [(name, v)]
  | .store table key e => do
    let t ← table.value ops outer
    let k ← key.value ops outer
    let v ← e.value ops outer
    ops.store t k v
    pure []
  | .ifThen e body => do
    let v ← e.value ops outer
    if ops.isTrue v then do
      let _ ← run outer body
      pure []
    else
      pure []
  | .forIn key value e body => do
    let v ← e.value ops outer
    let items ← ops.items v
    items.forM fun item => do
      let _ ← run ((outer.set key item.1).set value item.2) body
    pure []

def run (outer : Bindings V) : List Command → StateT S Option (List (String × V))
  | [] => pure []
  | c :: cs => do
    let locals ← exec outer c
    let rest ← run (outer.setAll locals) cs
    pure (locals ++ rest)

end

def runEach (outer : Bindings V) : List Command → StateT S Option (List (String × V))
  | [] => pure []
  | c :: cs => do
    let locals ← exec ops outer c
    let rest ← runEach outer cs
    pure (locals ++ rest)

theorem exec_bind_congr {α : Type} {outer : Bindings V} {c : Command}
    {f g : List (String × V) → StateT S Option α}
    (h : ∀ locals, locals.map (·.1) = c.declared → f locals = g locals) :
    c.exec ops outer >>= f = c.exec ops outer >>= g := by
  cases c with
  | declare name e =>
    have hname : ∀ v, f [(name, v)] = g [(name, v)] := fun v => h _ rfl
    simp only [exec, bind_assoc, pure_bind, hname]
  | store table key e =>
    have hnil : f [] = g [] := h [] rfl
    simp only [exec, bind_assoc, pure_bind, hnil]
  | ifThen e body =>
    have hnil : f [] = g [] := h [] rfl
    simp only [exec, bind_assoc]
    apply bind_congr
    intro v
    split <;> simp only [bind_assoc, pure_bind, hnil]
  | forIn key value e body =>
    have hnil : f [] = g [] := h [] rfl
    simp only [exec, bind_assoc, pure_bind, hnil]

mutual

theorem exec_congr {outer outer' : Bindings V} (c : Command)
    (h : ∀ x ∈ c.reads, outer x = outer' x) : c.exec ops outer = c.exec ops outer' := by
  match c with
  | .declare name e => simp only [exec, Exp.value_congr ops h]
  | .store table key e =>
    simp only [reads, List.mem_append, or_imp, forall_and] at h
    obtain ⟨⟨htable, hkey⟩, he⟩ := h
    simp only [exec, Exp.value_congr ops htable, Exp.value_congr ops hkey, Exp.value_congr ops he]
  | .ifThen e body =>
    simp only [reads, List.mem_append, or_imp, forall_and] at h
    simp only [exec, Exp.value_congr ops h.1, run_congr body h.2]
  | .forIn key value e body =>
    simp only [reads, List.mem_append, or_imp, forall_and] at h
    have hitem : ∀ item : V × V, run ops ((outer.set key item.1).set value item.2) body =
        run ops ((outer'.set key item.1).set value item.2) body := by
      intro item
      apply run_congr
      intro x hx
      apply Bindings.set_congr
      intro hvalue
      apply Bindings.set_congr
      intro hkey
      exact h.2 x (by simp [hx, hkey, hvalue])
    simp only [exec, Exp.value_congr ops h.1, hitem]

theorem run_congr {outer outer' : Bindings V} (cs : List Command)
    (h : ∀ x ∈ readsAll cs, outer x = outer' x) : run ops outer cs = run ops outer' cs := by
  match cs with
  | [] => simp only [run]
  | c :: cs =>
    simp only [readsAll, List.mem_append, or_imp, forall_and] at h
    simp only [run, exec_congr c h.1]
    apply exec_bind_congr
    intro locals hlocals
    have hrest : run ops (outer.setAll locals) cs = run ops (outer'.setAll locals) cs := by
      apply run_congr
      intro x hx
      apply Bindings.setAll_congr
      intro hne
      exact h.2 x (by simpa [hx, hlocals] using hne)
    rw [hrest]

end

theorem runEach_congr {outer outer' : Bindings V} {cs : List Command}
    (h : ∀ c ∈ cs, ∀ x ∈ c.reads, outer x = outer' x) :
    runEach ops outer cs = runEach ops outer' cs := by
  induction cs with
  | nil => rfl
  | cons c cs ih =>
    rw [List.forall_mem_cons] at h
    simp only [runEach, exec_congr ops c h.1, ih h.2]

def Unshadowed (cs : List Command) : Prop :=
  cs.Pairwise fun c d => ∀ x ∈ c.declared, x ∉ d.reads

theorem run_eq_runEach {cs : List Command} (h : Unshadowed cs) (outer : Bindings V) :
    run ops outer cs = runEach ops outer cs := by
  induction cs generalizing outer with
  | nil => rfl
  | cons c cs ih =>
    obtain ⟨hc, hcs⟩ := List.pairwise_cons.1 h
    rw [run, runEach]
    apply exec_bind_congr
    intro locals hlocals
    -- The induction gives the rest with the new names, none of which it reads.
    have hrest : run ops (outer.setAll locals) cs = runEach ops outer cs := by
      rw [ih hcs]
      apply runEach_congr
      intro d hd x hx
      apply Bindings.setAll_of_not_mem
      rw [hlocals]
      intro hmem
      exact hc d hd x hmem hx
    rw [hrest]

end

end Command

theorem State.step_newline_of_step_space {s : State} {ts : List Token}
    (h : s.step ' ' = (ts, .idle)) : s.step '\n' = (ts, .idle) := by
  cases s with
  | idle => exact h
  | word cs => exact h
  | numeral cs => exact h
  | operator o => exact h
  | string cs => simp [step, continueString] at h
  | escape cs => simp [step, continueEscape] at h
  | code cs n digits =>
    simp only [step] at h
    split at h
    . simp at h
    . split at h
      . simp [continueString] at h
      . simp at h
  | failed => simp [step] at h

theorem Spells.newline {text : String} {ts : List Token} (h : Spells text ts) :
    Scans .idle (text ++ "\n") ts .idle := by
  have hspace := h.space
  unfold Scans at hspace ⊢
  rw [String.toList_append, State.run_append] at hspace ⊢
  generalize State.idle.run text.toList = r at hspace ⊢
  obtain ⟨us, s⟩ := r
  have hidle : (s.step ' ').2 = .idle := (Prod.mk.inj hspace).2
  have hstep : s.step ' ' = ((s.step ' ').1, .idle) := Prod.ext rfl hidle
  have hrun : s.run "\n".toList = s.run " ".toList := by
    have hnewline : s.step '\n' = s.step ' ' := by
      rw [State.step_newline_of_step_space hstep, ← hstep]
    simp only [String.reduceToList, State.run, hnewline]
  rw [hrun]
  exact hspace

namespace Reader

structure IsChunk (ts : List Token) (cs : List Command) : Prop where
  endsExpression : EndsExpression ts
  commands_eq : ∀ n, 10 * ts.length < n → commands n ts = some (cs, [])

theorem isChunk_nil : IsChunk [] [] := by
  refine ⟨endsExpression_nil, ?_⟩
  intro n hn
  obtain ⟨m, rfl⟩ : ∃ m, n = m + 1 := ⟨n - 1, by omega⟩
  rfl

theorem IsChunk.declare {ts us : List Token} {e : Exp} {cs : List Command} (h : IsChunk ts cs)
    (h' : IsOperand us e) (name : String) :
    IsChunk (.keyword "local" :: .name name :: .symbol "=" :: (us ++ ts))
      (.declare name e :: cs) := by
  refine ⟨⟨endsSuffixes_keyword "local" _, fun _ _ _ => rfl⟩, ?_⟩
  intro n hn
  simp only [List.length_cons, List.length_append] at hn
  obtain ⟨m, rfl⟩ : ∃ m, n = m + 1 := ⟨n - 1, by omega⟩
  have he := h'.isExpression 0 m ts (by omega) h.endsExpression
  rw [commands, he]
  simp only [h.commands_eq m (by omega)]
  rfl

theorem IsChunk.readChunk? {text : String} {ts : List Token} {cs : List Command}
    (h : IsChunk ts cs) (htext : Scans .idle text ts .idle) : readChunk? text = some cs := by
  unfold Lua.readChunk?
  rw [htext.tokens_eq]
  simp only [h.commands_eq (10 * ts.length + 10) (by omega)]

end Reader

end LogSieve.Lua

import LogSieve.Proofs.ScanOutcome
import LogSieve.Stage.Step

/-!
This module contains readers that make the same of a text and of the text whose blanks are escaped.
They are composed from smaller ones by the same combinators as the readers themselves.
-/

namespace LogSieve

def escapedText (cs : List Char) : List Char := cs.flatMap escapeBlanks.escape

theorem toList_escapeBlanks (text : String) :
    (escapeBlanks text).toList = escapedText text.toList := by
  simp [escapeBlanks, escapedText]

theorem escapedText_cons_of_not_mem {c : Char} (h : c ∉ optionBlanks) (cs : List Char) :
    escapedText (c :: cs) = c :: escapedText cs := by
  simp [escapedText, escapeBlanks.escape_of_not_mem h]

theorem escapedText_cons_of_mem {c : Char} (h : c ∈ optionBlanks) (cs : List Char) :
    ∃ ds, escapedText (c :: cs) = '\\' :: ds := by
  simp only [optionBlanks, List.mem_cons, List.not_mem_nil, or_false] at h
  rcases h with rfl | rfl | rfl | rfl <;> exact ⟨_, rfl⟩

theorem escapedText_cons_ne_nil (c : Char) (cs : List Char) : escapedText (c :: cs) ≠ [] := by
  by_cases hc : c ∈ optionBlanks
  . obtain ⟨ds, htext⟩ := escapedText_cons_of_mem hc cs
    simp [htext]
  . simp [escapedText_cons_of_not_mem hc]

theorem escapedText_eq_self {cs : List Char} (h : ∀ c ∈ cs, c ∉ optionBlanks) :
    escapedText cs = cs := by
  induction cs with
  | nil => rfl
  | cons c cs ih =>
    rw [List.forall_mem_cons] at h
    rw [escapedText_cons_of_not_mem h.1, ih h.2]

theorem exists_eq_append_of_escapedText (start : List Char) {cs ds : List Char}
    (hstart : '\\' ∉ start) (h : escapedText cs = start ++ ds) :
    ∃ cs', cs = start ++ cs' ∧ ds = escapedText cs' := by
  induction start generalizing cs with
  | nil => exact ⟨cs, rfl, h.symm⟩
  | cons c start ih =>
    rw [List.mem_cons, not_or] at hstart
    cases cs with
    | nil => simp [escapedText] at h
    | cons d cs =>
      by_cases hd : d ∈ optionBlanks
      . obtain ⟨_, htext⟩ := escapedText_cons_of_mem hd cs
        rw [htext] at h
        injection h with h
        exact absurd h hstart.1
      . rw [escapedText_cons_of_not_mem hd] at h
        injection h with hd h
        obtain ⟨cs', rfl, hds⟩ := ih hstart.2 h
        exact ⟨cs', by rw [hd]; rfl, hds⟩

theorem takeWhile_escapedText {p : Char → Bool} {cs : List Char} (hp : p '\\' = false)
    (h : ∀ c ∈ cs.takeWhile p, c ∉ optionBlanks) :
    (escapedText cs).takeWhile p = cs.takeWhile p ∧
      (escapedText cs).dropWhile p = escapedText (cs.dropWhile p) := by
  induction cs with
  | nil => exact ⟨rfl, rfl⟩
  | cons c cs ih =>
    by_cases hblank : c ∈ optionBlanks
    . have hc : p c = false := by
        rw [Bool.eq_false_iff]
        intro hc
        exact h c (by simp [hc]) hblank
      obtain ⟨_, htext⟩ := escapedText_cons_of_mem hblank cs
      rw [List.takeWhile_cons_of_neg (by simp [hc]), List.dropWhile_cons_of_neg (by simp [hc]), htext]
      simp [hp]
    . rw [escapedText_cons_of_not_mem hblank]
      cases hc : p c with
      | true =>
        rw [List.takeWhile_cons_of_pos hc, List.forall_mem_cons] at h
        simp [hc, ih h.2]
      | false => simp [hc, escapedText_cons_of_not_mem hblank]

namespace Scan

variable {α β σ : Type} {P P' : List Char → Prop} {Q Q' : α → List Char → Prop}
  {R : β → List Char → Prop}

def escapedOutcome : Option (α × Bool × List Char) → Option (α × Bool × List Char) :=
  Option.map fun (a, took, cs) => (a, took, escapedText cs)

/--
Every text with `P` is rejected together with the escaped text, or both give the same result and the
rests are a text with `Q` and the escaped text of it.
-/
structure Follows (P : List Char → Prop) (x : Scan α) (Q : α → List Char → Prop) : Prop where
  outcome_escaped : ∀ cs, P cs → outcome x (escapedText cs) = escapedOutcome (outcome x cs)
  rest : ∀ {cs a took cs'}, P cs → outcome x cs = some (a, took, cs') → Q a cs'

namespace Follows

variable {x y : Scan α} {f : α → Scan β}

theorem mono (h : Follows P x Q) (hP : ∀ cs, P' cs → P cs) (hQ : ∀ a cs, Q a cs → Q' a cs) :
    Follows P' x Q' where
  outcome_escaped cs hcs := h.outcome_escaped cs (hP cs hcs)
  rest hcs hx := hQ _ _ (h.rest (hP _ hcs) hx)

theorem bind (hx : Follows P x Q) (hf : ∀ a, Follows (Q a) (f a) R) : Follows P (x >>= f) R where
  outcome_escaped cs hcs := by
    rw [outcome_bind, outcome_bind, hx.outcome_escaped cs hcs]
    cases h : outcome x cs with
    | none => rfl
    | some r =>
      obtain ⟨a, took, cs'⟩ := r
      simp only [escapedOutcome, Option.map_some, Option.bind_some]
      rw [(hf a).outcome_escaped cs' (hx.rest hcs h), escapedOutcome, Option.map_map, Option.map_map]
      rfl
  rest hcs h := by
    obtain ⟨a, _, cs', _, hx', hf'⟩ := exists_of_outcome_bind h
    exact (hf a).rest (hx.rest hcs hx') hf'

theorem pure {a : α} (h : ∀ cs, P cs → Q a cs) : Follows P (Pure.pure a) Q where
  outcome_escaped cs _ := rfl
  rest hcs h' := by
    simp only [outcome_pure, Option.some.injEq, Prod.mk.injEq] at h'
    rw [← h'.1, ← h'.2.2]
    exact h _ hcs

theorem result (a : α) : Follows P (Pure.pure a) (fun _ => P) := pure fun _ h => h

theorem failure : Follows P (Alternative.failure : Scan α) Q where
  outcome_escaped cs _ := rfl
  rest _ h := by simp at h

theorem check (b : Bool) : Follows P (check b) (fun _ => P) := by
  cases b with
  | false => exact failure
  | true => exact result ()

theorem orElse (hx : Follows P x Q) (hy : Follows P y Q) : Follows P (x <|> y) Q where
  outcome_escaped cs hcs := by
    rw [outcome_orElse, outcome_orElse, hx.outcome_escaped cs hcs, hy.outcome_escaped cs hcs]
    cases outcome x cs <;> rfl
  rest hcs h := by
    rw [outcome_orElse, Option.or_eq_some_iff] at h
    rcases h with h | ⟨_, h⟩
    . exact hx.rest hcs h
    . exact hy.rest hcs h

theorem map {g : α → β} (hx : Follows P x Q) (hR : ∀ a cs, Q a cs → R (g a) cs) :
    Follows P (g <$> x) R :=
  hx.bind fun a => pure (hR a)

theorem seqLeft {y : Scan β} (hx : Follows P x Q) (hy : ∀ a, Follows (Q a) y (fun _ => Q a)) :
    Follows P (x <* y) Q := by
  have hseq : (x <* y) = x >>= fun a => y >>= fun _ => Pure.pure a := rfl
  rw [hseq]
  exact hx.bind fun a => (hy a).bind fun _ => pure fun _ h => h

theorem seqRight {y : Scan β} (hx : Follows P x Q) (hy : ∀ a, Follows (Q a) y R) :
    Follows P (x *> y) R := by
  have hseq : (x *> y) = x >>= fun _ => y := rfl
  rw [hseq]
  exact hx.bind hy

theorem accepts (hx : Follows P x (fun _ => P)) : Follows P (accepts x) (fun _ => P) :=
  (hx.map fun _ _ h => h).orElse (result _)

theorem option? (hx : Follows P x (fun _ => P)) : Follows P (option? x) (fun _ => P) :=
  (hx.map fun _ _ h => h).orElse (result _)

theorem loop {I : σ → List Char → Prop} {step : σ → Scan (σ ⊕ α)}
    (h : ∀ s, Follows (I s) (step s) (Sum.elim I Q)) (s : σ) : Follows (I s) (loop step s) Q := by
  have hboth : ∀ n, ∀ s cs, cs.length < n → I s cs →
      outcome (Scan.loop step s) (escapedText cs) = escapedOutcome (outcome (Scan.loop step s) cs) ∧
      ∀ a took cs', outcome (Scan.loop step s) cs = some (a, took, cs') → Q a cs' := by
    intro n
    induction n with
    | zero =>
      intro s cs hn
      omega
    | succ n ih =>
      intro s cs hn hcs
      rw [outcome_loop, outcome_loop, (h s).outcome_escaped cs hcs]
      cases hstep : outcome (step s) cs with
      | none => exact ⟨rfl, by simp⟩
      | some r =>
        have hrest := @(h s).rest cs
        obtain ⟨s' | a, took, cs'⟩ := r
        . have hcs' : I s' cs' := hrest hcs hstep
          cases took with
          | false => exact ⟨rfl, by simp⟩
          | true =>
            have hlength := length_lt_of_outcome hstep
            obtain ⟨hescaped, hQ⟩ := ih s' cs' (by omega) hcs'
            simp only [escapedOutcome, Option.map_some, Option.bind_some, if_true] at hescaped ⊢
            rw [hescaped]
            refine ⟨by cases outcome (Scan.loop step s') cs' <;> rfl, ?_⟩
            intro a took cs'' hloop
            obtain ⟨⟨a', took', cs'''⟩, hloop', heq⟩ := Option.map_eq_some_iff.1 hloop
            simp only [Prod.mk.injEq] at heq
            rw [← heq.1, ← heq.2.2]
            exact hQ _ _ _ hloop'
        . have hcs' : Q a cs' := hrest hcs hstep
          refine ⟨rfl, ?_⟩
          intro a' took' cs'' heq
          simp only [Option.bind_some, Option.some.injEq, Prod.mk.injEq] at heq
          rw [← heq.1, ← heq.2.2]
          exact hcs'
  constructor
  . intro cs hcs
    exact (hboth _ s cs (Nat.lt_succ_self _) hcs).1
  . intro cs a took cs' hcs h
    exact (hboth _ s cs (Nat.lt_succ_self _) hcs).2 a took cs' h

theorem many (hx : Follows P x (fun _ => P)) : Follows P (many x) (fun _ => P) := by
  apply loop (I := fun _ => P)
  intro found
  exact (hx.bind fun a => pure fun _ h => h).orElse (pure fun _ h => h)

theorem ahead {f : List Char → Scan α} (hf : ∀ cs, P cs → f (escapedText cs) = f cs)
    (h : ∀ ds, Follows (fun cs => cs = ds ∧ P cs) (f ds) Q) : Follows P (ahead >>= f) Q where
  outcome_escaped cs hcs := by
    rw [outcome_ahead_bind, outcome_ahead_bind, hf cs hcs]
    exact (h cs).outcome_escaped cs ⟨rfl, hcs⟩
  rest {cs} a took cs' hcs hx := by
    rw [outcome_ahead_bind] at hx
    exact (h cs).rest ⟨rfl, hcs⟩ hx

theorem next {f : Char → Scan α}
    (hf : ∀ c, c ∉ optionBlanks → Follows (fun cs => P (c :: cs)) (f c) Q)
    (hblank : ∀ c ∈ optionBlanks, ∀ cs, P (c :: cs) →
      outcome (next >>= f) (escapedText (c :: cs)) = escapedOutcome (outcome (next >>= f) (c :: cs)) ∧
      ∀ a took cs', outcome (next >>= f) (c :: cs) = some (a, took, cs') → Q a cs') :
    Follows P (next >>= f) Q where
  outcome_escaped cs hcs := by
    cases cs with
    | nil => rfl
    | cons c cs =>
      by_cases hc : c ∈ optionBlanks
      . exact (hblank c hc cs hcs).1
      . rw [escapedText_cons_of_not_mem hc, outcome_next_bind, outcome_next_bind,
          (hf c hc).outcome_escaped cs hcs]
        cases outcome (f c) cs <;> rfl
  rest {cs} a took cs' hcs hx := by
    cases cs with
    | nil => simp [outcome_bind, outcome_next_nil] at hx
    | cons c cs =>
      by_cases hc : c ∈ optionBlanks
      . exact (hblank c hc cs hcs).2 _ _ _ hx
      . rw [outcome_next_bind] at hx
        obtain ⟨⟨a', took', cs''⟩, hx', heq⟩ := Option.map_eq_some_iff.1 hx
        simp only [Prod.mk.injEq] at heq
        rw [← heq.1, ← heq.2.2]
        exact (hf c hc).rest hcs hx'

theorem next_of_reject {f : Char → Scan α}
    (hf : ∀ c, c ∉ optionBlanks → Follows (fun cs => P (c :: cs)) (f c) Q)
    (hreject : ∀ c ∈ '\\' :: optionBlanks, ∀ cs, outcome (f c) cs = none) :
    Follows P (Scan.next >>= f) Q := by
  rw [List.forall_mem_cons] at hreject
  apply next hf
  intro c hc cs _
  obtain ⟨_, htext⟩ := escapedText_cons_of_mem hc cs
  rw [htext, outcome_next_bind, outcome_next_bind, hreject.2 c hc, hreject.1]
  exact ⟨rfl, by simp⟩

theorem satisfy_of_blank {p : Char → Bool}
    (hp : ∀ c cs, P (c :: cs) → c ∈ optionBlanks → p c = false ∧ p '\\' = false) :
    Follows P (satisfy p) (fun c cs => p c = true ∧ P (c :: cs)) := by
  constructor
  . intro cs hcs
    cases cs with
    | nil => rfl
    | cons c cs =>
      by_cases hc : c ∈ optionBlanks
      . obtain ⟨_, htext⟩ := escapedText_cons_of_mem hc cs
        obtain ⟨hblank, hbackslash⟩ := hp c cs hcs hc
        rw [htext, outcome_satisfy_cons, outcome_satisfy_cons, hblank, hbackslash]
        rfl
      . rw [escapedText_cons_of_not_mem hc, outcome_satisfy_cons, outcome_satisfy_cons]
        split <;> rfl
  . intro cs c took cs' hcs h
    cases cs with
    | nil => simp [outcome_satisfy_nil] at h
    | cons d cs =>
      rw [outcome_satisfy_cons] at h
      split at h
      . next hd =>
        simp only [Option.some.injEq, Prod.mk.injEq] at h
        rw [← h.1, ← h.2.2]
        exact ⟨hd, hcs⟩
      . simp at h

theorem satisfy {p : Char → Bool} (hp : ∀ c ∈ '\\' :: optionBlanks, p c = false) :
    Follows P (satisfy p) (fun c cs => p c = true ∧ P (c :: cs)) := by
  rw [List.forall_mem_cons] at hp
  apply satisfy_of_blank
  intro c cs _ hc
  exact ⟨hp.2 c hc, hp.1⟩

theorem char {c : Char} (hc : c ∉ optionBlanks) (hc' : c ≠ '\\') :
    Follows P (char c) (fun _ cs => P (c :: cs)) := by
  have hsatisfy : Follows P (Scan.satisfy (· == c)) (fun d cs => (d == c) = true ∧ P (d :: cs)) := by
    apply satisfy
    intro d hd
    rw [beq_eq_false_iff_ne]
    rintro rfl
    exact (List.mem_cons.1 hd).elim hc' hc
  apply hsatisfy.bind
  intro d
  apply pure
  rintro cs ⟨hd, hcs⟩
  rw [← beq_iff_eq.1 hd]
  exact hcs

theorem accepts_char {c : Char} (hc : c ∉ optionBlanks) (hc' : c ≠ '\\') :
    Follows P (Scan.accepts (Scan.char c)) (fun b cs => if b then P (c :: cs) else P cs) := by
  apply orElse
  . exact (char hc hc').map fun _ _ h => h
  . exact .pure fun _ h => h

theorem takeWhile {p : Char → Bool} (hp : p '\\' = false)
    (hP : ∀ c cs, P (c :: cs) → p c = true → c ∉ optionBlanks ∧ P cs) :
    Follows P (takeWhile p) (fun _ => P) := by
  have hboth : ∀ cs, P cs → (∀ c ∈ cs.takeWhile p, c ∉ optionBlanks) ∧ P (cs.dropWhile p) := by
    intro cs hcs
    induction cs with
    | nil => exact ⟨by simp, hcs⟩
    | cons c cs ih =>
      cases hc : p c with
      | true =>
        obtain ⟨hblank, hcs'⟩ := hP c cs hcs hc
        simpa [hc, hblank] using ih hcs'
      | false => simpa [hc] using hcs
  constructor
  . intro cs hcs
    obtain ⟨htake, hdrop⟩ := takeWhile_escapedText hp (hboth cs hcs).1
    rw [outcome_takeWhile, outcome_takeWhile, htake, hdrop]
    rfl
  . intro cs taken took cs' hcs h
    rw [outcome_takeWhile] at h
    simp only [Option.some.injEq, Prod.mk.injEq] at h
    rw [← h.2.2]
    exact (hboth cs hcs).2

theorem foldlM {I : List Char → Prop} {f : β → α → Scan β} (h : ∀ b a, Follows I (f b a) (fun _ => I))
    (as : List α) (b : β) : Follows I (as.foldlM f b) (fun _ => I) := by
  induction as generalizing b with
  | nil => exact result b
  | cons a as ih =>
    rw [List.foldlM_cons]
    exact (h b a).bind ih

end Follows

end Scan

end LogSieve

import Mathlib.Data.List.TakeWhile
import LogSieve.Proofs.ScanOutcome
import LogSieve.Value.Reader

/-!
This module contains that a carriage return at the end of a text does not change the value that the
text stands for. Readers that do not ask for it leave it, or come to the end of the text with it.
-/

namespace LogSieve

namespace Scan

variable {α β σ : Type} {g : Char}

theorem rest_eq_nil_of_outcome_nil {x : Scan α} {a : α} {took : Bool} {rest : List Char}
    (h : outcome x [] = some (a, took, rest)) : rest = [] := by
  obtain ⟨⟨_, r⟩, _, hr⟩ := Option.map_eq_some_iff.1 h
  simp only [Prod.mk.injEq] at hr
  rw [← hr.2.2]
  exact List.eq_nil_of_length_eq_zero (Nat.le_zero.1 r.length_le)

/--
Outcomes for a text and for the text with `g` behind it: both are the same, apart from `g` behind what
is left, or from `g` being taken at the end.
-/
inductive Alike (g : Char) :
    Option (α × Bool × List Char) → Option (α × Bool × List Char) → Prop where
  | rejected : Alike g none none
  | left (a : α) (took took' : Bool) (rest : List Char) :
      Alike g (some (a, took, rest)) (some (a, took', rest ++ [g]))
  | taken (a : α) (took took' : Bool) : Alike g (some (a, took, [])) (some (a, took', []))

theorem alike_nil (g : Char) (x : Scan α) : Alike g (outcome x []) (outcome x []) := by
  cases h : outcome x [] with
  | none => exact .rejected
  | some r =>
    obtain ⟨a, took, rest⟩ := r
    rw [rest_eq_nil_of_outcome_nil h]
    exact .taken a took took

theorem Alike.map {o o' : Option (α × Bool × List Char)} (h : Alike g o o') (f : α → β)
    (k k' : Bool → Bool) :
    Alike g (o.map fun (a, took, rest) => (f a, k took, rest))
      (o'.map fun (a, took, rest) => (f a, k' took, rest)) := by
  cases h with
  | rejected => exact .rejected
  | left a took took' rest => exact .left (f a) (k took) (k' took') rest
  | taken a took took' => exact .taken (f a) (k took) (k' took')

def Overlooks (g : Char) (x : Scan α) : Prop := ∀ cs, Alike g (outcome x cs) (outcome x (cs ++ [g]))

def Takes (x : Scan α) : Prop := ∀ cs a took rest, outcome x cs = some (a, took, rest) → took = true

theorem Takes.bind {x : Scan α} (hx : Takes x) (f : α → Scan β) : Takes (x >>= f) := by
  intro cs b took rest h
  rw [outcome_bind, Option.bind_eq_some_iff] at h
  obtain ⟨⟨a, took₁, cs'⟩, hx', h⟩ := h
  obtain ⟨⟨b', took₂, cs''⟩, _, heq⟩ := Option.map_eq_some_iff.1 h
  simp only [Prod.mk.injEq] at heq
  rw [← heq.2.1, hx _ _ _ _ hx', Bool.true_or]

theorem takes_satisfy (p : Char → Bool) : Takes (satisfy p) := by
  intro cs a took rest h
  cases cs with
  | nil => simp [outcome_satisfy_nil] at h
  | cons c cs =>
    rw [outcome_satisfy_cons] at h
    split at h
    . simp only [Option.some.injEq, Prod.mk.injEq] at h
      rw [← h.2.1]
    . simp at h

namespace Overlooks

variable {x y : Scan α}

theorem pure (a : α) : Overlooks g (Pure.pure a : Scan α) := fun cs => .left a false false cs

theorem failure : Overlooks g (Alternative.failure : Scan α) := fun _ => .rejected

theorem bind {f : α → Scan β} (hx : Overlooks g x) (hf : ∀ a, Overlooks g (f a)) :
    Overlooks g (x >>= f) := by
  intro cs
  rw [outcome_bind, outcome_bind]
  have h := hx cs
  generalize outcome x cs = o, outcome x (cs ++ [g]) = o' at h
  cases h with
  | rejected => exact .rejected
  | left a took took' rest => exact (hf a rest).map id (took || ·) (took' || ·)
  | taken a took took' => exact (alike_nil g (f a)).map id (took || ·) (took' || ·)

theorem map (hx : Overlooks g x) (f : α → β) : Overlooks g (f <$> x) := hx.bind fun a => pure (f a)

theorem seqRight {y : Scan β} (hx : Overlooks g x) (hy : Overlooks g y) : Overlooks g (x *> y) :=
  hx.bind fun _ => hy

theorem orElse (hx : Overlooks g x) (hy : Overlooks g y) : Overlooks g (x <|> y) := by
  intro cs
  rw [outcome_orElse, outcome_orElse]
  have h := hx cs
  generalize outcome x cs = o, outcome x (cs ++ [g]) = o' at h
  cases h with
  | rejected => exact hy cs
  | left a took took' rest => exact .left a took took' rest
  | taken a took took' => exact .taken a took took'

theorem check (b : Bool) : Overlooks g (check b) := by
  cases b with
  | false => exact failure
  | true => exact pure ()

theorem accepts (hx : Overlooks g x) : Overlooks g (accepts x) := (hx.map _).orElse (pure _)

theorem option? (hx : Overlooks g x) : Overlooks g (option? x) := (hx.map _).orElse (pure _)

theorem next {f : Char → Scan α} (hf : ∀ c, Overlooks g (f c)) (hg : outcome (f g) [] = none) :
    Overlooks g (next >>= f) := by
  intro cs
  cases cs with
  | nil =>
    rw [List.nil_append, outcome_next_bind, hg]
    exact .rejected
  | cons c cs =>
    rw [List.cons_append, outcome_next_bind, outcome_next_bind]
    exact (hf c cs).map id (fun _ => true) (fun _ => true)

theorem satisfy {p : Char → Bool} (hp : p g = false) : Overlooks g (satisfy p) := by
  intro cs
  cases cs with
  | nil =>
    rw [List.nil_append, outcome_satisfy_cons, hp]
    exact .rejected
  | cons c cs =>
    rw [List.cons_append, outcome_satisfy_cons, outcome_satisfy_cons]
    split
    . exact .left c true true cs
    . exact .rejected

theorem char {c : Char} (hc : g ≠ c) : Overlooks g (char c) :=
  (satisfy (by simpa using hc)).bind fun _ => pure ()

theorem literal {cs : List Char} (hcs : g ∉ cs) : Overlooks g (literal cs) := by
  induction cs with
  | nil => exact pure _
  | cons c cs ih =>
    rw [List.mem_cons, not_or] at hcs
    exact (char hcs.1).bind fun _ => ih hcs.2

theorem takeWhile {p : Char → Bool} (hp : p g = false) : Overlooks g (takeWhile p) := by
  intro cs
  rw [outcome_takeWhile, outcome_takeWhile]
  have htake : (cs ++ [g]).takeWhile p = cs.takeWhile p ∧
      (cs ++ [g]).dropWhile p = cs.dropWhile p ++ [g] := by
    induction cs with
    | nil => simp [hp]
    | cons c cs ih => cases hc : p c <;> simp [hc, ih]
  rw [htake.1, htake.2]
  exact .left _ _ _ _

theorem takeWhile1 {p : Char → Bool} (hp : p g = false) : Overlooks g (takeWhile1 p) :=
  (takeWhile hp).bind fun _ => (check _).bind fun _ => pure _

theorem foldlM {f : β → α → Scan β} (h : ∀ b a, Overlooks g (f b a)) (as : List α) (b : β) :
    Overlooks g (as.foldlM f b) := by
  induction as generalizing b with
  | nil => exact pure b
  | cons a as ih =>
    rw [List.foldlM_cons]
    exact (h b a).bind ih

theorem loop {step : σ → Scan (σ ⊕ α)} (h : ∀ s, Overlooks g (step s))
    (htakes : ∀ {s cs s' took rest}, outcome (step s) cs = some (.inl s', took, rest) → took = true)
    (s : σ) : Overlooks g (loop step s) := by
  intro cs
  induction hn : cs.length using Nat.strongRecOn generalizing s cs with
  | ind n ih =>
    rw [outcome_loop, outcome_loop]
    have hstep := h s cs
    generalize ho : outcome (step s) cs = o, ho' : outcome (step s) (cs ++ [g]) = o' at hstep
    cases hstep with
    | rejected => exact .rejected
    | left r took took' rest =>
      cases r with
      | inr a => exact .left a took took' rest
      | inl s' =>
        obtain rfl := htakes ho
        obtain rfl := htakes ho'
        have hlength := length_lt_of_outcome ho
        exact (ih rest.length (by omega) s' rest rfl).map id (fun _ => true) (fun _ => true)
    | taken r took took' =>
      cases r with
      | inr a => exact .taken a took took'
      | inl s' =>
        obtain rfl := htakes ho
        obtain rfl := htakes ho'
        exact (alike_nil g (Scan.loop step s')).map id (fun _ => true) (fun _ => true)

theorem many (hx : Overlooks g x) (htakes : Takes x) : Overlooks g (many x) := by
  apply loop
  . intro found
    exact (hx.bind fun _ => pure _).orElse (pure _)
  . intro found cs s' took rest h
    rw [outcome_orElse, Option.or_eq_some_iff] at h
    rcases h with h | ⟨_, h⟩
    . exact htakes.bind _ _ _ _ _ h
    . simp at h

theorem sepBy {item : Scan α} {separator : Scan β} (hitem : Overlooks g item)
    (hseparator : Overlooks g separator) (htakes : Takes separator) :
    Overlooks g (sepBy item separator) := by
  apply orElse _ (pure [])
  apply hitem.bind
  intro first
  apply (many (hseparator.seqRight hitem) (htakes.bind _)).bind
  exact fun _ => pure _

end Overlooks

end Scan

namespace Value

open Scan

variable {α : Type} {g : Char}

theorem outcome_lexeme (x : Scan α) (cs : List Char) :
    outcome (lexeme x) cs =
      (outcome x cs).map fun (a, took, rest) =>
        (a, took || !(rest.takeWhile isGap).isEmpty, rest.dropWhile isGap) := by
  have hseq : lexeme x = x >>= fun a => takeWhile isGap >>= fun _ => pure a := rfl
  rw [hseq, outcome_bind]
  cases outcome x cs with
  | none => rfl
  | some r => simp [outcome_bind, outcome_takeWhile]

theorem takes_symbol (c : Char) : Takes (symbol c) := by
  have hchar : Takes (char c) := (takes_satisfy _).bind _
  have hseq : symbol c = char c >>= fun a => takeWhile isGap >>= fun _ => pure a := rfl
  rw [hseq]
  exact hchar.bind _

theorem overlooks_lexeme (hg : isGap g = true) {x : Scan α} (hx : Overlooks g x) :
    Overlooks g (lexeme x) := by
  intro cs
  rw [outcome_lexeme, outcome_lexeme]
  have h := hx cs
  generalize outcome x cs = o, outcome x (cs ++ [g]) = o' at h
  cases h with
  | rejected => exact .rejected
  | taken a took took' => exact .taken a _ _
  | left a took took' rest =>
    simp only [Option.map_some, List.dropWhile_append]
    cases hrest : rest.dropWhile isGap with
    | nil => simpa [hg] using Alike.taken a _ _
    | cons d ds => exact .left a _ _ (d :: ds)

theorem overlooks_symbol {c : Char} (hc : '\r' ≠ c) : Overlooks '\r' (symbol c) :=
  overlooks_lexeme rfl (.char hc)

theorem overlooks_hex (count : Nat) : Overlooks '\r' (Text.hex count) := by
  apply Overlooks.foldlM
  intro n _
  have hdigit : Overlooks '\r' Text.hexDigit := by
    apply Overlooks.next _ rfl
    intro c
    split
    . exact .pure _
    . exact .failure
  exact hdigit.bind fun _ => .pure _

theorem overlooks_unicodeEscape : Overlooks '\r' unicodeEscape := by
  apply (overlooks_hex 4).bind
  intro high
  split
  . apply (Overlooks.literal (by decide)).bind
    intro _
    apply (overlooks_hex 4).bind
    intro low
    exact (Overlooks.check _).bind fun _ => .pure _
  . exact (Overlooks.check _).bind fun _ => .pure _

theorem overlooks_escape : Overlooks '\r' escape := by
  apply Overlooks.next _ rfl
  intro c
  split
  . exact .pure _
  . exact .pure _
  . exact .pure _
  . exact .pure _
  . exact .pure _
  . exact .pure _
  . exact .pure _
  . exact .pure _
  . exact overlooks_unicodeEscape
  . exact .failure

theorem overlooks_string : Overlooks '\r' string := by
  have hchar : Overlooks '\r' stringChar := by
    apply (Overlooks.satisfy rfl).bind
    intro c
    split
    . exact overlooks_escape
    . exact .pure c
  have htakes : Takes stringChar := (takes_satisfy _).bind _
  apply (Overlooks.char (by decide)).bind
  intro _
  apply (Overlooks.many hchar htakes).bind
  intro cs
  exact (Overlooks.char (by decide)).bind fun _ => .pure _

theorem overlooks_exponent : Overlooks '\r' exponent := by
  apply (Overlooks.satisfy rfl).bind
  intro _
  apply (Overlooks.option? (Overlooks.satisfy rfl)).bind
  intro sign
  exact (Overlooks.takeWhile1 rfl).bind fun _ => .pure _

theorem overlooks_number : Overlooks '\r' number := by
  have hdigits : Overlooks '\r' (takeWhile1 Char.isDigit) := .takeWhile1 rfl
  apply (Overlooks.accepts (Overlooks.char (by decide))).bind
  intro negative
  apply hdigits.bind
  intro whole
  apply (Overlooks.check _).bind
  intro _
  apply (Overlooks.option? ((Overlooks.char (by decide)).seqRight hdigits)).bind
  intro places
  apply overlooks_exponent.option?.bind
  intro power
  split
  . exact .pure _
  . exact .failure

theorem overlooks_scalar : Overlooks '\r' scalar := by
  have hliteral : ∀ (cs : List Char) (v : Value), '\r' ∉ cs →
      Overlooks '\r' (literal cs *> pure v) := by
    intro cs v hcs
    exact (Overlooks.literal hcs).seqRight (.pure v)
  apply (hliteral _ _ (by decide)).orElse
  apply (hliteral _ _ (by decide)).orElse
  apply (hliteral _ _ (by decide)).orElse
  exact (overlooks_string.map _).orElse overlooks_number

theorem overlooks_listOf {item : Scan Value} (h : Overlooks '\r' item) :
    Overlooks '\r' (listOf item) := by
  apply (overlooks_symbol (by decide)).bind
  intro _
  have hcomma : Overlooks '\r' (symbol ',') := overlooks_symbol (by decide)
  apply (Overlooks.sepBy (overlooks_lexeme rfl h) hcomma (takes_symbol ',')).bind
  intro vs
  exact (Overlooks.char (by decide)).bind fun _ => .pure _

theorem overlooks_objectOf {item : Scan Value} (h : Overlooks '\r' item) :
    Overlooks '\r' (objectOf item) := by
  have hfield : Overlooks '\r' (fieldOf item) := by
    apply (overlooks_lexeme rfl overlooks_string).bind
    intro key
    apply (overlooks_symbol (by decide)).bind
    intro _
    exact (overlooks_lexeme rfl h).bind fun _ => .pure _
  apply (overlooks_symbol (by decide)).bind
  intro _
  have hcomma : Overlooks '\r' (symbol ',') := overlooks_symbol (by decide)
  apply (Overlooks.sepBy hfield hcomma (takes_symbol ',')).bind
  intro fields
  exact (Overlooks.char (by decide)).bind fun _ => .pure _

theorem overlooks_value (depth : Nat) : Overlooks '\r' (value depth) := by
  induction depth with
  | zero => exact overlooks_scalar
  | succ depth ih =>
    exact overlooks_scalar.orElse ((overlooks_listOf ih).orElse (overlooks_objectOf ih))

theorem ofText?_ofList (cs : List Char) :
    ofText? (String.ofList cs) =
      (outcome (value maxDepth) (cs.dropWhile isGap)).bind fun (v, _, rest) =>
        if rest.all isGap then some v else none := by
  have hseq : (takeWhile isGap *> lexeme (value maxDepth)) =
      takeWhile isGap >>= fun _ => lexeme (value maxDepth) := rfl
  rw [ofText?, run_eq_outcome, String.toList_ofList, hseq, outcome_bind, outcome_takeWhile]
  simp only [Option.bind_some, outcome_lexeme]
  cases outcome (value maxDepth) (cs.dropWhile isGap) with
  | none => rfl
  | some r =>
    have hempty : (r.2.2.dropWhile isGap).isEmpty = r.2.2.all isGap := by
      rw [Bool.eq_iff_iff, List.isEmpty_iff, List.dropWhile_eq_nil_iff, List.all_eq_true]
    simp only [Option.bind_some, Option.map_some, hempty]

theorem ofText?_append_return (cs : List Char) :
    ofText? (String.ofList (cs ++ ['\r'])) = ofText? (String.ofList cs) := by
  rw [ofText?_ofList, ofText?_ofList]
  have hgap : isGap '\r' = true := rfl
  cases hdrop : cs.dropWhile isGap with
  | nil => simp [List.dropWhile_append, hdrop, hgap]
  | cons c ds =>
    have hstart : (cs ++ ['\r']).dropWhile isGap = c :: ds ++ ['\r'] := by
      simp [List.dropWhile_append, hdrop]
    rw [hstart]
    have h := overlooks_value maxDepth (c :: ds)
    generalize outcome (value maxDepth) (c :: ds) = o,
      outcome (value maxDepth) (c :: ds ++ ['\r']) = o' at h
    cases h with
    | rejected => rfl
    | left v took took' rest =>
      have hall : (rest ++ ['\r']).all isGap = rest.all isGap := by
        simp only [List.all_append, List.all_cons, List.all_nil, hgap, Bool.and_true]
      simp only [Option.bind_some, hall]
    | taken v took took' => rfl

end Value

end LogSieve

/-!
This module contains readers of text. A reader takes a beginning of the text and leaves the rest,
and as a rest is never longer than the text, repeated reading comes to an end.
-/

namespace LogSieve

structure Rest (cs : List Char) where
  text : List Char
  took : Bool
  length_le : text.length ≤ cs.length
  length_lt : took = true → text.length < cs.length

namespace Rest

variable {c : Char} {cs : List Char}

def whole (cs : List Char) : Rest cs := ⟨cs, false, Nat.le_refl _, nofun⟩

def tail (c : Char) (cs : List Char) : Rest (c :: cs) := ⟨cs, true, by simp, by simp⟩

def trans (rest : Rest cs) (rest' : Rest rest.text) : Rest cs where
  text := rest'.text
  took := rest.took || rest'.took
  length_le := Nat.le_trans rest'.length_le rest.length_le
  length_lt h := by
    have := rest.length_le
    have := rest'.length_le
    rcases Bool.or_eq_true_iff.1 h with h | h
    . have := rest.length_lt h
      omega
    . have := rest'.length_lt h
      omega

end Rest

/--
A reader of text, which gives a result and the rest of the text, or rejects the text.
-/
def Scan (α : Type) : Type := (cs : List Char) → Option (α × Rest cs)

namespace Scan

variable {α β σ : Type}

instance : Monad Scan where
  pure a := fun cs => some (a, .whole cs)
  bind x f := fun cs =>
    match x cs with
    | none => none
    | some (a, rest) =>
      match f a rest.text with
      | none => none
      | some (b, rest') => some (b, rest.trans rest')

instance : Alternative Scan where
  failure := fun _ => none
  orElse x y := fun cs =>
    match x cs with
    | some r => some r
    | none => y () cs

def run (x : Scan α) (cs : List Char) : Option α :=
  match x cs with
  | some (a, rest) => if rest.text.isEmpty then some a else none
  | none => none

def check (b : Bool) : Scan Unit := if b then pure () else failure

def ahead : Scan (List Char) := fun cs => some (cs, .whole cs)

def atEnd : Scan Bool := fun cs => some (cs.isEmpty, .whole cs)

def next : Scan Char := fun cs =>
  match cs with
  | [] => none
  | c :: cs => some (c, .tail c cs)

def satisfy (p : Char → Bool) : Scan Char := fun cs =>
  match cs with
  | [] => none
  | c :: cs => if p c then some (c, .tail c cs) else none

def char (c : Char) : Scan Unit := do let _ ← satisfy (· == c)

def literal (cs : List Char) : Scan Unit := cs.forM char

def takeWhile (p : Char → Bool) : Scan (List Char) := fun cs =>
  some (cs.takeWhile p, go cs)
where
  go : (cs : List Char) → Rest cs
    | [] => .whole []
    | c :: cs => if p c then (Rest.tail c cs).trans (go cs) else .whole (c :: cs)

def takeWhile1 (p : Char → Bool) : Scan (List Char) := do
  let cs ← takeWhile p
  check (!cs.isEmpty)
  return cs

def option? (x : Scan α) : Scan (Option α) := (some <$> x) <|> pure none

def accepts (x : Scan α) : Scan Bool := ((fun _ => true) <$> x) <|> pure false

def loop (step : σ → Scan (σ ⊕ α)) (s : σ) : Scan α := fun cs =>
  match step s cs with
  | none => none
  | some (.inr a, rest) => some (a, rest)
  | some (.inl s', rest) =>
    if h : rest.took = true then
      have := rest.length_lt h
      match loop step s' rest.text with
      | none => none
      | some (a, rest') => some (a, rest.trans rest')
    else
      none
termination_by cs => cs.length

def many (x : Scan α) : Scan (List α) :=
  loop (fun found => (do return .inl ((← x) :: found)) <|> pure (.inr found.reverse)) []

def sepBy1 (item : Scan α) (separator : Scan β) : Scan (List α) := do
  let first ← item
  let others ← many (separator *> item)
  return first :: others

def sepBy (item : Scan α) (separator : Scan β) : Scan (List α) :=
  sepBy1 item separator <|> pure []

end Scan

end LogSieve

import LogSieve.Number.Decimal
import LogSieve.Script.Name
import LogSieve.Script.Text

/-!
This module contains the division of Lua text into tokens, by a machine that reads one character
after the other.
-/

namespace LogSieve.Lua

inductive Token where
  | keyword (text : String)
  | name (text : String)
  | string (text : String)
  | number (text : String)
  | symbol (text : String)
  | invalid
  deriving DecidableEq, Repr

namespace Token

def ofWord (cs : List Char) : Token :=
  let text := String.ofList cs
  if Script.keywords.contains text then .keyword text else .name text

def ofNumeral (cs : List Char) : Token :=
  match cs.dropWhile Char.isDigit with
  | [] => .number (String.ofList cs)
  | '.' :: places => if places.all Char.isDigit then .number (String.ofList cs) else .invalid
  | _ => .invalid

end Token

inductive State where
  | idle
  | word (cs : List Char)
  | numeral (cs : List Char)
  | operator (c : Char)
  | string (cs : List Char)
  | escape (cs : List Char)
  | code (cs : List Char) (n digits : Nat)
  | failed
  deriving DecidableEq, Repr

namespace State

def isSpace (c : Char) : Bool := [' ', '\t', '\n', '\r', '\x0b', '\x0c'].contains c

def isWordStart (c : Char) : Bool := c.isAlpha || c == '_'

def isWordPart (c : Char) : Bool := c.isAlphanum || c == '_'

def isNumeralPart (c : Char) : Bool := isWordPart c || c == '.'

def isSymbol (c : Char) : Bool := ['(', ')', '[', ']', '\x7b', '\x7d', ',', '.'].contains c

def isOperator (c : Char) : Bool := ['=', '~', '<', '>', '-'].contains c

def start (c : Char) : List Token × State :=
  if c.isDigit then ([], .numeral [c])
  else if isSpace c then ([], .idle)
  else if isWordStart c then ([], .word [c])
  else if c = '"' then ([], .string [])
  else if isSymbol c then ([.symbol (String.singleton c)], .idle)
  else if isOperator c then ([], .operator c)
  else ([], .failed)

def startAfter (t : Token) (c : Char) : List Token × State := (t :: (start c).1, (start c).2)

def continueString (cs : List Char) (c : Char) : List Token × State :=
  if c = '"' then ([.string (String.ofList cs)], .idle)
  else if c = '\\' then ([], .escape cs)
  else if c = '\n' || c = '\r' then ([], .failed)
  else ([], .string (cs ++ [c]))

def digitValue (c : Char) : Nat := c.toNat - '0'.toNat

def continueEscape (cs : List Char) (c : Char) : State :=
  match c with
  | '\\' => .string (cs ++ ['\\'])
  | '"' => .string (cs ++ ['"'])
  | 'n' => .string (cs ++ ['\n'])
  | 'r' => .string (cs ++ ['\r'])
  | 't' => .string (cs ++ ['\t'])
  | c => if c.isDigit then .code cs (digitValue c) 1 else .failed

def step : State → Char → List Token × State
  | .idle, c => start c
  | .word cs, c =>
    if isWordPart c then ([], .word (cs ++ [c])) else startAfter (.ofWord cs) c
  | .numeral cs, c =>
    if isNumeralPart c then ([], .numeral (cs ++ [c])) else startAfter (.ofNumeral cs) c
  | .operator o, c =>
    -- Two minuses start a comment.
    if o = '-' then
      if c = '-' then ([], .failed) else startAfter (.symbol "-") c
    else if c = '=' then
      ([.symbol (String.ofList [o, '='])], .idle)
    else
      startAfter (.symbol (String.singleton o)) c
  | .string cs, c => continueString cs c
  | .escape cs, c => ([], continueEscape cs c)
  | .code cs n digits, c =>
    -- At most three digits belong to the character, which is one of ASCII.
    if c.isDigit && digits < 3 then
      ([], .code cs (10 * n + digitValue c) (digits + 1))
    else if n < 128 then
      continueString (cs ++ [Char.ofNat n]) c
    else
      ([], .failed)
  | .failed, _ => ([], .failed)

def finish : State → List Token
  | .idle => []
  | .word cs => [.ofWord cs]
  | .numeral cs => [.ofNumeral cs]
  | .operator o => [.symbol (String.singleton o)]
  | _ => [.invalid]

def run (s : State) : List Char → List Token × State
  | [] => ([], s)
  | c :: cs =>
    let (ts, s') := s.step c
    let (us, s'') := run s' cs
    (ts ++ us, s'')

end State

def tokens (text : String) : List Token :=
  let (ts, s) := State.run .idle text.toList
  ts ++ s.finish

def Scans (s : State) (text : String) (ts : List Token) (s' : State) : Prop :=
  s.run text.toList = (ts, s')

instance (s : State) (text : String) (ts : List Token) (s' : State) : Decidable (Scans s text ts s') :=
  inferInstanceAs (Decidable (_ = _))

theorem State.run_append (s : State) (cs ds : List Char) :
    s.run (cs ++ ds) =
      ((s.run cs).1 ++ ((s.run cs).2.run ds).1, ((s.run cs).2.run ds).2) := by
  induction cs generalizing s with
  | nil => rfl
  | cons c cs ih =>
    simp only [List.cons_append, run]
    rw [ih]
    simp

theorem Scans.append {s s' s'' : State} {a b : String} {ts us : List Token} (ha : Scans s a ts s')
    (hb : Scans s' b us s'') : Scans s (a ++ b) (ts ++ us) s'' := by
  unfold Scans at ha hb ⊢
  rw [String.toList_append, State.run_append, ha, hb]

theorem Scans.tokens_eq {text : String} {ts : List Token} (h : Scans .idle text ts .idle) :
    tokens text = ts := by
  unfold Scans at h
  unfold tokens
  rw [h]
  simp [State.finish]

namespace State

theorem run_cons_of_step {s s' : State} {c : Char} (h : s.step c = ([], s')) (cs : List Char) :
    s.run (c :: cs) = s'.run cs := by
  simp only [run, h]
  simp

def IsInString (s : State) (cs : List Char) : Prop := ∀ c, s.step c = continueString cs c

theorem isInString_string (cs : List Char) : IsInString (.string cs) cs := by
  intro c
  rfl

theorem isInString_code (cs : List Char) {c : Char} (h : c.toNat < 128) :
    IsInString (.code cs c.toNat 3) (cs ++ [c]) := by
  intro d
  simp [step, h]

theorem isDigit_digitChar {n : Nat} (h : n < 10) :
    (Nat.digitChar n).isDigit = true ∧ digitValue (Nat.digitChar n) = n := by
  have : ∀ n : Fin 10, (Nat.digitChar n).isDigit = true ∧ digitValue (Nat.digitChar n) = n := by
    decide
  exact this ⟨n, h⟩

theorem continueEscape_of_isDigit {c : Char} (h : c.isDigit = true) (cs : List Char) :
    continueEscape cs c = .code cs (digitValue c) 1 := by
  unfold continueEscape
  split
  . exact absurd h (by decide)
  . exact absurd h (by decide)
  . exact absurd h (by decide)
  . exact absurd h (by decide)
  . exact absurd h (by decide)
  . rw [if_pos h]

theorem run_threeDigits {n : Nat} (h : n < 1000) (cs rest : List Char) :
    (State.escape cs).run (Script.threeDigits n ++ rest) = (State.code cs n 3).run rest := by
  obtain ⟨hdigit₁, hvalue₁⟩ := isDigit_digitChar (n := n / 100) (by omega)
  obtain ⟨hdigit₂, hvalue₂⟩ := isDigit_digitChar (n := n / 10 % 10) (by omega)
  obtain ⟨hdigit₃, hvalue₃⟩ := isDigit_digitChar (n := n % 10) (by omega)
  have hstep₁ : (State.escape cs).step (Nat.digitChar (n / 100)) = ([], .code cs (n / 100) 1) := by
    rw [step, continueEscape_of_isDigit hdigit₁, hvalue₁]
  have hstep₂ : (State.code cs (n / 100) 1).step (Nat.digitChar (n / 10 % 10)) =
      ([], .code cs (10 * (n / 100) + n / 10 % 10) 2) := by
    simp [step, hdigit₂, hvalue₂]
  have hstep₃ : (State.code cs (10 * (n / 100) + n / 10 % 10) 2).step (Nat.digitChar (n % 10)) =
      ([], .code cs n 3) := by
    have hn : 10 * (10 * (n / 100) + n / 10 % 10) + n % 10 = n := by omega
    simp [step, hdigit₃, hvalue₃, hn]
  simp only [Script.threeDigits, List.cons_append, List.nil_append]
  rw [run_cons_of_step hstep₁, run_cons_of_step hstep₂, run_cons_of_step hstep₃]

theorem exists_run_quoteChar {s : State} {cs : List Char} (h : s.IsInString cs) (c : Char)
    (rest : List Char) :
    ∃ s' : State, s'.IsInString (cs ++ [c]) ∧ s.run (Script.quoteChar c ++ rest) = s'.run rest := by
  have hescape : s.step '\\' = ([], .escape cs) := by
    rw [h]
    rfl
  unfold Script.quoteChar
  split
  . exact ⟨_, isInString_string _, by rw [List.cons_append, run_cons_of_step hescape]; rfl⟩
  . exact ⟨_, isInString_string _, by rw [List.cons_append, run_cons_of_step hescape]; rfl⟩
  . exact ⟨_, isInString_string _, by rw [List.cons_append, run_cons_of_step hescape]; rfl⟩
  . exact ⟨_, isInString_string _, by rw [List.cons_append, run_cons_of_step hescape]; rfl⟩
  . exact ⟨_, isInString_string _, by rw [List.cons_append, run_cons_of_step hescape]; rfl⟩
  . next hbackslash hquote hnewline hreturn htab =>
    split
    . next hcontrol =>
      have hsmall : c.toNat < 128 := by
        simp only [Script.isControl, Bool.or_eq_true, decide_eq_true_eq, beq_iff_eq] at hcontrol
        omega
      -- Behind three digits, a digit is a character of its own.
      refine ⟨_, isInString_code cs hsmall, ?_⟩
      rw [List.cons_append, run_cons_of_step hescape, run_threeDigits (by omega)]
    . refine ⟨_, isInString_string _, ?_⟩
      have hstep : s.step c = ([], .string (cs ++ [c])) := by
        have hline : ¬(decide (c = '\n') || decide (c = '\r')) = true := by
          simpa using ⟨hnewline, hreturn⟩
        rw [h, continueString, if_neg hquote, if_neg hbackslash, if_neg hline]
      rw [List.cons_append, run_cons_of_step hstep, List.nil_append]

theorem run_flatMap_quoteChar {s : State} {cs : List Char} (h : s.IsInString cs)
    (ds rest : List Char) :
    s.run (ds.flatMap Script.quoteChar ++ '"' :: rest) =
      ((State.string (cs ++ ds)).run ('"' :: rest)) := by
  induction ds generalizing s cs with
  | nil =>
    rw [List.flatMap_nil, List.nil_append, List.append_nil, run, run, h]
    rfl
  | cons d ds ih =>
    obtain ⟨s', hs', hrun⟩ := exists_run_quoteChar h d (ds.flatMap Script.quoteChar ++ '"' :: rest)
    rw [List.flatMap_cons, List.append_assoc, hrun, ih hs', List.append_assoc, List.singleton_append]

end State

theorem scans_quote (s : String) : Scans .idle (Script.quote s) [.string s] .idle := by
  have htext : (Script.quote s).toList = '"' :: (s.toList.flatMap Script.quoteChar ++ ['"']) := by
    simp [Script.quote]
  have hstart : State.idle.step '"' = ([], .string []) := rfl
  unfold Scans
  rw [htext, State.run_cons_of_step hstart,
    State.run_flatMap_quoteChar (State.isInString_string []), List.nil_append]
  simp [State.run, State.step, State.continueString]

structure IsNumeral (cs : List Char) : Prop where
  exists_head : ∃ c cs', cs = c :: cs' ∧ c.isDigit = true
  parts : ∀ c ∈ cs, State.isNumeralPart c = true
  ofNumeral_eq : Token.ofNumeral cs = .number (String.ofList cs)

theorem isNumeralPart_of_isDigit {c : Char} (h : c.isDigit = true) : State.isNumeralPart c = true := by
  simp [State.isNumeralPart, State.isWordPart, Char.isAlphanum, h]

theorem isNumeral_of_digits {whole : List Char} (hne : whole ≠ [])
    (hwhole : ∀ c ∈ whole, c.isDigit = true) : IsNumeral whole := by
  obtain ⟨c, cs, rfl⟩ := List.exists_cons_of_ne_nil hne
  refine ⟨⟨c, cs, rfl, hwhole c (by simp)⟩, ?_, ?_⟩
  . intro d hd
    exact isNumeralPart_of_isDigit (hwhole d hd)
  . have hdrop : (c :: cs).dropWhile Char.isDigit = [] := by
      have : (c :: cs ++ []).dropWhile Char.isDigit = [].dropWhile Char.isDigit :=
        List.dropWhile_append_of_pos hwhole
      simpa using this
    simp only [Token.ofNumeral, hdrop]

theorem isNumeral_of_point {whole places : List Char} (hne : whole ≠ [])
    (hwhole : ∀ c ∈ whole, c.isDigit = true) (hplaces : ∀ c ∈ places, c.isDigit = true) :
    IsNumeral (whole ++ '.' :: places) := by
  obtain ⟨c, cs, rfl⟩ := List.exists_cons_of_ne_nil hne
  refine ⟨⟨c, cs ++ '.' :: places, rfl, hwhole c (by simp)⟩, ?_, ?_⟩
  . intro d hd
    rcases List.mem_append.1 hd with hd | hd
    . exact isNumeralPart_of_isDigit (hwhole d hd)
    . rcases List.mem_cons.1 hd with rfl | hd
      . decide
      . exact isNumeralPart_of_isDigit (hplaces d hd)
  . have hdrop : (c :: cs ++ '.' :: places).dropWhile Char.isDigit = '.' :: places := by
      rw [List.dropWhile_append_of_pos hwhole]
      simp
    have hall : places.all Char.isDigit = true := List.all_eq_true.2 hplaces
    simp only [Token.ofNumeral, hdrop, hall, if_true]

theorem isNumeral_positional (d : Decimal) : IsNumeral (d.positional 0).toList := by
  have hdigits : ∀ c ∈ Nat.toDigits 10 d.digits, c.isDigit = true := by
    intro c hc
    exact Nat.isDigit_of_mem_toDigits (by decide) (by decide) hc
  unfold Decimal.positional
  simp only [String.toList_ofList]
  generalize hrow : List.replicate ((-d.exponent).toNat + 1 -
    (Nat.toDigits 10 d.digits ++ List.replicate d.exponent.toNat '0').length) '0' ++
    (Nat.toDigits 10 d.digits ++ List.replicate d.exponent.toNat '0') = row
  have hall : ∀ c ∈ row, c.isDigit = true := by
    intro c hc
    rw [← hrow] at hc
    simp only [List.mem_append, List.mem_replicate] at hc
    rcases hc with ⟨_, rfl⟩ | hc | ⟨_, rfl⟩
    . decide
    . exact hdigits c hc
    . decide
  have hlength : (-d.exponent).toNat < row.length := by
    rw [← hrow, List.length_append, List.length_replicate]
    omega
  have hwhole : row.take (row.length - (-d.exponent).toNat) ≠ [] := by
    intro hnil
    have := congrArg List.length hnil
    simp only [List.length_take, List.length_nil] at this
    omega
  split
  . apply isNumeral_of_digits hwhole
    intro c hc
    exact hall c (List.mem_of_mem_take hc)
  . apply isNumeral_of_point hwhole
    . intro c hc
      exact hall c (List.mem_of_mem_take hc)
    . intro c hc
      simp only [List.mem_append, List.mem_replicate] at hc
      rcases hc with hc | ⟨_, rfl⟩
      . exact hall c (List.mem_of_mem_drop hc)
      . decide

theorem State.run_numeral {cs ds : List Char} (h : ∀ c ∈ ds, isNumeralPart c = true) :
    (State.numeral cs).run ds = ([], .numeral (cs ++ ds)) := by
  induction ds generalizing cs with
  | nil => simp [run]
  | cons d ds ih =>
    have hstep : (State.numeral cs).step d = ([], .numeral (cs ++ [d])) := by
      simp [step, h d (by simp)]
    rw [run_cons_of_step hstep, ih]
    . simp
    . intro c hc
      exact h c (List.mem_cons_of_mem d hc)

theorem State.run_word {cs ds : List Char} (h : ∀ c ∈ ds, isWordPart c = true) :
    (State.word cs).run ds = ([], .word (cs ++ ds)) := by
  induction ds generalizing cs with
  | nil => simp [run]
  | cons d ds ih =>
    have hstep : (State.word cs).step d = ([], .word (cs ++ [d])) := by
      simp [step, h d (by simp)]
    rw [run_cons_of_step hstep, ih]
    . simp
    . intro c hc
      exact h c (List.mem_cons_of_mem d hc)

theorem exists_of_isName {name : String} (h : Script.isName name = true) :
    ∃ c cs, name.toList = c :: cs ∧ State.isWordStart c = true ∧
      (∀ d ∈ cs, State.isWordPart d = true) ∧ Script.keywords.contains name = false := by
  unfold Script.isName at h
  split at h
  . contradiction
  . next c cs hname =>
    simp only [Bool.and_eq_true, List.all_eq_true, Bool.not_eq_true'] at h
    exact ⟨c, cs, hname, h.1.1, h.1.2, h.2⟩

theorem State.start_of_isWordStart {c : Char} (h : isWordStart c = true) :
    start c = ([], .word [c]) := by
  have hdigit : c.isDigit = false := by
    simp only [isWordStart, Bool.or_eq_true, beq_iff_eq] at h
    rcases h with h | rfl
    . delta Char.isAlpha Char.isUpper Char.isLower at h
      delta Char.isDigit
      grind
    . decide
  have hspace : isSpace c = false := by
    rw [← Bool.not_eq_true]
    intro hmem
    simp only [isSpace, List.contains_eq_mem, List.mem_cons, List.not_mem_nil, or_false,
      decide_eq_true_eq] at hmem
    rcases hmem with rfl | rfl | rfl | rfl | rfl | rfl <;> contradiction
  simp [start, h, hdigit, hspace]

theorem scans_name_append {name : String} (h : Script.isName name = true) {c : Char} {ts : List Token}
    (hpart : State.isWordPart c = false) (hc : State.start c = (ts, .idle)) :
    Scans .idle (name ++ String.singleton c) (.name name :: ts) .idle := by
  obtain ⟨d, ds, hname, hstart, hparts, hkeyword⟩ := exists_of_isName h
  have htext : Scans .idle name [] (.word name.toList) := by
    have hstep : State.idle.step d = ([], .word [d]) := State.start_of_isWordStart hstart
    unfold Scans
    rw [hname, State.run_cons_of_step hstep, State.run_word hparts, List.singleton_append]
  have hend : Scans (.word name.toList) (String.singleton c) (.name name :: ts) .idle := by
    have hof : Token.ofWord name.toList = .name name := by
      simp only [Token.ofWord, String.ofList_toList, hkeyword]
      rfl
    simp [Scans, State.run, State.step, State.startAfter, hpart, hc, hof]
  exact htext.append hend

theorem scans_name {name : String} (h : Script.isName name = true) :
    Scans .idle (name ++ " ") [.name name] .idle :=
  scans_name_append h (c := ' ') (by decide) (by decide)

def signed (negative : Bool) (text : String) : List Token :=
  if negative then [.symbol "-", .number text] else [.number text]

theorem scans_numeral {text : String} (h : IsNumeral text.toList) {s : State}
    (ts : List Token) (hs : ∀ c, c.isDigit = true → s.step c = (ts, .numeral [c])) :
    Scans s (text ++ " ") (ts ++ [.number text]) .idle := by
  obtain ⟨c, cs, hcs, hc⟩ := h.exists_head
  have hparts : ∀ d ∈ cs, State.isNumeralPart d = true := by
    intro d hd
    exact h.parts d (by simp [hcs, hd])
  have htext : Scans s text ts (.numeral text.toList) := by
    unfold Scans
    simp only [hcs, State.run, hs c hc, State.run_numeral hparts]
    simp
  have hspace : Scans (.numeral text.toList) " " [.number text] .idle := by
    have hof : Token.ofNumeral text.toList = .number text := by
      rw [h.ofNumeral_eq, String.ofList_toList]
    have hpart : State.isNumeralPart ' ' = false := by decide
    have hstart : State.start ' ' = ([], .idle) := by decide
    simp [Scans, State.run, State.step, State.startAfter, hpart, hstart, hof]
  exact htext.append hspace

theorem scans_signed {text : String} (h : IsNumeral text.toList) (negative : Bool) :
    Scans .idle (Double.signText negative ++ (text ++ " ")) (signed negative text) .idle := by
  cases negative with
  | false =>
    have htext : Double.signText false ++ (text ++ " ") = text ++ " " := String.empty_append
    rw [htext]
    apply scans_numeral h []
    intro c hc
    simp [State.step, State.start, hc]
  | true =>
    have hminus : Scans .idle "-" [] (.operator '-') := by decide
    apply hminus.append
    apply scans_numeral h [.symbol "-"]
    intro c hc
    have hne : c ≠ '-' := by
      rintro rfl
      exact absurd hc (by decide)
    simp [State.step, State.startAfter, State.start, hc, hne]

end LogSieve.Lua

import LogSieve.Token.Basic

/-!
This module contains the division of filter text into tokens.
-/

namespace LogSieve.Token

def unescape (c : Char) : Char :=
  match c with
  | 'n' => '\n'
  | 't' => '\t'
  | 'r' => '\r'
  | c => c

def readQuoted : List Char → Option (List Char × List Char)
  | [] => none
  | '"' :: cs => some ([], cs)
  | '\\' :: c :: cs => (readQuoted cs).map fun (text, rest) => (unescape c :: text, rest)
  | c :: cs =>
    if c = '\\' then none else (readQuoted cs).map fun (text, rest) => (c :: text, rest)

def readComparator : Char → List Char → Option (Operator × List Char)
  | '=', '~' :: cs => some (.like, cs)
  | '=', cs => some (.equal, cs)
  | '!', '=' :: cs => some (.differs, cs)
  | '!', '~' :: cs => some (.unlike, cs)
  | ':', cs => some (.has, cs)
  | '<', '=' :: cs => some (.order .le, cs)
  | '<', cs => some (.order .lt, cs)
  | '>', '=' :: cs => some (.order .ge, cs)
  | '>', cs => some (.order .gt, cs)
  | _, _ => none

def Kind.read (pos : Nat) (c : Char) (cs : List Char) : Except ParseError (Kind × List Char) :=
  if c = '(' then
    .ok (.opening, cs)
  else if c = ')' then
    .ok (.closing, cs)
  else if c = '-' then
    .ok (.minus, cs)
  else if c = '"' then
    match readQuoted cs with
    | some (text, rest) => .ok (.quoted (String.ofList text), rest)
    | none => .error (.unterminatedString pos)
  else if isReserved c then
    match readComparator c cs with
    | some (op, rest) => .ok (.comparator op, rest)
    | none => .error (.unexpectedChar pos c)
  else
    .ok (.ofWord (String.ofList (c :: cs.takeWhile isWordPart)), cs.dropWhile isWordPart)

theorem readQuoted_length {cs text rest : List Char} (h : readQuoted cs = some (text, rest)) :
    rest.length < cs.length := by
  fun_induction readQuoted cs generalizing text rest with
  | case1 => simp at h
  | case2 cs =>
    simp only [Option.some.injEq, Prod.mk.injEq] at h
    simp [h.2]
  | case3 c cs ih =>
    simp only [Option.map_eq_some_iff, Prod.exists, Prod.mk.injEq] at h
    obtain ⟨text', rest', h, _, rfl⟩ := h
    have := ih h
    simp only [List.length_cons]
    omega
  | case4 => simp at h
  | case5 c cs _ _ _ ih =>
    simp only [Option.map_eq_some_iff, Prod.exists, Prod.mk.injEq] at h
    obtain ⟨text', rest', h, _, rfl⟩ := h
    have := ih h
    simp only [List.length_cons]
    omega

theorem readComparator_length {c : Char} {cs rest : List Char} {op : Operator}
    (h : readComparator c cs = some (op, rest)) : rest.length ≤ cs.length := by
  fun_cases readComparator c cs <;> simp_all [readComparator]

theorem length_dropWhile_le (p : Char → Bool) (cs : List Char) :
    (cs.dropWhile p).length ≤ cs.length :=
  (List.dropWhile_sublist p).length_le

theorem Kind.read_length {pos : Nat} {c : Char} {cs rest : List Char} {kind : Kind}
    (h : Kind.read pos c cs = .ok (kind, rest)) : rest.length ≤ cs.length := by
  fun_cases Kind.read pos c cs with
  | case4 _ _ _ _ text rest' hq =>
    have := readQuoted_length hq
    simp_all [Kind.read]
    omega
  | case6 _ _ _ _ _ op rest' hc =>
    have := readComparator_length hc
    simp_all [Kind.read]
  | case8 =>
    have := length_dropWhile_le isWordPart cs
    simp_all [Kind.read]
  | _ => simp_all [Kind.read]

def byteSize (cs : List Char) : Nat := cs.foldl (fun n c => n + c.utf8Size) 0

/--
The tokens of a text that starts at byte `pos`. The flag tells whether the text before it is empty
or ends with a blank.
-/
def scan (pos : Nat) (spaced : Bool) (cs : List Char) : Except ParseError (List Token) :=
  match cs with
  | [] => .ok []
  | c :: cs =>
    if Text.isBlank c then
      scan (pos + c.utf8Size) true cs
    else
      match h : Kind.read pos c cs with
      | .error e => .error e
      | .ok (kind, rest) =>
        have := Kind.read_length h
        let lexeme := c :: cs.take (cs.length - rest.length)
        (scan (pos + byteSize lexeme) false rest).map (⟨kind, pos, spaced⟩ :: ·)
termination_by cs.length

def tokenize (text : String) : Except ParseError (List Token) := scan 0 true text.toList

end LogSieve.Token

import LogSieve.Proofs.Parsing
import LogSieve.Proofs.Tiling

/-!
This module contains what the positions in errors refer to. A text that is not divided into tokens is
at fault there, and where the grammar does not allow a token, this is a token of the text.
-/

namespace LogSieve

namespace Parser

open Reading

variable {α β γ : Type}

structure Concerns (ts : List Token) (x : Except ParseError (α × List Token)) : Prop where
  rest : ∀ {a rest}, x = .ok (a, rest) → rest ⊆ ts
  unexpected : ∀ {pos found expected}, x = .error (.unexpectedToken pos found expected) →
    ∃ t ∈ ts, t.pos = pos ∧ t.kind.text = found

theorem concerns_ok (a : α) {rest ts : List Token} (h : rest ⊆ ts) : Concerns ts (.ok (a, rest)) := by
  refine ⟨?_, by simp⟩
  intro a' rest' h'
  cases h'
  exact h

theorem concerns_unexpected {t : Token} {ts : List Token} (h : t ∈ ts) (expected : Expected) :
    Concerns ts (.error (t.unexpected expected) : Except ParseError (α × List Token)) := by
  refine ⟨by simp, ?_⟩
  intro pos found expected' h'
  cases h'
  exact ⟨t, h, rfl, rfl⟩

theorem Concerns.mono {ts us : List Token} {x : Except ParseError (α × List Token)}
    (h : Concerns ts x) (hts : ts ⊆ us) : Concerns us x := by
  refine ⟨fun hx => List.Subset.trans (h.rest hx) hts, ?_⟩
  intro pos found expected hx
  obtain ⟨t, ht, hfound⟩ := h.unexpected hx
  exact ⟨t, hts ht, hfound⟩

theorem Concerns.andThen {ts : List Token} {x : Except ParseError (α × List Token)}
    {f : α → List Token → Except ParseError (β × List Token)} (h : Concerns ts x)
    (hf : ∀ a rest, x = .ok (a, rest) → Concerns rest (f a rest)) :
    Concerns ts (andThen x f) := by
  cases x with
  | error e =>
    refine ⟨by simp, ?_⟩
    intro pos found expected he
    cases he
    exact h.unexpected rfl
  | ok r => exact (hf r.1 r.2 rfl).mono (h.rest rfl)

theorem Concerns.andThen_andThen {ts : List Token} {x : Except ParseError (α × List Token)}
    {y : List Token → Except ParseError (β × List Token)} (f : α → β → γ) (h : Concerns ts x)
    (hy : ∀ a rest, x = .ok (a, rest) → Concerns rest (y rest)) :
    Concerns ts (Reading.andThen x fun a rest =>
      Reading.andThen (y rest) fun b rest' => .ok (f a b, rest')) := by
  apply h.andThen
  intro a rest hx
  apply (hy a rest hx).andThen
  intro b rest' _
  exact concerns_ok _ (List.Subset.refl rest')

theorem exists_of_pathOfRun_eq_error {run : List Token} {e : ParseError}
    (h : pathOfRun run = .error e) : ∃ path, e = .emptySegment path := by
  unfold pathOfRun at h
  split at h
  . unfold Target.ofSegments at h
    split at h
    . cases h
    . cases h
      exact ⟨_, rfl⟩
  . cases h
    exact ⟨_, rfl⟩

theorem concerns_path (ts : List Token) : Concerns ts (plain (path ts)) := by
  cases ts with
  | nil => exact ⟨by simp [plain_path_nil], by simp [plain_path_nil]⟩
  | cons t ts =>
    rw [plain_path_cons]
    split
    . cases hrun : pathOfRun (t :: ts.takeWhile Token.isGlued) with
      | ok target =>
        have hrest : ts.dropWhile Token.isGlued ⊆ ts := (List.dropWhile_suffix _).subset
        exact concerns_ok target (List.subset_cons_of_subset t hrest)
      | error e =>
        obtain ⟨path, rfl⟩ := exists_of_pathOfRun_eq_error hrun
        exact ⟨by simp, by simp⟩
    . exact concerns_unexpected List.mem_cons_self .field

theorem concerns_value (ts : List Token) : Concerns ts (plain (value ts)) := by
  unfold value
  split
  . exact ⟨by simp, by simp⟩
  . next t ts =>
    split
    . exact concerns_ok _ (List.subset_cons_self t ts)
    . exact concerns_ok _ (List.subset_cons_self t ts)
    . split
      . exact ⟨by simp, by simp⟩
      . next u ts =>
        have hts : u :: ts ⊆ t :: u :: ts := List.subset_cons_self t (u :: ts)
        split
        . exact concerns_ok _ (List.Subset.trans (List.subset_cons_self u ts) hts)
        . exact concerns_unexpected (hts List.mem_cons_self) .value
    . exact concerns_unexpected List.mem_cons_self .value

theorem concerns_comparison (ts : List Token) : Concerns ts (plain (comparison ts)) := by
  rw [plain_comparison]
  apply (concerns_path ts).andThen
  intro target rest hpath
  clear hpath
  split
  . next op pos spaced rest =>
    apply Concerns.mono _ (List.subset_cons_self _ rest)
    apply (concerns_value rest).andThen
    intro literal rest' _
    exact concerns_ok _ (List.Subset.refl rest')
  . exact ⟨by simp, by simp⟩

mutual

theorem concerns_expression (ts : List Token) : Concerns ts (plain (expression ts)) := by
  rw [plain_expression]
  apply (concerns_factor ts).andThen_andThen
  intro e rest hfactor
  -- What is left has fewer tokens, so the induction ends as the recursion of the readers does.
  have := length_lt_of_plain hfactor
  exact concerns_factors rest
termination_by (ts.length, 5)

theorem concerns_factors (ts : List Token) : Concerns ts (plain (factors ts)) := by
  match ts with
  | [] =>
    rw [plain_factors_nil]
    exact concerns_ok _ (List.Subset.refl [])
  | t :: ts =>
    rw [plain_factors_cons]
    split
    . apply Concerns.mono _ (List.subset_cons_self t ts)
      apply (concerns_factor ts).andThen_andThen
      intro e rest hfactor
      have := length_lt_of_plain hfactor
      exact concerns_factors rest
    . split
      . apply (concerns_factor (t :: ts)).andThen_andThen
        intro e rest hfactor
        have := length_lt_of_plain hfactor
        exact concerns_factors rest
      . exact concerns_ok _ (List.Subset.refl _)
termination_by (ts.length, 4)

theorem concerns_factor (ts : List Token) : Concerns ts (plain (factor ts)) := by
  rw [plain_factor]
  apply (concerns_term ts).andThen_andThen
  intro e rest hterm
  have := length_lt_of_plain hterm
  exact concerns_terms rest
termination_by (ts.length, 3)

theorem concerns_terms (ts : List Token) : Concerns ts (plain (terms ts)) := by
  match ts with
  | [] =>
    rw [plain_terms_nil]
    exact concerns_ok _ (List.Subset.refl [])
  | t :: ts =>
    rw [plain_terms_cons]
    split
    . apply Concerns.mono _ (List.subset_cons_self t ts)
      apply (concerns_term ts).andThen_andThen
      intro e rest hterm
      have := length_lt_of_plain hterm
      exact concerns_terms rest
    . exact concerns_ok _ (List.Subset.refl _)
termination_by (ts.length, 2)

theorem concerns_term (ts : List Token) : Concerns ts (plain (term ts)) := by
  match ts with
  | [] =>
    rw [term]
    exact concerns_primitive []
  | t :: ts =>
    rw [plain_term_cons]
    split
    . apply Concerns.mono _ (List.subset_cons_self t ts)
      apply (concerns_primitive ts).andThen
      intro e rest _
      exact concerns_ok _ (List.Subset.refl rest)
    . exact concerns_primitive (t :: ts)
termination_by (ts.length, 1)

theorem concerns_primitive (ts : List Token) : Concerns ts (plain (primitive ts)) := by
  match ts with
  | [] => exact ⟨by simp [primitive], by simp [primitive]⟩
  | t :: ts =>
    rw [plain_primitive_cons]
    split
    . apply Concerns.mono _ (List.subset_cons_self t ts)
      apply (concerns_expression ts).andThen
      intro e rest _
      cases rest with
      | nil => exact ⟨by simp, by simp⟩
      | cons u rest =>
        dsimp only
        split
        . exact concerns_ok e (List.subset_cons_self u rest)
        . exact concerns_unexpected List.mem_cons_self .closing
    . apply (concerns_comparison (t :: ts)).andThen
      intro c rest _
      exact concerns_ok _ (List.Subset.refl rest)
termination_by (ts.length, 0)

end

theorem exists_mem_of_parseTokens {ts : List Token} {pos : Nat} {found : String}
    {expected : Expected} (h : parseTokens ts = .error (.unexpectedToken pos found expected)) :
    ∃ t ∈ ts, t.pos = pos ∧ t.kind.text = found := by
  have hconcerns := concerns_expression ts
  rw [parseTokens_eq] at h
  split at h
  . cases h
  . split at h
    . cases h
    . split at h
      . next e hexpression =>
        cases h
        exact hconcerns.unexpected hexpression
      . cases h
      . next e t rest hexpression =>
        cases h
        exact ⟨t, hconcerns.rest hexpression List.mem_cons_self, rfl, rfl⟩

end Parser

namespace Token

def escapes (cs : List Char) : Nat := (cs.reverse.takeWhile (· == '\\')).length

theorem escapes_cons (c : Char) (cs : List Char) :
    escapes (c :: cs) = escapes cs + if (c :: cs).all (· == '\\') then 1 else 0 := by
  unfold escapes
  rw [List.reverse_cons, List.takeWhile_append]
  split
  . next heq =>
    have htake : cs.reverse.takeWhile (· == '\\') = cs.reverse :=
      (List.takeWhile_prefix _).eq_of_length heq
    have hall : cs.all (· == '\\') = true := by
      rw [← List.all_reverse, ← htake]
      exact List.all_takeWhile
    by_cases hc : c = '\\' <;> simp [htake, hall, hc]
  . next hne =>
    have hall : cs.all (· == '\\') = false := by
      rw [← Bool.not_eq_true, ← List.all_reverse]
      intro hall
      apply hne
      have htake := @List.takeWhile_append_of_pos Char _ _ [] (List.all_eq_true.1 hall)
      rw [List.append_nil, List.takeWhile_nil, List.append_nil] at htake
      rw [htake]
    simp [hall]

theorem escapes_escape (c : Char) (cs : List Char) :
    escapes ('\\' :: c :: cs) % 2 = escapes cs % 2 := by
  have hall : ('\\' :: c :: cs).all (· == '\\') = (c :: cs).all (· == '\\') := rfl
  rw [escapes_cons, escapes_cons, hall]
  cases (c :: cs).all (· == '\\') with
  | false => rfl
  | true => exact Nat.add_mod_right _ 2

theorem escapes_of_readQuoted_eq_none {cs a b : List Char} (h : readQuoted cs = none)
    (hcs : cs = a ++ '"' :: b) : escapes a % 2 = 1 := by
  fun_induction readQuoted cs generalizing a with
  | case1 => simp at hcs
  | case2 cs => simp at h
  | case3 c cs ih =>
    rw [Option.map_eq_none_iff] at h
    cases a with
    | nil => simp at hcs
    | cons d a =>
      cases a with
      | nil =>
        simp only [List.cons_append, List.nil_append, List.cons.injEq] at hcs
        rw [← hcs.1]
        rfl
      | cons d' a =>
        simp only [List.cons_append, List.cons.injEq] at hcs
        obtain ⟨rfl, rfl, hcs⟩ := hcs
        rw [escapes_escape]
        exact ih h hcs
  | case4 cs _ hend =>
    -- The backslash is the last character.
    cases cs with
    | nil => cases a <;> simp at hcs
    | cons c cs => exact absurd rfl (hend c cs rfl)
  | case5 c cs hquote _ hescape ih =>
    rw [Option.map_eq_none_iff] at h
    cases a with
    | nil =>
      simp only [List.nil_append, List.cons.injEq] at hcs
      exact absurd hcs.1 hquote
    | cons d a =>
      simp only [List.cons_append, List.cons.injEq] at hcs
      obtain ⟨rfl, hcs⟩ := hcs
      rw [escapes_cons]
      simp [hescape, ih h hcs]

theorem of_readComparator_eq_none {c : Char} {cs : List Char} (hc : c ∈ ['=', '!', ':', '<', '>'])
    (h : readComparator c cs = none) : c = '!' ∧ cs.head? ≠ some '=' ∧ cs.head? ≠ some '~' := by
  fun_cases readComparator c cs with
  | case10 c cs _ hequal hdiffers hunlike hcolon _ hless _ hgreater =>
    have hmark : c = '!' := by
      simp only [List.mem_cons, List.not_mem_nil, or_false] at hc
      grind
    refine ⟨hmark, ?_, ?_⟩
    . rw [ne_eq, List.head?_eq_some_iff]
      rintro ⟨tail, htail⟩
      exact hdiffers tail hmark htail
    . rw [ne_eq, List.head?_eq_some_iff]
      rintro ⟨tail, htail⟩
      exact hunlike tail hmark htail
  | _ => simp_all [readComparator]

/--
The place where a text cannot be divided into tokens: an exclamation mark that starts no operator, or
a quote behind which all quotes are escaped.
-/
inductive IsFault (pos : Nat) : Char → List Char → ParseError → Prop where
  | mark {rest : List Char} : rest.head? ≠ some '=' → rest.head? ≠ some '~' →
      IsFault pos '!' rest (.unexpectedChar pos '!')
  | quote {rest : List Char} : (∀ a b, rest = a ++ '"' :: b → escapes a % 2 = 1) →
      IsFault pos '"' rest (.unterminatedString pos)

theorem isFault_of_read {pos : Nat} {c : Char} {cs : List Char} {e : ParseError}
    (h : Kind.read pos c cs = .error e) : IsFault pos c cs e := by
  fun_cases Kind.read pos c cs with
  | case5 _ _ _ hc hread =>
    subst hc
    have he : e = .unterminatedString pos := by simpa [Kind.read, hread] using h.symm
    rw [he]
    exact .quote fun a b => escapes_of_readQuoted_eq_none hread
  | case7 hopening hclosing hminus hquote hreserved hread =>
    have hc : c ∈ ['=', '!', ':', '<', '>'] := by
      simpa [isReserved, hopening, hclosing, hquote] using hreserved
    obtain ⟨rfl, hequal, htilde⟩ := of_readComparator_eq_none hc hread
    have he : e = .unexpectedChar pos '!' := by simpa [Kind.read, hread, isReserved] using h.symm
    rw [he]
    exact .mark hequal htilde
  | _ => simp_all [Kind.read]

theorem exists_isFault_of_tokenize {text : String} {e : ParseError} (h : tokenize text = .error e) :
    ∃ before c rest, text.toList = before ++ c :: rest ∧ IsFault (bytesOf before) c rest e ∧
      ∃ tiling : Tiling before, tokenize (String.ofList before) = .ok tiling.tokens := by
  obtain ⟨before, c, rest, ts, htext, hscan, hread⟩ := exists_append_of_scan_eq_error h
  rw [Nat.zero_add] at hread
  have hbefore : tokenize (String.ofList before) = .ok ts := by
    rw [tokenize, String.toList_ofList]
    exact hscan
  obtain ⟨tiling, htokens⟩ := exists_tiling_of_scan hscan
  refine ⟨before, c, rest, htext, isFault_of_read hread, tiling, ?_⟩
  rw [hbefore, tiling.tokens_eq, htokens]

theorem ne_unexpectedToken_of_isFault {pos : Nat} {c : Char} {rest : List Char} {e : ParseError}
    (h : IsFault pos c rest e) (pos' : Nat) (found : String) (expected : Expected) :
    e ≠ .unexpectedToken pos' found expected := by
  cases h <;> simp

/--
The tokens of a text cover it but for blanks. Where a text cannot be divided into tokens, the position
of the error is that of the character at fault, and the text before it is covered in this way. A token
that the grammar does not allow is a token of the text.
-/
theorem exists_tiling_or_isFault (text : String) :
    (match tokenize text with
    | .ok ts => ∃ tiling : Tiling text.toList, tiling.tokens = ts
    | .error e => ∃ before c rest, text.toList = before ++ c :: rest ∧
        IsFault (bytesOf before) c rest e ∧
        ∃ tiling : Tiling before, tokenize (String.ofList before) = .ok tiling.tokens) ∧
    ∀ pos found expected, parse text = .error (.unexpectedToken pos found expected) →
      ∃ ts, tokenize text = .ok ts ∧ ∃ t ∈ ts, t.pos = pos ∧ t.kind.text = found := by
  unfold parse
  cases htokens : tokenize text with
  | ok ts =>
    refine ⟨exists_tiling_of_tokenize htokens, ?_⟩
    intro pos found expected h
    exact ⟨ts, rfl, Parser.exists_mem_of_parseTokens h⟩
  | error e =>
    have hfault := exists_isFault_of_tokenize htokens
    refine ⟨hfault, ?_⟩
    intro pos found expected h
    obtain ⟨_, _, _, _, hfault, _⟩ := hfault
    cases h
    exact absurd rfl (ne_unexpectedToken_of_isFault hfault pos found expected)

example : tokenize "größe \"a\\\"" = .error (.unterminatedString 8) := by cbv

end Token

end LogSieve

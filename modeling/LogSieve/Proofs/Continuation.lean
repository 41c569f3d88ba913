import Mathlib
import LogSieve.Proofs.FirstFault
import LogSieve.Proofs.RoundTrip

/-!
This module contains how a text can go on behind some of its tokens. Where the grammar does not allow
a token, there is a text with the same tokens before it that is accepted.
-/

namespace LogSieve

namespace Token

theorem scans_refl (p : Place) : Scans p [] p := by
  unfold Scans
  cases p.tokens <;> rfl

theorem Kind.IsLexeme.scans {kind : Kind} {c : Char} {l rest : List Char} (h : kind.IsLexeme c l rest)
    {tail : List Char} (htail : kind.EndsAt tail) (pos : Nat) (spaced : Bool) :
    Scans ⟨pos, spaced, c :: l ++ tail⟩ [⟨kind, pos, spaced⟩]
      ⟨pos + bytesOf (c :: l), false, tail⟩ := by
  have hlexeme : kind.IsLexeme c l tail := ⟨h.isBlank_eq_false, htail, h.read⟩
  exact hlexeme.scan pos spaced

theorem exists_scans_of_scan {pos : Nat} {spaced : Bool} {cs : List Char} {t : Token}
    {used rest : List Token} (h : scan pos spaced cs = .ok (t :: used ++ rest)) :
    ∃ before pos', before ≠ [] ∧ before <+: cs ∧
      ∀ tail, (∀ u ∈ (t :: used).getLast?, u.kind.EndsAt tail) →
        Scans ⟨pos, spaced, before ++ tail⟩ (t :: used) ⟨pos', false, tail⟩ := by
  induction pos, spaced, cs using scan_induct generalizing t used with
  | nil pos spaced =>
    rw [scan_nil] at h
    cases h
  | fault pos spaced c cs e hblank hread =>
    rw [scan_cons_of_error hblank hread] at h
    cases h
  | blank pos spaced c cs hblank ih =>
    rw [scan_cons_of_isBlank hblank] at h
    obtain ⟨before, pos', hne, hbefore, hscans⟩ := ih h
    refine ⟨c :: before, pos', by simp, List.cons_prefix_cons.2 ⟨rfl, hbefore⟩, ?_⟩
    intro tail htail
    exact (scans_blank hblank pos spaced (before ++ tail)).trans (hscans tail htail)
  | token pos spaced c l cs kind hlexeme ih =>
    rw [hlexeme.scan] at h
    obtain ⟨us, hus, heq⟩ := exists_of_map_eq_ok h
    simp only [List.cons_append, List.cons.injEq] at heq
    obtain ⟨rfl, rfl⟩ := heq
    cases used with
    | nil =>
      refine ⟨c :: l, pos + bytesOf (c :: l), by simp, List.prefix_append _ _, ?_⟩
      intro tail htail
      exact hlexeme.scans (htail _ rfl) pos spaced
    | cons u used =>
      obtain ⟨before, pos', hne, hbefore, hscans⟩ := ih hus
      refine ⟨c :: l ++ before, pos', by simp, ?_, ?_⟩
      . rw [List.prefix_append_right_inj]
        exact hbefore
      . intro tail htail
        -- Behind the first token comes the same character as before.
        have hends : kind.EndsAt (before ++ tail) := by
          obtain ⟨d, before, rfl⟩ := List.exists_cons_of_ne_nil hne
          have hends : kind.EndsAt (d :: before) := hlexeme.endsAt.of_isPrefix hbefore
          exact hends
        rw [List.append_assoc]
        exact (hlexeme.scans hends pos spaced).trans (hscans tail htail)

theorem Kind.endsBefore_space (kind : Kind) : kind.endsBefore ' ' = true := by
  cases kind with
  | comparator op =>
    cases op with
    | order relation => cases relation <;> rfl
    | _ => rfl
  | _ => rfl

theorem exists_reads_closings (n : Nat) : ∃ text, Reads text (Parser.AreClosings n) := by
  induction n with
  | zero =>
    refine ⟨"", ?_⟩
    intro pos spaced rest
    exact ⟨[], pos, spaced, scans_refl _, rfl, by simp⟩
  | succ n ih =>
    obtain ⟨text, htext⟩ := ih
    refine ⟨")" ++ text, reads_closing.append htext ?_⟩
    rintro _ vs ⟨t, rfl, ht⟩ ⟨hlength, hvs⟩
    exact ⟨by simp [hlength], by simpa [ht] using hvs⟩

theorem isWord_zero : IsWord "0".toList := isWord_of_all (by decide) (by decide)

theorem exists_reads_fits (before : List Token) (expected : Expected)
    (h : ∀ t ∈ before.getLast?, t.kind = .minus → expected ≠ .value) :
    ∃ text, Reads text (Parser.Fits before expected) := by
  cases expected with
  | field =>
    let c : Comparison := ⟨⟨["a"], by decide, by decide⟩, .equal, ""⟩
    exact ⟨c.text, (Expr.reads_comparison c).mono fun ts hts => ⟨_, hts⟩⟩
  | value =>
    refine ⟨"0" ++ " ", (reads_word isWord_zero).mono ?_⟩
    rintro ts ⟨t, rfl, ht⟩
    refine ⟨t, "0", rfl, ht, ?_⟩
    intro u hu hminus
    exact absurd rfl (h u hu hminus)
  | closing => exact ⟨")", reads_closing⟩
  | endOfInput => exact ⟨" ", reads_space⟩

theorem exists_scans_of_tokenize {text : String} {used rest : List Token}
    (h : tokenize text = .ok (used ++ rest)) :
    ∃ before pos, ∀ tail, (∀ t ∈ used.getLast?, t.kind.EndsAt tail) →
      Scans ⟨0, true, before ++ tail⟩ used ⟨pos, used.isEmpty, tail⟩ := by
  cases used with
  | nil => exact ⟨[], 0, fun tail _ => scans_refl _⟩
  | cons t used =>
    obtain ⟨before, pos, _, _, hscans⟩ := exists_scans_of_scan h
    exact ⟨before, pos, hscans⟩

theorem tokenize_of_scans {text : List Char} {ts : List Token} {pos : Nat} {spaced : Bool}
    (h : Scans ⟨0, true, text⟩ ts ⟨pos, spaced, []⟩) : tokenize (String.ofList text) = .ok ts := by
  rw [tokenize, String.toList_ofList]
  exact h.tokens_eq

theorem exists_tokenize_append {text : String} {used rest : List Token}
    (h : tokenize text = .ok (used ++ rest)) (expected : Expected) (n : Nat) :
    ∃ text' us vs, tokenize text' = .ok (used ++ (us ++ vs)) ∧ Parser.Fits used expected us ∧
      Parser.AreClosings n vs := by
  obtain ⟨before, pos, hbefore⟩ := exists_scans_of_tokenize h
  obtain ⟨closings, hclosings⟩ := exists_reads_closings n
  by_cases hminus : ∃ t ∈ used.getLast?, t.kind = .minus ∧ expected = .value
  . -- The word has to stand directly behind the minus.
    obtain ⟨t, ht, hkind, rfl⟩ := hminus
    have hused : used.isEmpty = false := by
      cases used with
      | nil => simp at ht
      | cons => rfl
    have hends : ∀ u ∈ used.getLast?, u.kind.EndsAt ("0".toList ++ ' ' :: closings.toList) := by
      intro u hu
      rw [Option.mem_unique hu ht, hkind]
      exact fun _ _ => rfl
    have hspace : Text.isBlank ' ' = true := by decide
    have hrest : (' ' :: closings.toList).takeWhile isWordPart = [] := by simp [isWordPart, hspace]
    have hfirst := hbefore _ hends
    rw [hused] at hfirst
    obtain ⟨pos₁, hword⟩ := exists_scans_word isWord_zero hrest pos false
    obtain ⟨vs, pos₂, spaced₂, hvs, hclosing⟩ := hclosings (pos₁ + ' '.utf8Size) true []
    rw [List.append_nil] at hvs
    have hscans := hfirst.trans (hword.trans ((scans_blank hspace pos₁ false _).trans hvs))
    refine ⟨_, _, vs, tokenize_of_scans hscans, ?_, hclosing⟩
    exact ⟨_, "0", rfl, rfl, fun _ _ _ => rfl⟩
  . obtain ⟨fitting, hfitting⟩ := exists_reads_fits used expected (by simpa using hminus)
    have hboth : Reads (fitting ++ closings) (fun ts => ∃ us vs, ts = us ++ vs ∧
        Parser.Fits used expected us ∧ Parser.AreClosings n vs) :=
      hfitting.append hclosings fun us vs hus hvs => ⟨us, vs, rfl, hus, hvs⟩
    have hall : Reads (" " ++ (fitting ++ closings)) (fun ts => ∃ us vs, ts = us ++ vs ∧
        Parser.Fits used expected us ∧ Parser.AreClosings n vs) := by
      apply reads_space.append hboth
      rintro _ ts rfl hts
      exact hts
    obtain ⟨_, pos₁, spaced₁, htail, us, vs, rfl, hus, hvs⟩ := hall pos used.isEmpty []
    rw [List.append_nil] at htail
    have hends : ∀ t ∈ used.getLast?, t.kind.EndsAt (" " ++ (fitting ++ closings)).toList := by
      intro t _ c hc
      have : c = ' ' := by simpa [eq_comm] using hc
      rw [this]
      exact t.kind.endsBefore_space
    exact ⟨_, us, vs, tokenize_of_scans ((hbefore _ hends).trans htail), hus, hvs⟩

theorem pairwise_pos_of_scan {pos : Nat} {spaced : Bool} {cs : List Char} {ts : List Token}
    (h : scan pos spaced cs = .ok ts) :
    (∀ t ∈ ts, pos ≤ t.pos) ∧ ts.Pairwise (·.pos < ·.pos) := by
  induction pos, spaced, cs using scan_induct generalizing ts with
  | nil pos spaced =>
    rw [scan_nil] at h
    cases h
    simp
  | fault pos spaced c cs e hblank hread =>
    rw [scan_cons_of_error hblank hread] at h
    cases h
  | blank pos spaced c cs hblank ih =>
    rw [scan_cons_of_isBlank hblank] at h
    obtain ⟨hle, hlt⟩ := ih h
    exact ⟨fun t ht => Nat.le_trans (Nat.le_add_right _ _) (hle t ht), hlt⟩
  | token pos spaced c l cs kind hlexeme ih =>
    rw [hlexeme.scan] at h
    obtain ⟨us, hus, rfl⟩ := exists_of_map_eq_ok h
    obtain ⟨hle, hlt⟩ := ih hus
    have hbytes : 0 < bytesOf (c :: l) := by
      rw [bytesOf_cons]
      have := c.utf8Size_pos
      omega
    have hpos : ∀ t ∈ us, pos < t.pos := by
      intro t ht
      have := hle t ht
      omega
    refine ⟨?_, List.pairwise_cons.2 ⟨hpos, hlt⟩⟩
    simp only [List.forall_mem_cons]
    exact ⟨Nat.le_refl _, fun t ht => Nat.le_of_lt (hpos t ht)⟩

end Token

/--
Where the grammar does not allow a token of a text, it is the only token at the position of the error.
All tokens that agree up to this one are rejected with the same error, and there is a text with the
same tokens before this one that is accepted.
-/
theorem exists_index_of_unexpectedToken {text : String} {ts : List Token} {pos : Nat} {found : String}
    {expected : Expected} (htokens : Token.tokenize text = .ok ts)
    (h : Parser.parseTokens ts = .error (.unexpectedToken pos found expected)) :
    ∃ i t, ts[i]? = some t ∧ t.unexpected expected = .unexpectedToken pos found expected ∧
      (∀ j u, ts[j]? = some u → u.pos = pos → j = i) ∧
      (∀ us, us.take (i + 1) = ts.take (i + 1) →
        Parser.parseTokens us = .error (.unexpectedToken pos found expected)) ∧
      ∃ text' more e, Token.tokenize text' = .ok (ts.take i ++ more) ∧
        parse text' = .ok (.expression e) := by
  obtain ⟨used, t, rest, rfl, ht, hfault⟩ := Parser.faultsFirst_parseTokens ts pos found expected h
  refine ⟨used.length, t, by simp, ht, ?_, ?_, ?_⟩
  . intro j u hu hpos
    have hnodup : ((used ++ t :: rest).map (·.pos)).Nodup :=
      List.pairwise_map.2 ((Token.pairwise_pos_of_scan htokens).2.imp Nat.ne_of_lt)
    have hj : j < ((used ++ t :: rest).map (·.pos)).length := by
      rw [List.length_map]
      exact (List.getElem?_eq_some_iff.1 hu).1
    rw [← List.getElem?_inj hj hnodup, List.getElem?_map, List.getElem?_map, hu]
    cases ht
    simp [hpos]
  . intro us hus
    have htake : us.take (used.length + 1) = used ++ [t] := by
      rw [hus, List.append_cons]
      exact List.take_left' (by simp)
    have hus : us = used ++ t :: us.drop (used.length + 1) := by
      rw [List.append_cons, ← htake, List.take_append_drop]
    rw [hus, hfault.eq_error, ht]
  . obtain ⟨n, hn⟩ := hfault.exists_closings
    obtain ⟨text', us, vs, htext', hus, hvs⟩ := Token.exists_tokenize_append htokens expected n
    obtain ⟨e, he⟩ := hn us vs hus hvs
    refine ⟨text', us ++ vs, e, by simpa using htext', ?_⟩
    rw [parse, htext']
    exact Parser.parseTokens_eq_expression_iff.2 he

theorem exists_index_of_unexpectedToken_minus :
    let text := "é:x (NOT b = - 1"
    let ts : List Token := [⟨.word "é", 0, true⟩, ⟨.comparator .has, 2, false⟩, ⟨.word "x", 3, false⟩,
      ⟨.opening, 5, true⟩, ⟨.not, 6, false⟩, ⟨.word "b", 10, true⟩, ⟨.comparator .equal, 12, true⟩,
      ⟨.minus, 14, true⟩, ⟨.word "1", 16, true⟩]
    Token.tokenize text = .ok ts ∧
      Parser.parseTokens ts = .error (.unexpectedToken 16 "1" .value) ∧
      (∀ rest, Parser.parseTokens (ts ++ rest) = .error (.unexpectedToken 16 "1" .value)) ∧
      ∃ text' more e, Token.tokenize text' = .ok (ts.take 8 ++ more) ∧
        parse text' = .ok (.expression e) := by
  intro text ts
  have htokens : Token.tokenize text = .ok ts := by cbv
  have herror : Parser.parseTokens ts = .error (.unexpectedToken 16 "1" .value) := by cbv
  obtain ⟨i, t, _, _, hindex, hreject, haccept⟩ := exists_index_of_unexpectedToken htokens herror
  obtain rfl : 8 = i := hindex 8 _ rfl rfl
  refine ⟨htokens, herror, ?_, haccept⟩
  intro rest
  exact hreject (ts ++ rest) rfl

end LogSieve

import LogSieve.Proofs.Grammar

/-!
This module contains how the pieces of printed filters are divided into tokens.
-/

namespace LogSieve.Token

theorem scan_nil (pos : Nat) (spaced : Bool) : scan pos spaced [] = .ok [] := by
  rw [scan]

theorem scan_cons_of_isBlank {c : Char} (h : Text.isBlank c = true) (pos : Nat) (spaced : Bool)
    (cs : List Char) : scan pos spaced (c :: cs) = scan (pos + c.utf8Size) true cs := by
  rw [scan, if_pos h]

theorem scan_cons_of_read {c : Char} {cs rest : List Char} {kind : Kind} {pos : Nat}
    (hblank : Text.isBlank c = false) (h : Kind.read pos c cs = .ok (kind, rest)) (spaced : Bool) :
    scan pos spaced (c :: cs) =
      (scan (pos + byteSize (c :: cs.take (cs.length - rest.length))) false rest).map
        (⟨kind, pos, spaced⟩ :: ·) := by
  rw [scan, if_neg (by simp [hblank])]
  split
  . next e he =>
    rw [h] at he
    simp at he
  . next kind' rest' he =>
    obtain ⟨rfl, rfl⟩ : kind = kind' ∧ rest = rest' := by
      rw [h] at he
      simpa using he
    rfl

structure Place where
  pos : Nat
  spaced : Bool
  text : List Char

def Place.tokens (p : Place) : Except ParseError (List Token) := scan p.pos p.spaced p.text

def Scans (p : Place) (ts : List Token) (q : Place) : Prop := p.tokens = q.tokens.map (ts ++ ·)

theorem Scans.trans {p q r : Place} {ts us : List Token} (h : Scans p ts q) (h' : Scans q us r) :
    Scans p (ts ++ us) r := by
  unfold Scans at h h' ⊢
  rw [h, h']
  cases r.tokens <;> simp [Except.map]

theorem Scans.tokens_eq {p : Place} {ts : List Token} {pos : Nat} {spaced : Bool}
    (h : Scans p ts ⟨pos, spaced, []⟩) : p.tokens = .ok ts := by
  unfold Scans at h
  rw [h]
  simp [Place.tokens, scan, Except.map]

theorem scans_blank {c : Char} (h : Text.isBlank c = true) (pos : Nat) (spaced : Bool)
    (rest : List Char) : Scans ⟨pos, spaced, c :: rest⟩ [] ⟨pos + c.utf8Size, true, rest⟩ := by
  unfold Scans
  simp only [Place.tokens]
  rw [scan_cons_of_isBlank h]
  cases scan (pos + c.utf8Size) true rest <;> simp [Except.map]

theorem exists_scans_of_read {c : Char} {cs rest : List Char} {kind : Kind} {pos : Nat}
    (hblank : Text.isBlank c = false) (h : Kind.read pos c cs = .ok (kind, rest)) (spaced : Bool) :
    ∃ pos', Scans ⟨pos, spaced, c :: cs⟩ [⟨kind, pos, spaced⟩] ⟨pos', false, rest⟩ :=
  ⟨_, scan_cons_of_read hblank h spaced⟩

/--
Wherever the text stands, and whatever comes behind it, it is divided into tokens that satisfy `p`.
-/
def Reads (text : String) (p : List Token → Prop) : Prop :=
  ∀ pos spaced rest, ∃ ts pos' spaced',
    Scans ⟨pos, spaced, text.toList ++ rest⟩ ts ⟨pos', spaced', rest⟩ ∧ p ts

theorem Reads.append {a b : String} {p q r : List Token → Prop} (ha : Reads a p) (hb : Reads b q)
    (h : ∀ us vs, p us → q vs → r (us ++ vs)) : Reads (a ++ b) r := by
  intro pos spaced rest
  obtain ⟨us, pos', spaced', hus, hp⟩ := ha pos spaced (b.toList ++ rest)
  obtain ⟨vs, pos'', spaced'', hvs, hq⟩ := hb pos' spaced' rest
  refine ⟨us ++ vs, pos'', spaced'', ?_, h us vs hp hq⟩
  rw [String.toList_append, List.append_assoc]
  exact hus.trans hvs

theorem Reads.mono {text : String} {p q : List Token → Prop} (h : Reads text p)
    (hpq : ∀ ts, p ts → q ts) : Reads text q := by
  intro pos spaced rest
  obtain ⟨ts, pos', spaced', hts, hp⟩ := h pos spaced rest
  exact ⟨ts, pos', spaced', hts, hpq ts hp⟩

theorem Reads.tokenize {text : String} {p : List Token → Prop} (h : Reads text p) :
    ∃ ts, tokenize text = .ok ts ∧ p ts := by
  obtain ⟨ts, pos, spaced, hts, hp⟩ := h 0 true []
  rw [List.append_nil] at hts
  exact ⟨ts, hts.tokens_eq, hp⟩

def IsOne (kind : Kind) (ts : List Token) : Prop := ∃ t, ts = [t] ∧ t.kind = kind

theorem reads_of_read {c : Char} {cs : List Char} {kind : Kind} (hblank : Text.isBlank c = false)
    (h : ∀ pos rest, Kind.read pos c (cs ++ rest) = .ok (kind, rest)) :
    Reads (String.ofList (c :: cs)) (IsOne kind) := by
  intro pos spaced rest
  obtain ⟨pos', hscans⟩ := exists_scans_of_read hblank (h pos rest) spaced
  rw [String.toList_ofList]
  exact ⟨_, pos', false, hscans, _, rfl, rfl⟩

theorem reads_of_read_space {c : Char} {cs : List Char} {kind : Kind}
    (hblank : Text.isBlank c = false)
    (h : ∀ pos rest, Kind.read pos c (cs ++ ' ' :: rest) = .ok (kind, ' ' :: rest)) :
    Reads (String.ofList (c :: cs) ++ " ") (IsOne kind) := by
  intro pos spaced rest
  obtain ⟨pos', hscans⟩ := exists_scans_of_read hblank (h pos rest) spaced
  have hspace : Scans ⟨pos', false, ' ' :: rest⟩ [] ⟨pos' + ' '.utf8Size, true, rest⟩ :=
    scans_blank (by decide) pos' false rest
  have htext : (String.ofList (c :: cs) ++ " ").toList ++ rest = c :: (cs ++ ' ' :: rest) := by
    simp
  rw [htext]
  exact ⟨_, _, _, hscans.trans hspace, _, rfl, rfl⟩

theorem reads_space : Reads " " (· = []) := by
  intro pos spaced rest
  exact ⟨[], _, _, scans_blank (c := ' ') (by decide) pos spaced rest, rfl⟩

theorem reads_opening : Reads "(" (IsOne .opening) := by
  apply reads_of_read (c := '(')
  . decide
  . intro pos rest
    simp [Kind.read]

theorem reads_closing : Reads ")" (IsOne .closing) := by
  apply reads_of_read (c := ')')
  . decide
  . intro pos rest
    simp [Kind.read]

theorem exists_read_operator (op : Operator) :
    ∃ c cs, op.text = String.ofList (c :: cs) ∧ Text.isBlank c = false ∧ ∀ pos rest,
      Kind.read pos c (cs ++ ' ' :: rest) = .ok (.comparator op, ' ' :: rest) := by
  cases op with
  | order relation =>
    cases relation <;>
      exact ⟨_, _, rfl, by decide, fun _ _ => by simp [Kind.read, isReserved, readComparator]⟩
  | _ => exact ⟨_, _, rfl, by decide, fun _ _ => by simp [Kind.read, isReserved, readComparator]⟩

theorem reads_operator (op : Operator) : Reads (op.text ++ " ") (IsOne (.comparator op)) := by
  obtain ⟨c, cs, htext, hblank, hread⟩ := exists_read_operator op
  rw [htext]
  exact reads_of_read_space hblank hread

structure IsWord (cs : List Char) : Prop where
  parts : ∀ c ∈ cs, isWordPart c = true
  exists_head : ∃ c cs', cs = c :: cs' ∧ c ≠ '-'

theorem IsWord.read {c : Char} {cs rest : List Char} (h : IsWord (c :: cs))
    (hrest : rest.takeWhile isWordPart = []) (pos : Nat) :
    Kind.read pos c (cs ++ rest) = .ok (.ofWord (String.ofList (c :: cs)), rest) := by
  have hcs : ∀ d ∈ cs, isWordPart d = true := fun d hd => h.parts d (List.mem_cons_of_mem c hd)
  have hreserved : isReserved c = false := by
    have := h.parts c (by simp)
    simp only [isWordPart, Bool.and_eq_true, Bool.not_eq_true'] at this
    exact this.2
  have hminus : c ≠ '-' := by
    obtain ⟨_, _, heq, hminus⟩ := h.exists_head
    simp only [List.cons.injEq] at heq
    rw [heq.1]
    exact hminus
  have hdrop : rest.dropWhile isWordPart = rest := by
    have := List.takeWhile_append_dropWhile (p := isWordPart) (l := rest)
    rwa [hrest, List.nil_append] at this
  unfold Kind.read
  rw [if_neg, if_neg, if_neg hminus, if_neg, if_neg (by simp [hreserved])]
  . rw [List.takeWhile_append_of_pos hcs, List.dropWhile_append_of_pos hcs, hrest, hdrop,
      List.append_nil]
  all_goals
    rintro rfl
    exact absurd hreserved (by decide)

theorem IsWord.isBlank_eq_false {c : Char} {cs : List Char} (h : IsWord (c :: cs)) :
    Text.isBlank c = false := by
  have := h.parts c (by simp)
  simp only [isWordPart, Bool.and_eq_true, Bool.not_eq_true'] at this
  exact this.1

theorem reads_word {text : String} (h : IsWord text.toList) :
    Reads (text ++ " ") (IsOne (.ofWord text)) := by
  obtain ⟨c, cs, htext, _⟩ := h.exists_head
  rw [htext] at h
  have hof : text = String.ofList (c :: cs) := by
    rw [← htext, String.ofList_toList]
  rw [hof]
  apply reads_of_read_space h.isBlank_eq_false
  intro pos rest
  apply h.read
  simp [isWordPart, show Text.isBlank ' ' = true by decide]

theorem isWord_of_all {c : Char} {cs : List Char} (h : (c :: cs).all isWordPart = true)
    (hminus : c ≠ '-') : IsWord (c :: cs) :=
  ⟨List.all_eq_true.1 h, c, cs, rfl, hminus⟩

theorem reads_and : Reads " AND " (IsOne .and) := by
  have hword : IsWord "AND".toList := isWord_of_all (by decide) (by decide)
  have hkind : Kind.ofWord "AND" = .and := rfl
  have htext : " AND " = " " ++ ("AND" ++ " ") := rfl
  rw [htext, ← hkind]
  exact reads_space.append (reads_word hword) (by rintro _ vs rfl h; exact h)

theorem reads_or : Reads " OR " (IsOne .or) := by
  have hword : IsWord "OR".toList := isWord_of_all (by decide) (by decide)
  have hkind : Kind.ofWord "OR" = .or := rfl
  have htext : " OR " = " " ++ ("OR" ++ " ") := rfl
  rw [htext, ← hkind]
  exact reads_space.append (reads_word hword) (by rintro _ vs rfl h; exact h)

theorem reads_not : Reads "NOT " (IsOne .not) := by
  have hword : IsWord "NOT".toList := isWord_of_all (by decide) (by decide)
  have hkind : Kind.ofWord "NOT" = .not := rfl
  have htext : "NOT " = "NOT" ++ " " := rfl
  rw [htext, ← hkind]
  exact reads_word hword

theorem readQuoted_cons_of_ne {c : Char} (hquote : c ≠ '"') (hescape : c ≠ '\\') (cs : List Char) :
    readQuoted (c :: cs) = (readQuoted cs).map fun (text, rest) => (c :: text, rest) := by
  rw [readQuoted]
  . rw [if_neg hescape]
  . exact hquote
  . intro d ds h
    exact absurd h hescape

theorem readQuoted_quoteChar (c : Char) (text : List Char) :
    readQuoted (quoteChar c ++ text) = (readQuoted text).map fun (cs, rest) => (c :: cs, rest) := by
  unfold quoteChar
  split
  . rfl
  . rfl
  . rfl
  . rfl
  . rfl
  . next hquote hescape _ _ _ => exact readQuoted_cons_of_ne hquote hescape text

theorem readQuoted_quote (s rest : List Char) :
    readQuoted (s.flatMap quoteChar ++ '"' :: rest) = some (s, rest) := by
  induction s with
  | nil => rfl
  | cons c s ih =>
    rw [List.flatMap_cons, List.append_assoc, readQuoted_quoteChar, ih]
    rfl

theorem exists_scans_quote (s : String) (pos : Nat) (spaced : Bool) (rest : List Char) :
    ∃ pos', Scans ⟨pos, spaced, (quote s).toList ++ rest⟩ [⟨.quoted s, pos, spaced⟩]
      ⟨pos', false, rest⟩ := by
  have htext : (quote s).toList ++ rest = '"' :: (s.toList.flatMap quoteChar ++ '"' :: rest) := by
    simp [quote]
  rw [htext]
  apply exists_scans_of_read
  . decide
  . have := readQuoted_quote s.toList rest
    simp [Kind.read, this]

theorem reads_quote (s : String) : Reads (quote s) (IsOne (.quoted s)) := by
  intro pos spaced rest
  obtain ⟨pos', h⟩ := exists_scans_quote s pos spaced rest
  exact ⟨_, pos', false, h, _, rfl, rfl⟩

theorem exists_scans_word {cs rest : List Char} (h : IsWord cs)
    (hrest : rest.takeWhile isWordPart = []) (pos : Nat) (spaced : Bool) :
    ∃ pos', Scans ⟨pos, spaced, cs ++ rest⟩ [⟨.ofWord (String.ofList cs), pos, spaced⟩]
      ⟨pos', false, rest⟩ := by
  obtain ⟨c, cs, rfl, _⟩ := h.exists_head
  exact exists_scans_of_read h.isBlank_eq_false (h.read hrest pos) spaced

theorem parts_word_nil : Grammar.parts (.word "") = [] := by
  simp [Grammar.parts, List.splitOn_nil]

theorem parts_word_of_not_mem {cs : List Char} (hne : cs ≠ []) (hdot : '.' ∉ cs) :
    Grammar.parts (.word (String.ofList cs)) = [.segment (String.ofList cs)] := by
  simp [Grammar.parts, List.splitOn_eq_singleton hdot, hne]

theorem parts_word_append_dot {cs : List Char} (hne : cs ≠ []) (hdot : '.' ∉ cs) (rest : List Char) :
    Grammar.parts (.word (String.ofList (cs ++ '.' :: rest))) =
      .segment (String.ofList cs) :: .dot :: Grammar.parts (.word (String.ofList rest)) := by
  have hrest : (rest.splitOn '.').map (fun piece =>
      if piece = [] then [] else [PathPart.segment (String.ofList piece)]) ≠ [] := by
    simp [List.splitOn_ne_nil]
  simp only [Grammar.parts, String.toList_ofList]
  rw [List.splitOn_append_cons_self_of_not_mem hdot, List.map_cons,
    List.intercalate_cons_of_ne_nil hrest, if_neg hne]
  rfl

def IsRun (spaced : Bool) (parts : List PathPart) (ts : List Token) : Prop :=
  ∃ t us, ts = t :: us ∧ t.kind.isPathPart = true ∧ t.spaced = spaced ∧
    (∀ u ∈ us, u.isGlued = true) ∧ ts.flatMap (fun t => Grammar.parts t.kind) = parts

theorem isRun_singleton {t : Token} (h : t.kind.isPathPart = true) :
    IsRun t.spaced (Grammar.parts t.kind) [t] :=
  ⟨t, [], rfl, h, rfl, by simp, by simp⟩

theorem IsRun.cons {t : Token} {parts : List PathPart} {ts : List Token}
    (ht : t.kind.isPathPart = true) (h : IsRun false parts ts) :
    IsRun t.spaced (Grammar.parts t.kind ++ parts) (t :: ts) := by
  obtain ⟨u, us, rfl, hu, hspaced, hus, hparts⟩ := h
  refine ⟨t, u :: us, rfl, ht, rfl, ?_, by rw [List.flatMap_cons, hparts]⟩
  intro v hv
  cases List.mem_cons.1 hv with
  | inl h => simp [h, isGlued, hspaced, hu]
  | inr h => exact hus v h

theorem IsRun.isPath {spaced : Bool} {target : Target} {ts : List Token}
    (h : IsRun spaced (Grammar.alternating target.segments) ts) : Grammar.IsPath ts target := by
  obtain ⟨t, us, rfl, ht, _, hus, hparts⟩ := h
  refine ⟨by simp, ?_, ?_, hparts⟩
  . intro u hu
    cases List.mem_cons.1 hu with
    | inl h => rw [h, ht]
    | inr h =>
      have := hus u h
      simp only [isGlued, Bool.and_eq_true] at this
      exact this.2
  . intro u hu
    have := hus u hu
    simp only [isGlued, Bool.and_eq_true, Bool.not_eq_true'] at this
    exact this.1

structure IsStart (cs : List Char) (parts : List PathPart) : Prop where
  all_parts : ∀ c ∈ cs, isWordPart c = true
  head_ne : cs.head? ≠ some '-'
  dot_mem : cs ≠ [] → '.' ∈ cs
  parts_append : ∀ rest, Grammar.parts (.word (String.ofList (cs ++ rest))) =
    parts ++ Grammar.parts (.word (String.ofList rest))

theorem isStart_nil : IsStart [] [] := ⟨by simp, by simp, by simp, by simp⟩

theorem isStart_dot : IsStart ['.'] [.dot] := by
  refine ⟨List.all_eq_true.1 (by decide), by decide, by decide, ?_⟩
  intro rest
  simp only [Grammar.parts, String.toList_ofList, List.singleton_append]
  rw [List.splitOn_cons_eq_if_modifyHead]
  simp [List.intercalate_cons_of_ne_nil, List.splitOn_ne_nil]

theorem ofWord_of_dot_mem {cs : List Char} (h : '.' ∈ cs) :
    Kind.ofWord (String.ofList cs) = .word (String.ofList cs) := by
  have hne : ∀ word : String, '.' ∉ word.toList → String.ofList cs ≠ word := by
    rintro word hword rfl
    rw [String.toList_ofList] at hword
    exact hword h
  unfold Kind.ofWord
  rw [if_neg (hne "AND" (by decide)), if_neg (hne "OR" (by decide)), if_neg (hne "NOT" (by decide))]

structure IsBare (cs : List Char) : Prop where
  isWord : IsWord cs
  dot_not_mem : '.' ∉ cs
  ofWord_eq : Kind.ofWord (String.ofList cs) = .word (String.ofList cs)

theorem isBare_of_needsQuotes {segment : String} (h : needsQuotes segment = false) :
    IsBare segment.toList := by
  simp only [needsQuotes, Bool.or_eq_false_iff, List.any_eq_false, Bool.not_eq_true,
    Bool.not_eq_false', beq_eq_false_iff_ne] at h
  obtain ⟨⟨⟨hempty, hminus⟩, hkeyword⟩, hparts⟩ := h
  have hcons : segment.toList ≠ [] := by
    intro hnil
    rw [String.toList_eq_nil_iff] at hnil
    simp [hnil] at hempty
  obtain ⟨c, cs, hcs⟩ := List.exists_cons_of_ne_nil hcons
  refine ⟨⟨?_, c, cs, hcs, ?_⟩, ?_, ?_⟩
  . intro d hd
    exact (hparts d hd).1.1
  . rintro rfl
    simp [hcs] at hminus
  . intro hdot
    exact (hparts '.' hdot).1.2 rfl
  . rw [String.ofList_toList]
    simp only [keywords, List.contains_eq_mem, List.mem_cons, List.not_mem_nil, or_false,
      decide_eq_false_iff_not, not_or] at hkeyword
    unfold Kind.ofWord
    rw [if_neg hkeyword.1, if_neg hkeyword.2.1, if_neg hkeyword.2.2]

theorem IsBare.ne_nil {cs : List Char} (h : IsBare cs) : cs ≠ [] := by
  obtain ⟨c, cs', rfl, _⟩ := h.isWord.exists_head
  simp

namespace IsStart

variable {cs s : List Char} {parts : List PathPart}

theorem isWord (h : IsStart cs parts) (hne : cs ≠ []) : IsWord cs := by
  obtain ⟨c, cs', rfl⟩ := List.exists_cons_of_ne_nil hne
  refine ⟨h.all_parts, c, cs', rfl, ?_⟩
  rintro rfl
  exact h.head_ne rfl

theorem isWord_append (h : IsStart cs parts) (hs : IsBare s) : IsWord (cs ++ s) := by
  refine ⟨?_, ?_⟩
  . intro c hc
    cases List.mem_append.1 hc with
    | inl hc => exact h.all_parts c hc
    | inr hc => exact hs.isWord.parts c hc
  . cases cs with
    | nil => exact hs.isWord.exists_head
    | cons c cs =>
      refine ⟨c, cs ++ s, rfl, ?_⟩
      rintro rfl
      exact h.head_ne rfl

theorem ofWord_append (h : IsStart cs parts) (hs : IsBare s) :
    Kind.ofWord (String.ofList (cs ++ s)) = .word (String.ofList (cs ++ s)) := by
  by_cases hcs : cs = []
  . rw [hcs, List.nil_append, hs.ofWord_eq]
  . exact ofWord_of_dot_mem (List.mem_append_left s (h.dot_mem hcs))

theorem append (h : IsStart cs parts) (hs : IsBare s) :
    IsStart (cs ++ s ++ ['.']) (parts ++ [.segment (String.ofList s), .dot]) := by
  have hword := h.isWord_append hs
  refine ⟨?_, ?_, by simp, ?_⟩
  . intro c hc
    cases List.mem_append.1 hc with
    | inl hc => exact hword.parts c hc
    | inr hc =>
      rw [List.mem_singleton] at hc
      rw [hc]
      decide
  . obtain ⟨c, cs', hcs', hminus⟩ := hword.exists_head
    simp [hcs', hminus]
  . intro rest
    have htext : cs ++ s ++ ['.'] ++ rest = cs ++ (s ++ '.' :: rest) := by simp
    rw [htext, h.parts_append, parts_word_append_dot hs.ne_nil hs.dot_not_mem]
    simp

theorem parts_eq (h : IsStart cs parts) : Grammar.parts (.word (String.ofList cs)) = parts := by
  have := h.parts_append []
  rwa [List.append_nil, String.ofList_nil, parts_word_nil, List.append_nil] at this

theorem exists_scans (h : IsStart cs parts) {text rest : List Char} {parts' : List PathPart}
    (htext : text.takeWhile isWordPart = [])
    (hscans : ∀ pos spaced, ∃ ts pos',
      Scans ⟨pos, spaced, text⟩ ts ⟨pos', false, rest⟩ ∧ IsRun spaced parts' ts)
    (pos : Nat) (spaced : Bool) :
    ∃ ts pos', Scans ⟨pos, spaced, cs ++ text⟩ ts ⟨pos', false, rest⟩ ∧
      IsRun spaced (parts ++ parts') ts := by
  by_cases hcs : cs = []
  . have hnil : parts = [] := by
      rw [← h.parts_eq, hcs, String.ofList_nil, parts_word_nil]
    rw [hcs, hnil]
    exact hscans pos spaced
  . obtain ⟨pos₁, hword⟩ := exists_scans_word (h.isWord hcs) htext pos spaced
    obtain ⟨ts, pos₂, hts, hrun⟩ := hscans pos₁ false
    rw [ofWord_of_dot_mem (h.dot_mem hcs)] at hword
    refine ⟨_, pos₂, hword.trans hts, ?_⟩
    rw [← h.parts_eq]
    exact hrun.cons rfl

end IsStart

theorem takeWhile_isWordPart_quote (s : String) (rest : List Char) :
    ((quote s).toList ++ rest).takeWhile isWordPart = [] := by
  simp [quote, isWordPart, isReserved]

theorem exists_scans_segments (s : String) (ss : List String) {cs : List Char}
    {parts : List PathPart} (hcs : IsStart cs parts) (pos : Nat) (spaced : Bool) {rest : List Char}
    (hrest : rest.takeWhile isWordPart = []) :
    ∃ ts pos', Scans
        ⟨pos, spaced, cs ++ ((".".intercalate ((s :: ss).map segmentText)).toList ++ rest)⟩
        ts ⟨pos', false, rest⟩ ∧
      IsRun spaced (parts ++ Grammar.alternating (s :: ss)) ts := by
  -- The start of a word grows by segments without quotes, and is complete before one with quotes.
  induction ss generalizing s cs parts pos spaced with
  | nil =>
    simp only [List.map_cons, List.map_nil, String.intercalate_singleton, segmentText]
    split
    . apply hcs.exists_scans (takeWhile_isWordPart_quote s rest)
      intro pos spaced
      obtain ⟨pos', h⟩ := exists_scans_quote s pos spaced rest
      exact ⟨_, pos', h, isRun_singleton rfl⟩
    . next hquotes =>
      have hbare := isBare_of_needsQuotes (Bool.eq_false_iff.2 hquotes)
      obtain ⟨pos', h⟩ := exists_scans_word (hcs.isWord_append hbare) hrest pos spaced
      rw [hcs.ofWord_append hbare, List.append_assoc] at h
      refine ⟨_, pos', h, ?_⟩
      have hparts := hcs.parts_append s.toList
      rw [parts_word_of_not_mem hbare.ne_nil hbare.dot_not_mem, String.ofList_toList] at hparts
      have hrun := isRun_singleton (t := ⟨.word (String.ofList (cs ++ s.toList)), pos, spaced⟩) rfl
      rw [hparts] at hrun
      exact hrun
  | cons s' ss ih =>
    have htext : (".".intercalate ((s :: s' :: ss).map segmentText)).toList ++ rest =
        (segmentText s).toList ++
          ('.' :: ((".".intercalate ((s' :: ss).map segmentText)).toList ++ rest)) := by
      simp [String.intercalate_cons_cons]
    rw [htext]
    unfold segmentText
    split
    . apply hcs.exists_scans (takeWhile_isWordPart_quote s _)
      intro pos spaced
      obtain ⟨pos₁, hquote⟩ := exists_scans_quote s pos spaced
        ('.' :: ((".".intercalate ((s' :: ss).map segmentText)).toList ++ rest))
      obtain ⟨ts, pos₂, hts, hrun⟩ := ih s' isStart_dot pos₁ false
      exact ⟨_, pos₂, hquote.trans hts, hrun.cons rfl⟩
    . next hquotes =>
      have hbare := isBare_of_needsQuotes (Bool.eq_false_iff.2 hquotes)
      obtain ⟨ts, pos', hts, hrun⟩ := ih s' (hcs.append hbare) pos spaced
      rw [String.ofList_toList] at hrun
      simp only [List.append_assoc, List.singleton_append] at hts
      refine ⟨ts, pos', hts, ?_⟩
      simpa [Grammar.alternating] using hrun

theorem exists_scans_target (target : Target) (pos : Nat) (spaced : Bool) {rest : List Char}
    (hrest : rest.takeWhile isWordPart = []) :
    ∃ ts pos', Scans ⟨pos, spaced, target.text.toList ++ rest⟩ ts ⟨pos', false, rest⟩ ∧
      Grammar.IsPath ts target := by
  obtain ⟨s, ss, hsegments⟩ := List.exists_cons_of_ne_nil target.segments_ne_nil
  obtain ⟨ts, pos', hts, hrun⟩ := exists_scans_segments s ss isStart_nil pos spaced hrest
  rw [List.nil_append, ← hsegments] at hrun
  refine ⟨ts, pos', ?_, hrun.isPath⟩
  rw [Target.text, hsegments]
  exact hts

theorem reads_target (target : Target) : Reads (target.text ++ " ") (Grammar.IsPath · target) := by
  intro pos spaced rest
  have hspace : Text.isBlank ' ' = true := by decide
  have hrest : (' ' :: rest).takeWhile isWordPart = [] := by
    simp [isWordPart, hspace]
  obtain ⟨ts, pos₁, hts, hpath⟩ := exists_scans_target target pos spaced hrest
  have hblank := hts.trans (scans_blank hspace pos₁ false rest)
  refine ⟨ts, pos₁ + ' '.utf8Size, true, ?_, hpath⟩
  simpa using hblank

theorem tokenize_target (target : Target) :
    ∃ ts, tokenize target.text = .ok ts ∧ Grammar.IsPath ts target := by
  have hrest : ([] : List Char).takeWhile isWordPart = [] := rfl
  obtain ⟨ts, pos, hts, hpath⟩ := exists_scans_target target 0 true hrest
  rw [List.append_nil] at hts
  exact ⟨ts, hts.tokens_eq, hpath⟩

end LogSieve.Token

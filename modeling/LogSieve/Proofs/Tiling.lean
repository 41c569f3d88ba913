import LogSieve.Proofs.Scanning

/-!
This module contains how tokens cover the text that they are read from. The text consists of their
lexemes and of blanks between them, and where it cannot be divided into tokens, this holds of
everything before the place that is at fault.
-/

namespace LogSieve.Token

def bytesOf (cs : List Char) : Nat := (String.ofList cs).utf8ByteSize

theorem bytesOf_nil : bytesOf [] = 0 := rfl

theorem bytesOf_cons (c : Char) (cs : List Char) : bytesOf (c :: cs) = c.utf8Size + bytesOf cs := by
  simp only [bytesOf, String.ofList_cons, String.utf8ByteSize_append, String.utf8ByteSize_singleton]

theorem bytesOf_append (cs ds : List Char) : bytesOf (cs ++ ds) = bytesOf cs + bytesOf ds := by
  simp only [bytesOf, String.ofList_append, String.utf8ByteSize_append]

theorem byteSize_eq_bytesOf (cs : List Char) : byteSize cs = bytesOf cs := by
  have hfoldl : ∀ n, cs.foldl (fun n c => n + c.utf8Size) n = n + bytesOf cs := by
    induction cs with
    | nil => exact fun n => rfl
    | cons c cs ih =>
      intro n
      rw [List.foldl_cons, ih, bytesOf_cons, Nat.add_assoc]
  rw [byteSize, hfoldl, Nat.zero_add]

theorem exists_append_of_readQuoted {cs text rest : List Char}
    (h : readQuoted cs = some (text, rest)) :
    ∃ l, cs = l ++ rest ∧ ∀ rest', readQuoted (l ++ rest') = some (text, rest') := by
  fun_induction readQuoted cs generalizing text rest with
  | case1 => simp at h
  | case2 cs =>
    simp only [Option.some.injEq, Prod.mk.injEq] at h
    obtain ⟨rfl, rfl⟩ := h
    exact ⟨['"'], rfl, fun _ => rfl⟩
  | case3 c cs ih =>
    simp only [Option.map_eq_some_iff, Prod.exists, Prod.mk.injEq] at h
    obtain ⟨text, rest, h, rfl, rfl⟩ := h
    obtain ⟨l, rfl, hl⟩ := ih h
    refine ⟨'\\' :: c :: l, rfl, ?_⟩
    intro rest'
    rw [List.cons_append, List.cons_append, readQuoted, hl]
    rfl
  | case4 => simp at h
  | case5 c cs hquote _ hescape ih =>
    simp only [Option.map_eq_some_iff, Prod.exists, Prod.mk.injEq] at h
    obtain ⟨text, rest, h, rfl, rfl⟩ := h
    obtain ⟨l, rfl, hl⟩ := ih h
    refine ⟨c :: l, rfl, ?_⟩
    intro rest'
    rw [List.cons_append, readQuoted_cons_of_ne hquote hescape, hl]
    rfl

def Kind.endsBefore : Kind → Char → Bool
  | .and, c | .or, c | .not, c | .word _, c => !isWordPart c
  | .comparator .equal, c => c != '~'
  | .comparator (.order .lt), c | .comparator (.order .gt), c => c != '='
  | _, _ => true

def Kind.EndsAt (kind : Kind) (cs : List Char) : Prop := ∀ c ∈ cs.head?, kind.endsBefore c = true

theorem Kind.endsAt_nil (kind : Kind) : kind.EndsAt [] := by
  intro c hc
  simp at hc

theorem Kind.EndsAt.of_isPrefix {kind : Kind} {cs ds : List Char} (h : kind.EndsAt cs)
    (hds : ds <+: cs) : kind.EndsAt ds := by
  cases ds with
  | nil => exact kind.endsAt_nil
  | cons d ds =>
    obtain ⟨ending, rfl⟩ := hds
    exact h

theorem exists_append_of_lookahead {c d : Char} {op : Operator} {cs rest : List Char}
    (short : Operator)
    (hends : (Kind.comparator short).endsBefore = (· != d))
    (hshort : ∀ cs, (∀ tail, cs = d :: tail → False) → readComparator c cs = some (short, cs))
    (hcs : ∀ tail, cs = d :: tail → False) (h : readComparator c cs = some (op, rest)) :
    ∃ l, cs = l ++ rest ∧ (Kind.comparator op).EndsAt rest ∧
      ∀ rest', (Kind.comparator op).EndsAt rest' →
        readComparator c (l ++ rest') = some (op, rest') := by
  have hhead : ∀ cs, (Kind.comparator short).EndsAt cs ↔ ∀ tail, cs = d :: tail → False := by
    intro cs
    unfold Kind.EndsAt
    rw [hends]
    cases cs <;> simp
  rw [hshort cs hcs] at h
  cases h
  refine ⟨[], rfl, (hhead _).2 hcs, ?_⟩
  intro rest' hrest'
  exact hshort rest' ((hhead _).1 hrest')

theorem exists_append_of_readComparator {c : Char} {cs rest : List Char} {op : Operator}
    (h : readComparator c cs = some (op, rest)) :
    ∃ l, cs = l ++ rest ∧ (Kind.comparator op).EndsAt rest ∧
      ∀ rest', (Kind.comparator op).EndsAt rest' →
        readComparator c (l ++ rest') = some (op, rest') := by
  fun_cases readComparator c cs with
  | case1 cs =>
    cases h
    exact ⟨['~'], rfl, fun _ _ => rfl, fun _ _ => rfl⟩
  | case2 cs hcs =>
    apply exists_append_of_lookahead .equal rfl _ hcs h
    intro cs hcs
    rw [readComparator]
    exact hcs
  | case3 cs =>
    cases h
    exact ⟨['='], rfl, fun _ _ => rfl, fun _ _ => rfl⟩
  | case4 cs =>
    cases h
    exact ⟨['~'], rfl, fun _ _ => rfl, fun _ _ => rfl⟩
  | case5 cs =>
    cases h
    exact ⟨[], rfl, fun _ _ => rfl, fun _ _ => rfl⟩
  | case6 cs =>
    cases h
    exact ⟨['='], rfl, fun _ _ => rfl, fun _ _ => rfl⟩
  | case7 cs hcs =>
    apply exists_append_of_lookahead (.order .lt) rfl _ hcs h
    intro cs hcs
    rw [readComparator]
    exact hcs
  | case8 cs =>
    cases h
    exact ⟨['='], rfl, fun _ _ => rfl, fun _ _ => rfl⟩
  | case9 cs hcs =>
    apply exists_append_of_lookahead (.order .gt) rfl _ hcs h
    intro cs hcs
    rw [readComparator]
    exact hcs
  | case10 => simp_all [readComparator]

theorem Kind.endsBefore_ofWord (text : String) :
    (Kind.ofWord text).endsBefore = fun c => !isWordPart c := by
  unfold Kind.ofWord
  split
  . rfl
  . split
    . rfl
    . split <;> rfl

theorem takeWhile_append_of_head {p : Char → Bool} (cs : List Char) {rest : List Char}
    (h : ∀ c ∈ rest.head?, p c = false) :
    (cs.takeWhile p ++ rest).takeWhile p = cs.takeWhile p ∧
      (cs.takeWhile p ++ rest).dropWhile p = rest := by
  have hall : ∀ c ∈ cs.takeWhile p, p c = true := List.all_eq_true.1 List.all_takeWhile
  have hrest : rest.takeWhile p = [] ∧ rest.dropWhile p = rest := by
    cases rest with
    | nil => exact ⟨rfl, rfl⟩
    | cons d rest =>
      have hd : p d = false := h d rfl
      simp [hd]
  rw [List.takeWhile_append_of_pos hall, List.dropWhile_append_of_pos hall]
  simp [hrest]

/--
The lexeme of a token before the text `rest`. The token is read the same before every other text that
does not continue it.
-/
structure Kind.IsLexeme (kind : Kind) (c : Char) (l rest : List Char) : Prop where
  isBlank_eq_false : Text.isBlank c = false
  endsAt : kind.EndsAt rest
  read : ∀ pos rest', kind.EndsAt rest' → Kind.read pos c (l ++ rest') = .ok (kind, rest')

theorem Kind.exists_isLexeme_of_read {pos : Nat} {c : Char} {cs rest : List Char} {kind : Kind}
    (hblank : Text.isBlank c = false) (h : Kind.read pos c cs = .ok (kind, rest)) :
    ∃ l, cs = l ++ rest ∧ kind.IsLexeme c l rest := by
  unfold Kind.read at h
  split at h
  . next hc =>
    cases h
    exact ⟨[], rfl, hblank, fun _ _ => rfl, fun _ _ _ => by simp [Kind.read, hc]⟩
  split at h
  . next hc =>
    cases h
    exact ⟨[], rfl, hblank, fun _ _ => rfl, fun _ _ _ => by simp [Kind.read, hc]⟩
  split at h
  . next hc =>
    cases h
    exact ⟨[], rfl, hblank, fun _ _ => rfl, fun _ _ _ => by simp [Kind.read, hc]⟩
  split at h
  . next hc =>
    split at h
    . next text rest' hread =>
      cases h
      obtain ⟨l, rfl, hl⟩ := exists_append_of_readQuoted hread
      exact ⟨l, rfl, hblank, fun _ _ => rfl, fun _ _ _ => by simp [Kind.read, hc, hl]⟩
    . cases h
  split at h
  . next hreserved =>
    split at h
    . next op rest' hread =>
      cases h
      obtain ⟨l, rfl, hends, hl⟩ := exists_append_of_readComparator hread
      refine ⟨l, rfl, hblank, hends, ?_⟩
      -- An operator may depend on the character behind it, so not every text may follow.
      intro pos' rest' hrest'
      simp [Kind.read, *]
    . cases h
  . next hreserved =>
    cases h
    refine ⟨cs.takeWhile isWordPart, by simp, hblank, ?_, ?_⟩
    . intro d hd
      rw [Kind.endsBefore_ofWord]
      have hhead := List.head?_dropWhile_not isWordPart cs
      rw [Option.mem_def] at hd
      simpa [hd] using hhead
    . intro pos' rest' hrest'
      have hhead : ∀ d ∈ rest'.head?, isWordPart d = false := by
        intro d hd
        have := hrest' d hd
        rw [Kind.endsBefore_ofWord] at this
        simpa using this
      obtain ⟨htake, hdrop⟩ := takeWhile_append_of_head cs hhead
      simp [Kind.read, *]

theorem scan_cons_of_error {pos : Nat} {c : Char} {cs : List Char} {e : ParseError}
    (hblank : Text.isBlank c = false) (h : Kind.read pos c cs = .error e) (spaced : Bool) :
    scan pos spaced (c :: cs) = .error e := by
  rw [scan, if_neg (by simp [hblank])]
  split
  . next e' he =>
    rw [h] at he
    cases he
    rfl
  . next he =>
    rw [h] at he
    cases he

theorem Kind.IsLexeme.scan {kind : Kind} {c : Char} {l rest : List Char} (h : kind.IsLexeme c l rest)
    (pos : Nat) (spaced : Bool) :
    scan pos spaced (c :: l ++ rest) =
      (scan (pos + bytesOf (c :: l)) false rest).map (⟨kind, pos, spaced⟩ :: ·) := by
  have hread := h.read pos rest h.endsAt
  rw [List.cons_append, scan_cons_of_read h.isBlank_eq_false hread]
  simp [byteSize_eq_bytesOf]

theorem Kind.IsLexeme.of_isPrefix {kind : Kind} {c : Char} {l rest rest' : List Char}
    (h : kind.IsLexeme c l rest) (hrest : rest' <+: rest) : kind.IsLexeme c l rest' :=
  ⟨h.isBlank_eq_false, h.endsAt.of_isPrefix hrest, h.read⟩

theorem Kind.IsLexeme.tokenize {kind : Kind} {c : Char} {l rest : List Char}
    (h : kind.IsLexeme c l rest) : tokenize (String.ofList (c :: l)) = .ok [⟨kind, 0, true⟩] := by
  have hscan := (h.of_isPrefix List.nil_prefix).scan 0 true
  rw [List.append_nil, scan_nil] at hscan
  rw [Token.tokenize, String.toList_ofList, hscan]
  rfl

theorem scan_induct {motive : Nat → Bool → List Char → Prop}
    (nil : ∀ pos spaced, motive pos spaced [])
    (blank : ∀ pos spaced c cs, Text.isBlank c = true → motive (pos + c.utf8Size) true cs →
      motive pos spaced (c :: cs))
    (fault : ∀ pos spaced c cs e, Text.isBlank c = false → Kind.read pos c cs = .error e →
      motive pos spaced (c :: cs))
    (token : ∀ pos spaced c l rest kind, Kind.IsLexeme kind c l rest →
      motive (pos + bytesOf (c :: l)) false rest → motive pos spaced (c :: l ++ rest))
    (pos : Nat) (spaced : Bool) (cs : List Char) : motive pos spaced cs := by
  fun_induction scan pos spaced cs with
  | case1 pos spaced => exact nil pos spaced
  | case2 pos spaced c cs hblank ih => exact blank pos spaced c cs hblank ih
  | case3 pos spaced c cs hblank e hread =>
    exact fault pos spaced c cs e (eq_false_of_ne_true hblank) hread
  | case4 pos spaced c cs hblank kind rest hread =>
    rename_i lexeme ih
    obtain ⟨l, rfl, hlexeme⟩ :=
      Kind.exists_isLexeme_of_read (eq_false_of_ne_true hblank) hread
    have hl : lexeme = c :: l := by simp [lexeme]
    rw [hl, byteSize_eq_bytesOf] at ih
    exact token pos spaced c l rest kind hlexeme ih

structure Piece where
  gap : List Char
  lexeme : List Char
  kind : Kind
  isBlankLine_gap : Text.isBlankLine gap = true
  tokenize_lexeme : tokenize (String.ofList lexeme) = .ok [⟨kind, 0, true⟩]

def Piece.text (p : Piece) : List Char := p.gap ++ p.lexeme

structure Tiling (text : List Char) where
  pieces : List Piece
  ending : List Char
  isBlankLine_ending : Text.isBlankLine ending = true
  text_eq : text = pieces.flatMap Piece.text ++ ending

/--
The tokens of a text that is divided into pieces. Each has the position behind all that comes before
its lexeme, and it is spaced if it comes first or if there are blanks before it.
-/
def Tiling.tokens {text : List Char} (tiling : Tiling text) : List Token :=
  tiling.pieces.mapIdx fun i p =>
    ⟨p.kind, bytesOf ((tiling.pieces.take i).flatMap Piece.text ++ p.gap), i == 0 || !p.gap.isEmpty⟩

def Piece.tokensFrom (pos : Nat) (spaced : Bool) : List Piece → List Token
  | [] => []
  | p :: ps =>
    ⟨p.kind, pos + bytesOf p.gap, spaced || !p.gap.isEmpty⟩ ::
      tokensFrom (pos + bytesOf p.text) false ps

theorem Piece.tokensFrom_eq_mapIdx (pos : Nat) (spaced : Bool) (ps : List Piece) :
    tokensFrom pos spaced ps =
      ps.mapIdx fun i p =>
        ⟨p.kind, pos + bytesOf ((ps.take i).flatMap text ++ p.gap),
          (i == 0 && spaced) || !p.gap.isEmpty⟩ := by
  induction ps generalizing pos spaced with
  | nil => rfl
  | cons p ps ih =>
    rw [tokensFrom, ih, List.mapIdx_cons]
    simp [bytesOf_append, Nat.add_assoc]

theorem Tiling.tokens_eq {text : List Char} (tiling : Tiling text) :
    tiling.tokens = Piece.tokensFrom 0 true tiling.pieces := by
  rw [Piece.tokensFrom_eq_mapIdx]
  simp [tokens]

theorem exists_tiling_cons_of_isBlank {c : Char} (h : Text.isBlank c = true) {cs : List Char}
    (tiling : Tiling cs) (pos : Nat) (spaced : Bool) :
    ∃ tiling' : Tiling (c :: cs), Piece.tokensFrom pos spaced tiling'.pieces =
      Piece.tokensFrom (pos + c.utf8Size) true tiling.pieces := by
  obtain ⟨pieces, ending, hending, rfl⟩ := tiling
  cases pieces with
  | nil =>
    have hblank : Text.isBlankLine (c :: ending) = true := Bool.and_eq_true_iff.2 ⟨h, hending⟩
    exact ⟨⟨[], c :: ending, hblank, rfl⟩, rfl⟩
  | cons p ps =>
    have hblank : Text.isBlankLine (c :: p.gap) = true :=
      Bool.and_eq_true_iff.2 ⟨h, p.isBlankLine_gap⟩
    let first : Piece := ⟨c :: p.gap, p.lexeme, p.kind, hblank, p.tokenize_lexeme⟩
    refine ⟨⟨first :: ps, ending, hending, rfl⟩, ?_⟩
    simp [first, Piece.tokensFrom, Piece.text, bytesOf_cons, Nat.add_assoc]

theorem exists_of_map_eq_ok {α β : Type} {x : Except ParseError α} {f : α → β} {b : β}
    (h : x.map f = .ok b) : ∃ a, x = .ok a ∧ f a = b := by
  cases x with
  | error e => cases h
  | ok a =>
    cases h
    exact ⟨a, rfl, rfl⟩

theorem eq_error_of_map {α β : Type} {x : Except ParseError α} {f : α → β} {e : ParseError}
    (h : x.map f = .error e) : x = .error e := by
  cases x with
  | error e' =>
    cases h
    rfl
  | ok a => cases h

theorem exists_tiling_of_scan {pos : Nat} {spaced : Bool} {cs : List Char} {ts : List Token}
    (h : scan pos spaced cs = .ok ts) :
    ∃ tiling : Tiling cs, Piece.tokensFrom pos spaced tiling.pieces = ts := by
  induction pos, spaced, cs using scan_induct generalizing ts with
  | nil pos spaced =>
    rw [scan_nil] at h
    cases h
    exact ⟨⟨[], [], rfl, rfl⟩, rfl⟩
  | blank pos spaced c cs hblank ih =>
    rw [scan_cons_of_isBlank hblank] at h
    obtain ⟨tiling, rfl⟩ := ih h
    exact exists_tiling_cons_of_isBlank hblank tiling pos spaced
  | fault pos spaced c cs e hblank hread =>
    rw [scan_cons_of_error hblank hread] at h
    cases h
  | token pos spaced c l rest kind hlexeme ih =>
    rw [hlexeme.scan] at h
    obtain ⟨us, hus, rfl⟩ := exists_of_map_eq_ok h
    obtain ⟨⟨pieces, ending, hending, rfl⟩, rfl⟩ := ih hus
    let first : Piece := ⟨[], c :: l, kind, rfl, hlexeme.tokenize⟩
    refine ⟨⟨first :: pieces, ending, hending, by simp [first, Piece.text]⟩, ?_⟩
    simp [first, Piece.tokensFrom, Piece.text, bytesOf_nil]

theorem exists_append_of_scan_eq_error {pos : Nat} {spaced : Bool} {cs : List Char} {e : ParseError}
    (h : scan pos spaced cs = .error e) :
    ∃ before c rest ts, cs = before ++ c :: rest ∧ scan pos spaced before = .ok ts ∧
      Kind.read (pos + bytesOf before) c rest = .error e := by
  induction pos, spaced, cs using scan_induct with
  | nil pos spaced =>
    rw [scan_nil] at h
    cases h
  | blank pos spaced c cs hblank ih =>
    rw [scan_cons_of_isBlank hblank] at h
    obtain ⟨before, d, rest, ts, rfl, hscan, hread⟩ := ih h
    refine ⟨c :: before, d, rest, ts, rfl, ?_, ?_⟩
    . rw [scan_cons_of_isBlank hblank]
      exact hscan
    . rw [bytesOf_cons, ← Nat.add_assoc]
      exact hread
  | fault pos spaced c cs e' hblank hread =>
    rw [scan_cons_of_error hblank hread] at h
    cases h
    exact ⟨[], c, cs, [], rfl, scan_nil pos spaced, hread⟩
  | token pos spaced c l rest kind hlexeme ih =>
    rw [hlexeme.scan] at h
    obtain ⟨before, d, tail, ts, rfl, hscan, hread⟩ := ih (eq_error_of_map h)
    refine ⟨c :: l ++ before, d, tail, ⟨kind, pos, spaced⟩ :: ts, by simp, ?_, ?_⟩
    . rw [(hlexeme.of_isPrefix (List.prefix_append _ _)).scan, hscan]
      rfl
    . rw [bytesOf_append, ← Nat.add_assoc]
      exact hread

theorem exists_tiling_of_tokenize {text : String} {ts : List Token} (h : tokenize text = .ok ts) :
    ∃ tiling : Tiling text.toList, tiling.tokens = ts := by
  obtain ⟨tiling, htokens⟩ := exists_tiling_of_scan h
  exact ⟨tiling, by rw [tiling.tokens_eq, htokens]⟩

end LogSieve.Token

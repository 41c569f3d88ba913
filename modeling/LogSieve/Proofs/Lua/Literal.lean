import LogSieve.Proofs.Lua.Bytes
import LogSieve.Script.Text

/-!
This module contains how Lua reads string literals in double quotes, byte by byte. Whatever text is
quoted, and whatever comes behind it, the literal ends at its last quote and stands for the text.
-/

namespace LogSieve.Lua

def quoteMark : UInt8 := 34

def backslash : UInt8 := 92

def isLineBreak (b : UInt8) : Bool := b == 10 || b == 13

def isDigitByte (b : UInt8) : Bool := 48 ≤ b && b ≤ 57

/--
The number that starts with the digits `n`, of which at most `limit` further digits belong to it, and
the bytes behind it. A digit that can belong to the number does so.
-/
def takeDigits : (limit n : Nat) → List UInt8 → Nat × List UInt8
  | limit + 1, n, b :: bs =>
    if isDigitByte b then takeDigits limit (10 * n + (b.toNat - 48)) bs else (n, b :: bs)
  | _, n, bs => (n, bs)

def readEscape? : List UInt8 → Option (UInt8 × List UInt8)
  | [] => none
  | b :: bs =>
    if b = backslash || b = quoteMark then some (b, bs)
    else if b = 110 then some (10, bs)
    else if b = 114 then some (13, bs)
    else if b = 116 then some (9, bs)
    else if isDigitByte b then
      let (n, rest) := takeDigits 3 0 (b :: bs)
      if n < 256 then some (UInt8.ofNat n, rest) else none
    else none

theorem length_takeDigits_le (limit n : Nat) (bs : List UInt8) :
    (takeDigits limit n bs).2.length ≤ bs.length := by
  fun_induction takeDigits limit n bs with
  | case1 limit n b bs _ ih => exact Nat.le_succ_of_le ih
  | case2 => exact Nat.le_refl _
  | case3 => exact Nat.le_refl _

theorem length_lt_of_readEscape? {bs rest : List UInt8} {b : UInt8}
    (h : readEscape? bs = some (b, rest)) : rest.length < bs.length := by
  cases bs with
  | nil => simp [readEscape?] at h
  | cons b' bs =>
    have hdigits : isDigitByte b' = true → (takeDigits 3 0 (b' :: bs)).2.length ≤ bs.length := by
      intro hdigit
      rw [takeDigits, if_pos hdigit]
      exact length_takeDigits_le _ _ _
    grind [readEscape?]

/--
The string that a literal stands for, from behind its opening quote, and the bytes behind its closing
quote. There is no result if the literal is not closed on its line or holds an unknown escape.
-/
def readBody? : List UInt8 → Option (List UInt8 × List UInt8)
  | [] => none
  | b :: bs =>
    if b = quoteMark then
      some ([], bs)
    else if b = backslash then
      match _h : readEscape? bs with
      | some (c, rest) => (readBody? rest).map fun (string, rest) => (c :: string, rest)
      | none => none
    else if isLineBreak b then
      none
    else
      (readBody? bs).map fun (string, rest) => (b :: string, rest)
termination_by bs => bs.length
decreasing_by
  . have := length_lt_of_readEscape? _h
    simp only [List.length_cons]
    omega
  . simp

def readLiteral? : List UInt8 → Option (List UInt8 × List UInt8)
  | [] => none
  | b :: bs => if b = quoteMark then readBody? bs else none

section

variable {bs rest : List UInt8} {b : UInt8}

theorem readBody?_quoteMark (rest : List UInt8) : readBody? (quoteMark :: rest) = some ([], rest) := by
  rw [readBody?, if_pos rfl]

theorem readBody?_escape (h : readEscape? bs = some (b, rest)) :
    readBody? (backslash :: bs) = (readBody? rest).map fun (string, rest) => (b :: string, rest) := by
  rw [readBody?, if_neg (by decide), if_pos rfl]
  split
  . next h' =>
    rw [h, Option.some.injEq, Prod.mk.injEq] at h'
    rw [h'.1, h'.2]
  . next h' =>
    rw [h] at h'
    contradiction

def isPlainByte (b : UInt8) : Bool := b != quoteMark && b != backslash && !isLineBreak b

theorem readBody?_plain (h : isPlainByte b = true) :
    readBody? (b :: bs) = (readBody? bs).map fun (string, rest) => (b :: string, rest) := by
  simp only [isPlainByte, Bool.and_eq_true, bne_iff_ne, Bool.not_eq_true'] at h
  obtain ⟨⟨hquote, hbackslash⟩, hline⟩ := h
  rw [readBody?, if_neg hquote, if_neg hbackslash, if_neg (by simp [hline])]

theorem readBody?_append_plain {string : List UInt8} (h : ∀ b ∈ string, isPlainByte b = true) :
    readBody? (string ++ bs) =
      (readBody? bs).map fun (string', rest) => (string ++ string', rest) := by
  induction string with
  | nil => simp
  | cons b string ih =>
    rw [List.forall_mem_cons] at h
    rw [List.cons_append, readBody?_plain h.1, ih h.2, Option.map_map]
    rfl

end

/-! The pieces of quoted texts -/

theorem isPlainByte_of_mem_utf8EncodeChar {c : Char} (hquote : c ≠ '"') (hbackslash : c ≠ '\\')
    (hlineFeed : c ≠ '\n') (hreturn : c ≠ '\r') :
    ∀ b ∈ String.utf8EncodeChar c, isPlainByte b = true := by
  by_cases hc : c.toNat < 128
  . have hascii : ∀ n < 128, Char.ofNat n ∈ ['"', '\\', '\n', '\r'] ∨
        (String.utf8EncodeChar (Char.ofNat n)).all isPlainByte = true := by
      decide +kernel
    have hcases := hascii c.toNat hc
    rw [Char.ofNat_toNat] at hcases
    rcases hcases with hmem | hplain
    . simp [hquote, hbackslash, hlineFeed, hreturn] at hmem
    . exact List.all_eq_true.1 hplain
  . intro b hb
    have hle := le_of_mem_utf8EncodeChar (Nat.le_of_not_lt hc) b hb
    have hlarge : ∀ n < 256, 128 ≤ n → isPlainByte (UInt8.ofNat n) = true := by decide +kernel
    have hplain := hlarge b.toNat b.toNat_lt (UInt8.le_iff_toNat_le.1 hle)
    rwa [UInt8.ofNat_toNat] at hplain

theorem bytes_digitChar {n : Nat} (h : n < 10) :
    String.utf8EncodeChar (Nat.digitChar n) = [UInt8.ofNat (48 + n)] ∧
      isDigitByte (UInt8.ofNat (48 + n)) = true ∧ (UInt8.ofNat (48 + n)).toNat - 48 = n := by
  have hdigits : ∀ n < 10, String.utf8EncodeChar (Nat.digitChar n) = [UInt8.ofNat (48 + n)] ∧
      isDigitByte (UInt8.ofNat (48 + n)) = true ∧ (UInt8.ofNat (48 + n)).toNat - 48 = n := by
    decide +kernel
  exact hdigits n h

theorem takeDigits_digitChar {d : Nat} (h : d < 10) (limit n : Nat) (bs : List UInt8) :
    takeDigits (limit + 1) n (String.utf8EncodeChar (Nat.digitChar d) ++ bs) =
      takeDigits limit (10 * n + d) bs := by
  obtain ⟨hbytes, hdigit, hvalue⟩ := bytes_digitChar h
  rw [hbytes, List.singleton_append, takeDigits, if_pos hdigit, hvalue]

theorem readEscape?_of_isDigitByte {b : UInt8} (h : isDigitByte b = true) {n : Nat}
    {bs rest : List UInt8} (hdigits : takeDigits 3 0 (b :: bs) = (n, rest)) (hn : n < 256) :
    readEscape? (b :: bs) = some (UInt8.ofNat n, rest) := by
  have hne : ∀ b', isDigitByte b' = false → b ≠ b' := by
    rintro b' hb' rfl
    rw [h] at hb'
    contradiction
  have hmarks : ¬(decide (b = backslash) || decide (b = quoteMark)) = true := by
    simpa using ⟨hne backslash rfl, hne quoteMark rfl⟩
  rw [readEscape?, if_neg hmarks, if_neg (hne 110 rfl), if_neg (hne 114 rfl), if_neg (hne 116 rfl),
    if_pos h]
  simp only [hdigits, if_pos hn]

theorem readEscape?_threeDigits {n : Nat} (h : n < 256) (rest : List UInt8) :
    readEscape? (bytes (Script.threeDigits n) ++ rest) = some (UInt8.ofNat n, rest) := by
  have hdigits : takeDigits 3 0 (bytes (Script.threeDigits n) ++ rest) = (n, rest) := by
    have hn : 10 * (10 * (10 * 0 + n / 100) + n / 10 % 10) + n % 10 = n := by omega
    simp only [bytes, Script.threeDigits, List.flatMap_cons, List.flatMap_nil, List.append_assoc]
    rw [takeDigits_digitChar (by omega), takeDigits_digitChar (by omega),
      takeDigits_digitChar (by omega), hn]
    rfl
  obtain ⟨hbytes, hdigit, _⟩ := bytes_digitChar (n := n / 100) (by omega)
  rw [Script.threeDigits, bytes_cons, hbytes, List.append_assoc, List.singleton_append] at hdigits ⊢
  exact readEscape?_of_isDigitByte hdigit hdigits h

theorem readBody?_quoteChar (c : Char) (rest : List UInt8) :
    readBody? (bytes (Script.quoteChar c) ++ rest) =
      (readBody? rest).map fun (string, rest) => (String.utf8EncodeChar c ++ string, rest) := by
  unfold Script.quoteChar
  split
  . exact readBody?_escape rfl
  . exact readBody?_escape rfl
  . exact readBody?_escape rfl
  . exact readBody?_escape rfl
  . exact readBody?_escape rfl
  . next hbackslash hquote hlineFeed hreturn _ =>
    split
    . next hcontrol =>
      have hsmall : c.toNat < 128 := by
        simp only [Script.isControl, Bool.or_eq_true, decide_eq_true_eq, beq_iff_eq] at hcontrol
        omega
      have hbyte : String.utf8EncodeChar c = [UInt8.ofNat c.toNat] := by
        have hascii : ∀ n < 128, String.utf8EncodeChar (Char.ofNat n) = [UInt8.ofNat n] := by
          decide +kernel
        simpa using hascii c.toNat hsmall
      rw [bytes_cons, List.append_assoc, hbyte]
      exact readBody?_escape (readEscape?_threeDigits (by omega) rest)
    . simp only [bytes, List.flatMap_cons, List.flatMap_nil, List.append_nil]
      exact readBody?_append_plain
        (isPlainByte_of_mem_utf8EncodeChar hquote hbackslash hlineFeed hreturn)

theorem readBody?_flatMap_quoteChar (cs : List Char) (rest : List UInt8) :
    readBody? (bytes (cs.flatMap Script.quoteChar) ++ quoteMark :: rest) = some (bytes cs, rest) := by
  induction cs with
  | nil => exact readBody?_quoteMark rest
  | cons c cs ih =>
    rw [List.flatMap_cons, bytes_append, List.append_assoc, readBody?_quoteChar, ih]
    rfl

/--
Whatever text is quoted and whatever bytes come behind it, Lua reads exactly the literal, which stands
for the bytes of the text. No control character of ASCII is left in the literal.
-/
theorem readLiteral?_quote (s : String) :
    (∀ rest, readLiteral? (bytes (Script.quote s).toList ++ rest) = some (bytes s.toList, rest)) ∧
      ∀ c ∈ (Script.quote s).toList, 32 ≤ c.toNat ∧ c.toNat ≠ 127 := by
  have htext : (Script.quote s).toList = '"' :: (s.toList.flatMap Script.quoteChar ++ ['"']) := by
    simp [Script.quote]
  constructor
  . intro rest
    have hbytes : bytes (Script.quote s).toList ++ rest =
        quoteMark :: (bytes (s.toList.flatMap Script.quoteChar) ++ quoteMark :: rest) := by
      rw [htext, bytes_cons, bytes_append, List.append_assoc, List.append_assoc]
      rfl
    rw [hbytes, readLiteral?, if_pos rfl]
    exact readBody?_flatMap_quoteChar s.toList rest
  . intro c hc
    have hcontrol : Script.isControl c = false := by
      rw [htext, List.mem_cons, List.mem_append, List.mem_singleton, List.mem_flatMap] at hc
      rcases hc with rfl | ⟨d, _, hd⟩ | rfl
      . decide
      . exact Script.isControl_of_mem_quoteChar hd
      . decide
    simp only [Script.isControl, Bool.or_eq_false_iff, decide_eq_false_iff_not, beq_eq_false_iff_ne]
      at hcontrol
    omega

end LogSieve.Lua

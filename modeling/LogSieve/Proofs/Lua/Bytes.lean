import LogSieve.Proofs.LowerCase

/-!
This module contains the strings of Lua, which are sequences of bytes, and what its library makes of
the bytes of a text. A text is found among the bytes of another one only where it stands in it, as no
character starts in the middle of a character.
-/

namespace LogSieve.Lua

def bytes (cs : List Char) : List UInt8 := cs.flatMap String.utf8EncodeChar

def lowerByte (b : UInt8) : UInt8 := if 65 ≤ b ∧ b ≤ 90 then b + 32 else b

def find? (needle : List UInt8) (start : Nat) : List UInt8 → Option Nat
  | [] => if needle.isEmpty then some start else none
  | b :: bs => if needle.isPrefixOf (b :: bs) then some start else find? needle (start + 1) bs

theorem isSome_find?_iff {needle bs : List UInt8} (start : Nat) :
    (find? needle start bs).isSome = true ↔ needle <:+: bs := by
  induction bs generalizing start with
  | nil => simp [find?]
  | cons b bs ih =>
    rw [find?, List.infix_cons_iff, ← List.isPrefixOf_iff_prefix]
    split
    . next h => simp [h]
    . next h => simp [h, ih]

theorem bytes_cons (c : Char) (cs : List Char) :
    bytes (c :: cs) = String.utf8EncodeChar c ++ bytes cs := rfl

theorem bytes_append (cs ds : List Char) : bytes (cs ++ ds) = bytes cs ++ bytes ds := by
  simp [bytes]

theorem prefix_of_bytes_eq_append {needle cs : List Char} {behind : List UInt8}
    (h : bytes cs = bytes needle ++ behind) : needle <+: cs := by
  apply List.isPrefix_of_utf8Encode_append_eq_utf8Encode behind.toByteArray
  unfold bytes at h
  simp only [List.utf8Encode, h, List.toByteArray_append]

theorem eq_nil_of_utf8EncodeChar_eq {c : Char} {before behind : List UInt8} {b : UInt8}
    (hb : b.IsUTF8FirstByte) (h : String.utf8EncodeChar c = before ++ b :: behind) : before = [] := by
  have hlength : before.length < (String.utf8EncodeChar c).length := by
    rw [h]
    simp
  have hget : (String.utf8EncodeChar c)[before.length] = b := by simp [h]
  rw [← hget, UInt8.isUTF8FirstByte_getElem_utf8EncodeChar] at hb
  exact List.eq_nil_of_length_eq_zero hb

theorem exists_append_of_bytes_eq {cs : List Char} {before behind : List UInt8} {b : UInt8}
    (hb : b.IsUTF8FirstByte) (h : bytes cs = before ++ b :: behind) :
    ∃ cs₁ cs₂, cs = cs₁ ++ cs₂ ∧ bytes cs₂ = b :: behind := by
  induction cs generalizing before with
  | nil => simp [bytes] at h
  | cons c cs ih =>
    rw [bytes_cons] at h
    rcases List.append_eq_append_iff.1 h with ⟨middle, _, hmiddle⟩ | ⟨middle, hc, hmiddle⟩
    . obtain ⟨cs₁, cs₂, rfl, hcs₂⟩ := ih hmiddle
      exact ⟨c :: cs₁, cs₂, rfl, hcs₂⟩
    . cases middle with
      | nil => exact ⟨[c], cs, rfl, hmiddle.symm⟩
      | cons b' middle =>
        injection hmiddle with hb' hbehind
        rw [← hb'] at hc
        have hnil : before = [] := eq_nil_of_utf8EncodeChar_eq hb hc
        exact ⟨[], c :: cs, rfl, by rw [bytes_cons, h, hnil, List.nil_append]⟩

theorem bytes_infix_bytes_iff {needle cs : List Char} : bytes needle <:+: bytes cs ↔ needle <:+: cs := by
  constructor
  . rintro ⟨before, behind, h⟩
    cases needle with
    | nil => exact List.nil_infix
    | cons c needle =>
      -- The first byte of the one text starts a character of the other one.
      obtain ⟨b, rest, hc⟩ := List.exists_cons_of_ne_nil (String.utf8EncodeChar_ne_nil (c := c))
      have hb : b.IsUTF8FirstByte := by
        have hfirst := UInt8.isUTF8FirstByte_getElem_zero_utf8EncodeChar (c := c)
        simpa [hc] using hfirst
      have hbytes : bytes cs = before ++ b :: (rest ++ bytes needle ++ behind) := by
        rw [← h, bytes_cons, hc]
        simp
      obtain ⟨cs₁, cs₂, rfl, hcs₂⟩ := exists_append_of_bytes_eq hb hbytes
      have hneedle : bytes cs₂ = bytes (c :: needle) ++ behind := by
        rw [hcs₂, bytes_cons, hc]
        simp
      exact (prefix_of_bytes_eq_append hneedle).isInfix.trans (List.suffix_append cs₁ cs₂).isInfix
  . rintro ⟨before, behind, rfl⟩
    exact ⟨bytes before, bytes behind, by simp [bytes_append]⟩

theorem lowerByte_of_le {b : UInt8} (h : 128 ≤ b) : lowerByte b = b := by
  unfold lowerByte
  rw [if_neg]
  rintro ⟨_, hle⟩
  exact absurd (UInt8.le_trans h hle) (by decide)

theorem le_or_of_le {a b n : UInt8} (h : n ≤ b) : n ≤ a ||| b := by
  rw [UInt8.le_iff_toNat_le, UInt8.toNat_or]
  exact Nat.le_trans (UInt8.le_iff_toNat_le.1 h) Nat.right_le_or

theorem le_of_mem_utf8EncodeChar {c : Char} (hc : 128 ≤ c.toNat) :
    ∀ b ∈ String.utf8EncodeChar c, 128 ≤ b := by
  rw [String.utf8EncodeChar_eq_utf8EncodeCharFast]
  have hne : ¬c.val ≤ 0x7f := by
    rw [UInt32.le_iff_toNat_le]
    exact Nat.not_le_of_lt hc
  unfold String.utf8EncodeCharFast
  simp only [hne, if_false]
  split
  . simp only [List.forall_mem_cons, List.not_mem_nil, false_implies, implies_true, and_true]
    exact ⟨le_or_of_le (by decide), le_or_of_le (by decide)⟩
  . split
    . simp only [List.forall_mem_cons, List.not_mem_nil, false_implies, implies_true, and_true]
      exact ⟨le_or_of_le (by decide), le_or_of_le (by decide), le_or_of_le (by decide)⟩
    . simp only [List.forall_mem_cons, List.not_mem_nil, false_implies, implies_true, and_true]
      exact ⟨le_or_of_le (by decide), le_or_of_le (by decide), le_or_of_le (by decide),
        le_or_of_le (by decide)⟩

theorem map_lowerByte_utf8EncodeChar (c : Char) :
    (String.utf8EncodeChar c).map lowerByte = String.utf8EncodeChar c.toLower := by
  by_cases hc : c.toNat < 128
  . have hascii : ∀ n < 128, (String.utf8EncodeChar (Char.ofNat n)).map lowerByte =
        String.utf8EncodeChar (Char.ofNat n).toLower := by
      decide +kernel
    simpa using hascii c.toNat hc
  . have hbytes := le_of_mem_utf8EncodeChar (Nat.le_of_not_lt hc)
    rw [Text.toLower_eq_self (Nat.le_of_not_lt hc)]
    have hmap : (String.utf8EncodeChar c).map lowerByte = (String.utf8EncodeChar c).map id :=
      List.map_congr_left fun b hb => lowerByte_of_le (hbytes b hb)
    rw [hmap, List.map_id]

theorem map_lowerByte_bytes (cs : List Char) :
    (bytes cs).map lowerByte = bytes (cs.map Char.toLower) := by
  simp [bytes, List.map_flatMap, List.flatMap_map, map_lowerByte_utf8EncodeChar]

end LogSieve.Lua

/-!
This module contains the pieces of Lua text that scripts are made of.
-/

namespace LogSieve.Script

def isControl (c : Char) : Bool := c.toNat < 32 || c.toNat == 127

def threeDigits (n : Nat) : List Char :=
  [Nat.digitChar (n / 100), Nat.digitChar (n / 10 % 10), Nat.digitChar (n % 10)]

def quoteChar (c : Char) : List Char :=
  match c with
  | '\\' => ['\\', '\\']
  | '"' => ['\\', '"']
  | '\n' => ['\\', 'n']
  | '\r' => ['\\', 'r']
  | '\t' => ['\\', 't']
  | c => if isControl c then '\\' :: threeDigits c.toNat else [c]

theorem isControl_of_mem_quoteChar {c d : Char} (h : d ∈ quoteChar c) :
    isControl d = false := by
  have hdigit : ∀ n < 10, isControl (Nat.digitChar n) = false := by decide
  unfold quoteChar at h
  split at h
  case h_6 =>
    split at h
    . next hcontrol =>
      have hsmall : c.toNat < 128 := by
        simp only [isControl, Bool.or_eq_true, decide_eq_true_eq, beq_iff_eq] at hcontrol
        omega
      simp only [threeDigits, List.mem_cons, List.not_mem_nil, or_false] at h
      rcases h with rfl | rfl | rfl | rfl
      . decide
      . exact hdigit _ (by omega)
      . exact hdigit _ (by omega)
      . exact hdigit _ (by omega)
    . next hcontrol =>
      rw [List.mem_singleton] at h
      simpa [h] using hcontrol
  all_goals
    simp only [List.mem_cons, List.not_mem_nil, or_false] at h
    rcases h with rfl | rfl <;> decide

def quote (s : String) : String := "\"" ++ String.ofList (s.toList.flatMap quoteChar) ++ "\""

def field (path : List String) : String :=
  match path with
  | [segment] => "record[" ++ quote segment ++ "]"
  | path =>
    "(function(v) for _, k in ipairs(\x7b" ++ ", ".intercalate (path.map quote) ++
      "\x7d) do if type(v) ~= \"table\" then return nil end v = v[k] end return v end)(record)"

def markerIsSet (marker : String) : String := "(record[" ++ quote marker ++ "] ~= nil)"

def markerIsUnset (marker : String) : String := "(record[" ++ quote marker ++ "] == nil)"

end LogSieve.Script

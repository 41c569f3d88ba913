import LogSieve.Proofs.Lua.Lexer

/-!
This module contains the effects of Lua text that show in its tokens: the functions that it declares,
and the fields of tables that it assigns to.
-/

namespace LogSieve.Lua

def occurrences {α : Type} (found? : List Token → Option α) : List Token → List α
  | [] => []
  | t :: ts => (found? (t :: ts)).toList ++ occurrences found? ts

def declaredFunction? : List Token → Option String
  | .keyword "function" :: .name name :: .symbol "(" :: _ => some name
  | _ => none

def assignedField? : List Token → Option (String × String)
  | .name table :: .symbol "[" :: .string key :: .symbol "]" :: .symbol "=" :: _ => some (table, key)
  | _ => none

def declaredFunctions (text : String) : List String := occurrences declaredFunction? (tokens text)

def assignedFields (text : String) : List (String × String) := occurrences assignedField? (tokens text)

/--
Whether tokens have no effect, whatever comes behind them.
-/
structure IsPure (ts : List Token) : Prop where
  valid : .invalid ∉ ts
  declared : ∀ rest, occurrences declaredFunction? (ts ++ rest) = occurrences declaredFunction? rest
  assigned : ∀ rest, occurrences assignedField? (ts ++ rest) = occurrences assignedField? rest

theorem isPure_nil : IsPure [] := ⟨by simp, fun _ => rfl, fun _ => rfl⟩

theorem IsPure.append {ts us : List Token} (hts : IsPure ts) (hus : IsPure us) :
    IsPure (ts ++ us) := by
  refine ⟨by simp [hts.valid, hus.valid], ?_, ?_⟩
  . intro rest
    rw [List.append_assoc, hts.declared, hus.declared]
  . intro rest
    rw [List.append_assoc, hts.assigned, hus.assigned]

theorem isPure_string (s : String) : IsPure [.string s] := ⟨by simp, fun _ => rfl, fun _ => rfl⟩

theorem isPure_signed (negative : Bool) (text : String) : IsPure (signed negative text) := by
  cases negative with
  | false => exact ⟨by simp [signed], fun _ => rfl, fun _ => rfl⟩
  | true => exact ⟨by simp [signed], fun _ => rfl, fun _ => rfl⟩

def IsPureText (text : String) : Prop := ∃ ts, Scans .idle text ts .idle ∧ IsPure ts

theorem IsPureText.append {a b : String} (ha : IsPureText a) (hb : IsPureText b) :
    IsPureText (a ++ b) := by
  obtain ⟨ts, hts, hpure⟩ := ha
  obtain ⟨us, hus, hpure'⟩ := hb
  exact ⟨ts ++ us, hts.append hus, hpure.append hpure'⟩

theorem isPureText_quote (s : String) : IsPureText (Script.quote s) :=
  ⟨[.string s], scans_quote s, isPure_string s⟩

end LogSieve.Lua

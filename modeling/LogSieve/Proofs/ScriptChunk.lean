import LogSieve.Proofs.Lua.Chunk
import LogSieve.Proofs.ScriptLines

/-!
This module contains the commands of the script of named filters: one declaration for each filter,
and the loop of the cleanup if there is one.
-/

namespace LogSieve.Pipeline

open Lua

def declarations (i : Nat) : List (String × Filter) → List Lua.Command
  | [] => []
  | (name, f) :: fs => .declare name (f.expr.tree (namedKey i)) :: declarations (i + 1) fs

def cleanupLoop : Lua.Command :=
  .forIn "k" "v" (.call (.name "pairs") [.name "record"])
    [.ifThen (.call (.index (.name "string") (.string "match")) [.name "k", .string "^__match_.+"])
      [.store (.name "record") (.name "k") .nil]]

def commands (fs : List (String × Filter)) : List Lua.Command :=
  declarations 0 fs ++ if hasPattern fs then [cleanupLoop] else []

def cleanupTokens : List Lua.Token :=
  [.keyword "for", .name "k", .symbol ",", .name "v", .keyword "in", .name "pairs", .symbol "(",
    .name "record", .symbol ")", .keyword "do", .keyword "if", .name "string", .symbol ".",
    .name "match", .symbol "(", .name "k", .symbol ",", .string "^__match_.+", .symbol ")",
    .keyword "then", .name "record", .symbol "[", .name "k", .symbol "]", .symbol "=",
    .keyword "nil", .keyword "end", .keyword "end"]

theorem isChunk_cleanup : Reader.IsChunk cleanupTokens [cleanupLoop] := by
  refine ⟨⟨Reader.endsSuffixes_keyword "for" _, fun _ _ _ => rfl⟩, ?_⟩
  intro n hn
  obtain ⟨m, rfl⟩ : ∃ m, n = m + 30 := ⟨n - 30, by simp [cleanupTokens] at hn; omega⟩
  rfl

theorem exists_chunk_localLines (i : Nat) {fs : List (String × Filter)}
    {us : List Lua.Token} {cs : List Lua.Command} (hnames : ∀ f ∈ fs, Script.isName f.1 = true)
    (h : Reader.IsChunk us cs) :
    ∃ ts, Scans .idle (localLines i fs) ts .idle ∧
      Reader.IsChunk (ts ++ us) (declarations i fs ++ cs) := by
  induction fs generalizing i with
  | nil => exact ⟨[], rfl, h⟩
  | cons f fs ih =>
    rw [List.forall_mem_cons] at hnames
    obtain ⟨ts, hts, hoperand⟩ := Expr.isScript_script (namedKey i) f.2.expr
    obtain ⟨vs, hvs, hchunk⟩ := ih (i + 1) hnames.2
    have hlocal : Scans .idle "local " [.keyword "local"] .idle := by decide
    have hequals : Scans .idle "= " [.symbol "="] .idle := by decide
    have htext : localLines i (f :: fs) = "local " ++ ((f.1 ++ " ") ++ ("= " ++
        ((f.2.expr.script (namedKey i) ++ "\n") ++ localLines (i + 1) fs))) := by
      have hsign : " = " = " " ++ "= " := rfl
      rw [localLines, localLine, hsign]
      simp only [String.append_assoc]
    refine ⟨.keyword "local" :: .name f.1 :: .symbol "=" :: (ts ++ vs), ?_, ?_⟩
    . rw [htext]
      exact hlocal.append ((scans_name hnames.1).append (hequals.append (hts.newline.append hvs)))
    . rw [List.cons_append, List.cons_append, List.cons_append, List.append_assoc]
      exact hchunk.declare hoperand f.1

theorem readChunk?_named (tag : String) {filters : OrderedMap Filter}
    (hnames : ∀ name ∈ filters.keys, Script.isName name = true) :
    readChunk? (named tag filters).2 = some (commands filters.entries) := by
  have hfilters : ∀ f ∈ filters.entries, Script.isName f.1 = true := by
    intro f hf
    exact hnames f.1 (List.mem_map_of_mem hf)
  rw [named_script, ← localLines_eq_join, commands]
  cases hasPattern filters.entries with
  | true =>
    obtain ⟨ts, hts, hchunk⟩ := exists_chunk_localLines 0 hfilters isChunk_cleanup
    have hcleanup : Scans .idle cleanup cleanupTokens .idle := by decide
    exact hchunk.readChunk? (hts.append hcleanup)
  | false =>
    obtain ⟨ts, hts, hchunk⟩ := exists_chunk_localLines 0 hfilters Reader.isChunk_nil
    have hempty : Scans .idle "" [] .idle := rfl
    exact hchunk.readChunk? (hts.append hempty)

end LogSieve.Pipeline

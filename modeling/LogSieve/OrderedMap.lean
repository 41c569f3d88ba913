/-!
This module contains maps whose keys are texts in increasing order.
-/

namespace LogSieve

def insertAt {α : Type} (key : String) (value : α) : List (String × α) → List (String × α)
  | [] => [(key, value)]
  | (k, v) :: es =>
    if key < k then (key, value) :: (k, v) :: es
    else if key = k then (key, value) :: es
    else (k, v) :: insertAt key value es

def valueAt? {α : Type} (key : String) : List (String × α) → Option α
  | [] => none
  | (k, v) :: es => if k = key then some v else valueAt? key es

def KeysIncrease {α : Type} (es : List (String × α)) : Prop := es.Pairwise fun a b => a.1 < b.1

section

variable {α : Type} {key : String} {value : α} {es : List (String × α)}

theorem mem_insertAt {e : String × α} (h : e ∈ insertAt key value es) :
    e = (key, value) ∨ e ∈ es := by
  fun_induction insertAt key value es with
  | case1 => simpa using h
  | case2 => simpa using h
  | case3 v es _ =>
    rcases List.mem_cons.1 h with h | h
    . exact .inl h
    . exact .inr (List.mem_cons_of_mem _ h)
  | case4 k v es _ _ ih =>
    rcases List.mem_cons.1 h with h | h
    . exact .inr (by simp [h])
    . rcases ih h with h | h
      . exact .inl h
      . exact .inr (List.mem_cons_of_mem _ h)

theorem KeysIncrease.insertAt (h : KeysIncrease es) :
    KeysIncrease (insertAt key value es) := by
  induction es with
  | nil => simp [LogSieve.insertAt, KeysIncrease]
  | cons e es ih =>
    obtain ⟨k, v⟩ := e
    obtain ⟨hk, hes⟩ := List.pairwise_cons.1 h
    simp only [LogSieve.insertAt]
    split
    case isTrue hlt =>
      refine List.pairwise_cons.2 ⟨?_, h⟩
      intro e he
      rcases List.mem_cons.1 he with rfl | he
      . exact hlt
      . exact String.lt_trans hlt (hk e he)
    case isFalse hlt =>
      split
      case isTrue heq =>
        subst heq
        exact List.pairwise_cons.2 ⟨hk, hes⟩
      case isFalse hne =>
        refine List.pairwise_cons.2 ⟨?_, ih hes⟩
        intro e he
        rcases mem_insertAt he with rfl | he
        . exact String.not_le.1 fun hle => hne (String.le_antisymm hle (String.not_lt.1 hlt))
        . exact hk e he

theorem insertAt_of_lt (h : ∀ e ∈ es, e.1 < key) :
    LogSieve.insertAt key value es = es ++ [(key, value)] := by
  induction es with
  | nil => rfl
  | cons e es ih =>
    rw [List.forall_mem_cons] at h
    obtain ⟨hlt, hes⟩ := h
    have hne : key ≠ e.1 := by
      intro heq
      exact String.lt_irrefl key (heq ▸ hlt)
    rw [LogSieve.insertAt, if_neg (String.lt_asymm hlt), if_neg hne, ih hes, List.cons_append]

theorem valueAt?_insertAt_self : valueAt? key (insertAt key value es) = some value := by
  fun_induction insertAt key value es with
  | case4 k v es _ hne ih => simp [valueAt?, ih, Ne.symm hne]
  | _ => simp [valueAt?]

theorem valueAt?_insertAt_of_ne {key' : String} (h : key ≠ key') :
    valueAt? key' (insertAt key value es) = valueAt? key' es := by
  fun_induction insertAt key value es with
  | case3 => simp [valueAt?, h]
  | case4 k v es _ _ ih => simp [valueAt?, ih]
  | _ => simp [valueAt?, h]

end

/--
A map from texts, as the list of its entries with increasing keys.
-/
structure OrderedMap (α : Type) where
  entries : List (String × α)
  keysIncrease : KeysIncrease entries
  deriving DecidableEq, Repr

namespace OrderedMap

variable {α β : Type}

def empty : OrderedMap α := ⟨[], List.Pairwise.nil⟩

def insert (m : OrderedMap α) (key : String) (value : α) : OrderedMap α :=
  ⟨insertAt key value m.entries, m.keysIncrease.insertAt⟩

def get? (m : OrderedMap α) (key : String) : Option α := valueAt? key m.entries

def erase (m : OrderedMap α) (key : String) : OrderedMap α :=
  ⟨m.entries.filter (·.1 ≠ key), m.keysIncrease.filter _⟩

def keys (m : OrderedMap α) : List String := m.entries.map (·.1)

def size (m : OrderedMap α) : Nat := m.entries.length

def ofList (es : List (String × α)) : OrderedMap α :=
  es.foldl (fun m (key, value) => m.insert key value) empty

def map (f : α → β) (m : OrderedMap α) : OrderedMap β :=
  { entries := m.entries.map fun e => (e.1, f e.2)
    keysIncrease := by
      have := m.keysIncrease
      simpa [KeysIncrease, List.pairwise_map] using this }

theorem entries_foldl_insert (m : OrderedMap α) {es : List (String × α)}
    (h : KeysIncrease (m.entries ++ es)) :
    (es.foldl (fun m (key, value) => m.insert key value) m).entries = m.entries ++ es := by
  induction es generalizing m with
  | nil => simp
  | cons e es ih =>
    have hinsert : (m.insert e.1 e.2).entries = m.entries ++ [e] := by
      apply insertAt_of_lt
      intro e' he'
      exact (List.pairwise_append.1 h).2.2 e' he' e (by simp)
    rw [List.foldl_cons, ih, hinsert, List.append_assoc, List.singleton_append]
    rw [hinsert, List.append_assoc, List.singleton_append]
    exact h

theorem ofList_of_keysIncrease {es : List (String × α)} (h : KeysIncrease es) :
    ofList es = ⟨es, h⟩ := by
  have hentries : (ofList es).entries = es := entries_foldl_insert empty h
  generalize ofList es = m at hentries
  cases m
  subst hentries
  rfl

theorem get?_insert_self (m : OrderedMap α) (key : String) (value : α) :
    (m.insert key value).get? key = some value :=
  valueAt?_insertAt_self

theorem get?_insert_of_ne (m : OrderedMap α) {key key' : String} (value : α) (h : key ≠ key') :
    (m.insert key value).get? key' = m.get? key' :=
  valueAt?_insertAt_of_ne h

end OrderedMap

end LogSieve

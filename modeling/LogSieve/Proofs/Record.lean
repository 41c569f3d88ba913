import LogSieve.Stage.Basic
import LogSieve.Value.Basic

/-!
This module contains the records that pass through a pipeline, and what nesting and lifting do to
them.
-/

namespace LogSieve

namespace OrderedMap

variable {α : Type}

theorem ext_entries {m n : OrderedMap α} (h : m.entries = n.entries) : m = n := by
  cases m
  cases n
  simpa using h

def has (m : OrderedMap α) (key : String) : Bool := (m.get? key).isSome

def filterKeys (p : String → Bool) (m : OrderedMap α) : OrderedMap α :=
  ⟨m.entries.filter fun e => p e.1, m.keysIncrease.filter _⟩

def insertAll (m : OrderedMap α) (es : List (String × α)) : OrderedMap α :=
  es.foldl (fun m e => m.insert e.1 e.2) m

@[simp]
theorem has_insert_self (m : OrderedMap α) (key : String) (value : α) :
    (m.insert key value).has key = true := by
  simp [has, get?_insert_self]

theorem get?_eq_none {m : OrderedMap α} {key : String} (h : key ∉ m.keys) : m.get? key = none := by
  have hentries : ∀ es : List (String × α), key ∉ es.map (·.1) → valueAt? key es = none := by
    intro es hes
    induction es with
    | nil => rfl
    | cons e es ih =>
      simp only [List.map_cons, List.mem_cons, not_or] at hes
      rw [valueAt?, if_neg (Ne.symm hes.1), ih hes.2]
  exact hentries m.entries h

theorem filter_insertAt {p : String → Bool} {key : String} {value : α} {es : List (String × α)}
    (h : p key = false) :
    (insertAt key value es).filter (fun e => p e.1) = es.filter (fun e => p e.1) := by
  fun_induction insertAt key value es with
  | case1 => simp [h]
  | case2 => simp [h]
  | case3 => simp [h]
  | case4 k v es _ _ ih =>
    simp only [List.filter_cons]
    rw [ih]

theorem filterKeys_insert {p : String → Bool} {key : String} (m : OrderedMap α) (value : α)
    (h : p key = false) : (m.insert key value).filterKeys p = m.filterKeys p := by
  apply ext_entries
  apply filter_insertAt
  exact h

theorem filterKeys_eq_self {p : String → Bool} {m : OrderedMap α}
    (h : ∀ e ∈ m.entries, p e.1 = true) : m.filterKeys p = m := by
  apply ext_entries
  exact List.filter_eq_self.2 h

theorem valueAt?_filter {p : String → Bool} {key : String} (h : p key = true)
    (es : List (String × α)) :
    valueAt? key (es.filter fun e => p e.1) = valueAt? key es := by
  induction es with
  | nil => rfl
  | cons e es ih =>
    rw [List.filter_cons]
    split
    . rw [valueAt?, valueAt?, ih]
    . next hp =>
      have hne : e.1 ≠ key := by
        intro heq
        rw [heq] at hp
        exact hp h
      rw [valueAt?, if_neg hne, ih]

theorem get?_filterKeys {p : String → Bool} (m : OrderedMap α) {key : String} (h : p key = true) :
    (m.filterKeys p).get? key = m.get? key := by
  apply valueAt?_filter
  exact h

theorem get?_erase_of_ne (m : OrderedMap α) {key key' : String} (h : key ≠ key') :
    (m.erase key).get? key' = m.get? key' := by
  apply valueAt?_filter (p := fun k => decide (k ≠ key))
  simpa using h.symm

theorem filterKeys_erase (p : String → Bool) (m : OrderedMap α) (key : String) :
    (m.erase key).filterKeys p = (m.filterKeys p).erase key := by
  apply ext_entries
  simp only [filterKeys, erase, List.filter_filter, Bool.and_comm]

theorem insertAt_eq_cons {key : String} {value : α} {es : List (String × α)}
    (h : ∀ e ∈ es, key < e.1) : insertAt key value es = (key, value) :: es := by
  cases es with
  | nil => rfl
  | cons e es => rw [insertAt, if_pos (h e (by simp))]

theorem filter_insertAt_of_pos {p : String → Bool} {key : String} {value : α}
    {es : List (String × α)} (h : p key = true) (hes : KeysIncrease es) :
    (insertAt key value es).filter (fun e => p e.1) =
      insertAt key value (es.filter fun e => p e.1) := by
  fun_induction insertAt key value es with
  | case1 => simp [h, insertAt]
  | case2 k v es hlt =>
    -- Where the entries before which it is inserted are filtered out, their order decides.
    have hall : ∀ e ∈ ((k, v) :: es).filter (fun e => p e.1), key < e.1 := by
      intro e he
      cases List.mem_cons.1 (List.mem_filter.1 he).1 with
      | inl heq =>
        rw [heq]
        exact hlt
      | inr hmem => exact String.lt_trans hlt ((List.pairwise_cons.1 hes).1 e hmem)
    rw [insertAt_eq_cons hall, List.filter_cons, if_pos h]
  | case3 v es => simp [h, insertAt]
  | case4 k v es hlt hne ih =>
    rw [List.filter_cons, List.filter_cons, ih (List.pairwise_cons.1 hes).2]
    split
    . rw [insertAt, if_neg hlt, if_neg hne]
    . rfl

theorem filterKeys_insertAll {p : String → Bool} (m : OrderedMap α) {es : List (String × α)}
    (h : ∀ e ∈ es, p e.1 = true) :
    (m.insertAll es).filterKeys p = (m.filterKeys p).insertAll es := by
  induction es generalizing m with
  | nil => rfl
  | cons e es ih =>
    have hinsert : (m.insert e.1 e.2).filterKeys p = (m.filterKeys p).insert e.1 e.2 := by
      apply ext_entries
      exact filter_insertAt_of_pos (h e (by simp)) m.keysIncrease
    have hnext := ih (m.insert e.1 e.2) (fun e' he' => h e' (List.mem_cons_of_mem e he'))
    rw [hinsert] at hnext
    exact hnext

theorem get?_insertAll_of_ne (m : OrderedMap α) {es : List (String × α)} {key : String}
    (h : ∀ e ∈ es, e.1 ≠ key) : (m.insertAll es).get? key = m.get? key := by
  induction es generalizing m with
  | nil => rfl
  | cons e es ih =>
    have hnext := ih (m.insert e.1 e.2) (fun e' he' => h e' (List.mem_cons_of_mem e he'))
    rw [get?_insert_of_ne m e.2 (h e (by simp))] at hnext
    exact hnext

theorem insertAt_eq_append {key : String} {value : α} {es : List (String × α)}
    (h : ∀ e ∈ es, e.1 < key) : insertAt key value es = es ++ [(key, value)] := by
  fun_induction insertAt key value es with
  | case1 => rfl
  | case2 k v es hlt =>
    have := h (k, v) (by simp)
    exact absurd (String.lt_trans this hlt) (String.lt_irrefl k)
  | case3 v es =>
    have := h (key, v) (by simp)
    exact absurd this (String.lt_irrefl key)
  | case4 k v es _ _ ih =>
    rw [ih]
    . rfl
    . intro e he
      exact h e (List.mem_cons_of_mem _ he)

theorem entries_insertAll (m : OrderedMap α) (es : List (String × α))
    (h : KeysIncrease (m.entries ++ es)) : (m.insertAll es).entries = m.entries ++ es := by
  induction es generalizing m with
  | nil => simp [insertAll]
  | cons e es ih =>
    have hentries : (m.insert e.1 e.2).entries = m.entries ++ [e] := by
      apply insertAt_eq_append
      intro e' he'
      exact (List.pairwise_append.1 h).2.2 e' he' e (by simp)
    have : (m.insertAll (e :: es)) = (m.insert e.1 e.2).insertAll es := rfl
    rw [this, ih]
    . simp [hentries]
    . simpa [hentries] using h

theorem insertAll_empty_entries (m : OrderedMap α) : empty.insertAll m.entries = m := by
  apply ext_entries
  rw [entries_insertAll]
  . rfl
  . exact m.keysIncrease

end OrderedMap

abbrev Record := OrderedMap Value

namespace Record

def nestUnder (field : String) (r : Record) : Record := OrderedMap.empty.insert field (.object r.entries)

def liftFrom (field : String) (r : Record) : Record :=
  match r.get? field with
  | some (.object fields) => (r.erase field).insertAll fields
  | _ => r.erase field

def sweep (stem : String) (r : Record) : Record :=
  r.filterKeys fun key => !stem.toList.isPrefixOf key.toList

def nested (r : Record) : Value := (r.get? Stage.nestField).getD (.object [])

theorem erase_nestUnder (field : String) (r : Record) :
    (r.nestUnder field).erase field = .empty := by
  apply OrderedMap.ext_entries
  simp [nestUnder, OrderedMap.erase, OrderedMap.insert, OrderedMap.empty, insertAt]

theorem filterKeys_nestUnder {p : String → Bool} {field : String} (h : p field = true) (r : Record) :
    (r.nestUnder field).filterKeys p = r.nestUnder field := by
  apply OrderedMap.filterKeys_eq_self
  intro e he
  cases mem_insertAt he with
  | inl heq =>
    rw [heq]
    exact h
  | inr hmem => exact absurd hmem (by simp [OrderedMap.empty])

theorem liftFrom_nestUnder (field : String) (r : Record) :
    (r.nestUnder field).liftFrom field = r := by
  unfold liftFrom
  rw [erase_nestUnder]
  simp only [nestUnder, OrderedMap.get?_insert_self]
  rw [OrderedMap.insertAll_empty_entries]

@[simp]
theorem nested_nestUnder (r : Record) : (r.nestUnder Stage.nestField).nested = .object r.entries := by
  simp [nested, nestUnder, OrderedMap.get?_insert_self]

theorem get?_nestUnder_of_ne (field : String) (r : Record) {key : String} (h : field ≠ key) :
    (r.nestUnder field).get? key = none :=
  OrderedMap.get?_insert_of_ne _ _ h

theorem has_nestUnder (field : String) (r : Record) {key : String} (h : field ≠ key) :
    (r.nestUnder field).has key = false := by
  simp [OrderedMap.has, get?_nestUnder_of_ne field r h]

end Record

end LogSieve

import LogSieve.Expr.Truth
import LogSieve.Stage.Step

/-!
This module contains what the accessor of a field tells about the field. Segments stand in an
accessor as they are, so one that holds the text between two segments can be taken for both of them.
-/

namespace LogSieve

namespace Target

def bracketed (segments : List String) : List Char :=
  segments.flatMap fun s => '[' :: '\'' :: (s.toList ++ ['\'', ']'])

theorem bracketed_cons (s : String) (ss : List String) :
    bracketed (s :: ss) = '[' :: '\'' :: (s.toList ++ '\'' :: ']' :: bracketed ss) := by
  simp [bracketed]

theorem toList_accessor (target : Target) :
    target.accessor.toList = "$record".toList ++ bracketed target.segments := by
  unfold accessor bracketed Stage.nestField
  simp only [String.toList_append, String.toList_join, List.flatMap_map]
  simp

theorem not_mem_accessor_iff {c : Char} (hc : c ∉ "$record['']".toList) (target : Target) :
    c ∉ target.accessor.toList ↔ ∀ s ∈ target.segments, c ∉ s.toList := by
  rw [toList_accessor]
  simp at hc
  simp [bracketed, hc]

theorem accessor_eq_iff {t u : Target} :
    t.accessor = u.accessor ↔ bracketed t.segments = bracketed u.segments := by
  rw [← String.toList_inj, toList_accessor, toList_accessor, List.append_cancel_left_eq]

/--
Whether no segment holds a quote and a bracket that could close it with a bracket behind them.
-/
def IsPlain (target : Target) : Prop :=
  ∀ s ∈ target.segments, Text.contains ['\'', ']', '['] s.toList = false

theorem contains_of_length_lt {s t : List Char} {ss ts : List String}
    (h : s ++ '\'' :: ']' :: bracketed ss = t ++ '\'' :: ']' :: bracketed ts)
    (hlength : s.length < t.length) : Text.contains ['\'', ']', '['] t = true := by
  rcases List.append_eq_append_iff.1 h with ⟨more, rfl, hmore⟩ | ⟨more, rfl, _⟩
  . rw [Text.contains_iff]
    -- The first three characters of `more` are forced one after the other.
    match more, hmore with
    | [], _ => simp at hlength
    | [_], hmore => simp at hmore
    | [_, _], hmore =>
      simp only [List.cons_append, List.nil_append, List.cons.injEq] at hmore
      cases ss with
      | nil => simp [bracketed] at hmore
      | cons => simp [bracketed_cons] at hmore
    | c :: d :: e :: more, hmore =>
      simp only [List.cons_append, List.cons.injEq] at hmore
      cases ss with
      | nil => simp [bracketed] at hmore
      | cons =>
        simp only [bracketed_cons, List.cons.injEq] at hmore
        exact ⟨s, more, by simp [← hmore.1, ← hmore.2.1, ← hmore.2.2.1]⟩
  . simp only [List.length_append] at hlength
    omega

theorem eq_of_bracketed_eq {ss ts : List String}
    (hss : ∀ s ∈ ss, Text.contains ['\'', ']', '['] s.toList = false)
    (hts : ∀ t ∈ ts, Text.contains ['\'', ']', '['] t.toList = false)
    (h : bracketed ss = bracketed ts) : ss = ts := by
  induction ss generalizing ts with
  | nil =>
    cases ts with
    | nil => rfl
    | cons => simp [bracketed] at h
  | cons s ss ih =>
    cases ts with
    | nil => simp [bracketed] at h
    | cons t ts =>
      simp only [bracketed_cons, List.cons.injEq, true_and] at h
      have hlength : s.toList.length = t.toList.length := by
        rcases Nat.lt_trichotomy s.toList.length t.toList.length with hlt | heq | hgt
        . have := contains_of_length_lt h hlt
          simp [hts t (by simp)] at this
        . exact heq
        . have := contains_of_length_lt h.symm hgt
          simp [hss s (by simp)] at this
      obtain ⟨hfirst, hrest⟩ := List.append_inj h hlength
      simp only [List.cons.injEq, true_and] at hrest
      rw [String.toList_inj.1 hfirst, ih _ _ hrest]
      . intro s hs
        exact hss s (List.mem_cons_of_mem _ hs)
      . intro t ht
        exact hts t (List.mem_cons_of_mem _ ht)

/--
Whether a segment could be taken for two of them.
-/
def IsDivisible (s : String) : Prop := ∃ a b : String, a ≠ "" ∧ b ≠ "" ∧ s = a ++ "']['" ++ b

theorem bracketed_divided (a b : String) (ss : List String) :
    bracketed ((a ++ "']['" ++ b) :: ss) = bracketed (a :: b :: ss) := by
  simp [bracketed_cons]

theorem eq_of_bracketed_singleton {s t : String} (h : bracketed [s] = bracketed [t]) : s = t := by
  apply String.toList_inj.1
  simpa [bracketed] using h

theorem exists_bracketed_singleton (s : String) (ss : List String) (hs : s ≠ "") :
    ∃ t, t ≠ "" ∧ bracketed (s :: ss) = bracketed [t] := by
  cases ss with
  | nil => exact ⟨s, hs, rfl⟩
  | cons s' ss =>
    rw [← bracketed_divided]
    apply exists_bracketed_singleton
    simp [String.append_eq_empty_iff]
termination_by ss.length

theorem isDivisible_of_bracketed_eq {s : String} {ts : List String} (hts : ∀ t ∈ ts, t ≠ "")
    (h : bracketed ts = bracketed [s]) (hne : ts ≠ [s]) : IsDivisible s := by
  match ts with
  | [] => simp [bracketed] at h
  | [t] => simp [eq_of_bracketed_singleton h] at hne
  | t :: u :: ts =>
    -- Everything behind the first segment makes up the second part.
    obtain ⟨v, hv, hrest⟩ := exists_bracketed_singleton u ts (hts u (by simp))
    refine ⟨t, v, hts t (by simp), hv, ?_⟩
    apply eq_of_bracketed_singleton
    rw [bracketed_divided, ← h, bracketed_cons, hrest, ← bracketed_cons]

theorem exists_other_iff (t : Target) :
    (∃ u : Target, u.accessor = t.accessor ∧ u.segments ≠ t.segments) ↔
      2 ≤ t.segments.length ∨ ∃ s ∈ t.segments, IsDivisible s := by
  obtain ⟨segments, hne, hsegments⟩ := t
  simp only [accessor_eq_iff]
  obtain ⟨s, ss, rfl⟩ := List.exists_cons_of_ne_nil hne
  cases ss with
  | nil =>
    constructor
    . rintro ⟨u, h, hu⟩
      exact .inr ⟨s, by simp, isDivisible_of_bracketed_eq u.ne_empty_of_mem h hu⟩
    . rintro (h | ⟨_, hs, a, b, ha, hb, rfl⟩)
      . simp at h
      . simp only [List.mem_singleton] at hs
        refine ⟨⟨[a, b], by simp, by simp [ha, hb]⟩, ?_, by simp⟩
        rw [← hs, bracketed_divided]
  | cons s' ss =>
    constructor
    . intro _
      exact .inl (by simp)
    . intro _
      refine ⟨⟨(s ++ "']['" ++ s') :: ss, by simp, ?_⟩, bracketed_divided s s' ss, ?_⟩
      . intro u hu
        rcases List.mem_cons.1 hu with rfl | hu
        . simp [String.append_eq_empty_iff]
        . exact hsegments u (by simp [hu])
      . intro h
        have := congrArg List.length h
        simp at this

/--
Two plain fields with the same accessor have the same segments. Among all fields, those that are
nested share their accessor with another one, and so do those whose segment can be divided.
-/
theorem segments_eq_of_accessor_eq (t u : Target) :
    (t.IsPlain → u.IsPlain → t.accessor = u.accessor → t.segments = u.segments) ∧
    ((∃ v : Target, v.accessor = t.accessor ∧ v.segments ≠ t.segments) ↔
      2 ≤ t.segments.length ∨ ∃ s ∈ t.segments, IsDivisible s) := by
  refine ⟨?_, exists_other_iff t⟩
  intro ht hu h
  apply eq_of_bracketed_eq ht hu
  exact accessor_eq_iff.1 h

theorem segments_eq_of_accessor_eq_quotes :
    let t : Target := ⟨["it's", "a]["], by decide, by decide⟩
    let u : Target := ⟨["it's'", "a]["], by decide, by decide⟩
    t.IsPlain ∧ u.IsPlain ∧ t.accessor ≠ u.accessor ∧
      ∃ v : Target, v.accessor = t.accessor ∧ v.segments ≠ t.segments := by
  intro t u
  have ht : t.IsPlain := by unfold IsPlain; decide
  have hu : u.IsPlain := by unfold IsPlain; decide
  obtain ⟨hplain, hshared⟩ := segments_eq_of_accessor_eq t u
  refine ⟨ht, hu, ?_, hshared.2 (.inl (by decide))⟩
  intro h
  have := hplain ht hu h
  exact absurd this (by decide)

/--
A field with one segment and a field with two, which conditions cannot tell apart.
-/
theorem accessor_eq_of_divisible :
    let t : Target := ⟨["a']['b"], by decide, by decide⟩
    let u : Target := ⟨["a", "b"], by decide, by decide⟩
    ofSegments ["a']['b"] = .ok t ∧ ofSegments ["a", "b"] = .ok u ∧ t.segments ≠ u.segments ∧
      t.accessor = u.accessor ∧
      (Condition.keyExists t).text = (Condition.keyExists u).text := by
  intro t u
  have haccessor : t.accessor = u.accessor := by
    rw [accessor_eq_iff]
    decide
  have htext : (Condition.keyExists t).text = (Condition.keyExists u).text := by
    rw [Condition.text_keyExists, haccessor, Condition.text_keyExists]
  exact ⟨ofSegments_segments t, ofSegments_segments u, by decide, haccessor, htext⟩

end Target

end LogSieve

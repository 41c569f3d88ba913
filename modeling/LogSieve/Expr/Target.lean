import LogSieve.ParseError

/-!
This module contains the paths by which filters address the fields of a record.
-/

namespace LogSieve

/--
The path to a field of a record, which may be nested in other fields. There is at least one segment,
and no segment is empty.
-/
structure Target where
  segments : List String
  segments_ne_nil : segments ≠ []
  ne_empty_of_mem : ∀ s ∈ segments, s ≠ ""
  deriving DecidableEq, Repr

namespace Target

def ofSegments (segments : List String) : Except ParseError Target :=
  if h : segments ≠ [] ∧ ∀ s ∈ segments, s ≠ "" then
    .ok ⟨segments, h.1, h.2⟩
  else
    .error (.emptySegment (".".intercalate segments))

theorem ofSegments_segments (target : Target) : ofSegments target.segments = .ok target := by
  simp only [ofSegments]
  rw [dif_pos ⟨target.segments_ne_nil, target.ne_empty_of_mem⟩]

theorem ofSegments_eq_ok_iff {segments : List String} {target : Target} :
    ofSegments segments = .ok target ↔ target.segments = segments := by
  constructor
  . intro h
    simp only [ofSegments] at h
    split at h
    . injection h with h
      rw [← h]
    . injection h
  . intro h
    rw [← h, ofSegments_segments]

end Target

end LogSieve

/-!
# Ranges of code points

A character class is a list of closed ranges of code points, sorted and disjoint. Membership walks
the list and stops at the first range that ends at or after the code point, so a character of a low
block is found or refused after a few steps however long the table is.
-/

namespace Collate.Text

/-- Closed ranges `(first, last)` of code points, in increasing order. -/
abbrev Ranges := List (Nat × Nat)

/-- The distance of `n` from the start of the range that holds it. -/
def Ranges.offset? (n : Nat) : Ranges → Option Nat
  | [] => none
  | (first, last) :: rest =>
    if n < first then none
    else if n ≤ last then some (n - first)
    else Ranges.offset? n rest

/-- Whether some range holds `n`. -/
def Ranges.holds (rs : Ranges) (n : Nat) : Bool := (Ranges.offset? n rs).isSome

/-- What lies in a sorted table lies in one of its ranges. -/
theorem Ranges.exists_of_holds {rs : Ranges} {n : Nat} (h : rs.holds n = true) :
    ∃ r ∈ rs, r.1 ≤ n ∧ n ≤ r.2 := by
  induction rs with
  | nil => simp [Ranges.holds, Ranges.offset?] at h
  | cons r rest ih =>
    obtain ⟨first, last⟩ := r
    simp only [Ranges.holds, Ranges.offset?] at h ih
    split at h
    · simp at h
    · split at h
      · exact ⟨(first, last), by simp, by simp; omega⟩
      · obtain ⟨r, hr, hn⟩ := ih h
        exact ⟨r, by simp [hr], hn⟩

end Collate.Text

/-! Sets of characters, given by ranges of code points. A range is found by halving the table, so
that asking about every code point stays cheap. -/

namespace LoxScan.Text

/-- A set of code points as closed ranges, ascending and apart. -/
structure Ranges where
  table : Array (Nat × Nat)

namespace Ranges

/-- The range that holds `n` among those from number `lo` to before number `hi`. Each step halves
what is left, so `fuel` steps are enough for at most `fuel` ranges. -/
def search (table : Array (Nat × Nat)) (n : Nat) : Nat → Nat → Nat → Option (Nat × Nat)
  | 0, _, _ => none
  | fuel + 1, lo, hi =>
    if lo < hi then
      let mid := (lo + hi) / 2
      match table[mid]? with
      | none => none
      | some (first, last) =>
        if n < first then search table n fuel lo mid
        else if last < n then search table n fuel (mid + 1) hi
        else some (first, last)
    else
      none

/-- The range that holds `n`, if there is one. -/
def find? (r : Ranges) (n : Nat) : Option (Nat × Nat) :=
  search r.table n r.table.size 0 r.table.size

def contains (r : Ranges) (n : Nat) : Bool := (r.find? n).isSome

theorem mem_of_search {table : Array (Nat × Nat)} {n fuel lo hi : Nat} {p : Nat × Nat}
    (h : search table n fuel lo hi = some p) : p ∈ table ∧ p.1 ≤ n ∧ n ≤ p.2 := by
  fun_induction search table n fuel lo hi with
  | case1 | case2 | case6 => cases h
  | case3 fuel lo hi _ mid first last found low ih => exact ih h
  | case4 fuel lo hi _ mid first last found low high ih => exact ih h
  | case5 fuel lo hi _ mid first last found low high =>
    cases h
    exact ⟨Array.mem_of_getElem? found, Nat.not_lt.mp low, Nat.not_lt.mp high⟩

/-- A code point that is found is in one of the ranges. -/
theorem exists_mem_of_contains {r : Ranges} {n : Nat} (h : r.contains n = true) :
    ∃ p ∈ r.table, p.1 ≤ n ∧ n ≤ p.2 := by
  obtain ⟨p, found⟩ := Option.isSome_iff_exists.mp h
  exact ⟨p, mem_of_search found⟩

end Ranges

end LoxScan.Text

/-!
# Text.Ranges — tables of code points

A property of characters given as a list of closed ranges in increasing order, or of progressions.
-/
namespace Scaffold
namespace Text

/-- **Closed ranges of code points**, in increasing order. -/
abbrev Ranges := List (Nat × Nat)

namespace Ranges

def find? (t : Ranges) (n : Nat) : Option (Nat × Nat) := List.find? (fun r => decide (r.1 ≤ n) && decide (n ≤ r.2)) t

def has (t : Ranges) (n : Nat) : Bool := List.any t (fun r => decide (r.1 ≤ n) && decide (n ≤ r.2))

end Ranges

/-- **Progressions of code points**: every so many, from the first to the last; each is given by first, last and
step. -/
abbrev Progressions := List (Nat × Nat × Nat)

namespace Progressions

def has (t : Progressions) (n : Nat) : Bool :=
  List.any t (fun p => decide (p.1 ≤ n) && decide (n ≤ p.2.1) && (n - p.1) % p.2.2 == 0)

end Progressions
end Text
end Scaffold

/-!
# Character classes

A `CharClass` is a set of characters written as inclusive ranges of code points.  The classes of
the Unicode standard that this library needs are `CharClass` values, one module each:

* `CharClass.blank` — white space;
* `CharClass.unprintable` — characters without a visible form;
* `CharClass.extending` — marks that attach to the character before them;
* `CharClass.cased` and `CharClass.caseIgnorable` — the context of a final sigma.
-/

namespace RowMapper

/-- A set of characters, as inclusive ranges of code points. -/
structure CharClass where
  /-- First and last code point of each range, in increasing order. -/
  ranges : List (Nat × Nat)

namespace CharClass

/-- Whether some range of the class covers the character. -/
def contains (k : CharClass) (c : Char) : Bool :=
  k.ranges.any fun (first, last) => first ≤ c.toNat && c.toNat ≤ last

theorem contains_eq_true_iff {k : CharClass} {c : Char} :
    k.contains c = true ↔ ∃ r ∈ k.ranges, r.1 ≤ c.toNat ∧ c.toNat ≤ r.2 := by
  simp [contains]

end CharClass

end RowMapper

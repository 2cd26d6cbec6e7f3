/-!
# Similar texts

Two texts are compared by the characters that they have in common: the longest run that occurs in
both, and those found likewise on both sides of it. Texts are similar when at least three fifths of
their characters are common.
-/

namespace Recalc.Text

/-- How long two texts begin alike. -/
def commonStart : List Char → List Char → Nat
  | a :: as, b :: bs => if a = b then commonStart as bs + 1 else 0
  | _, _ => 0

/-- A run that occurs in two texts: where it starts in each, and its length. -/
structure CommonRun where
  left : Nat
  right : Nat
  length : Nat

/-- The longest run of two texts that starts in the first at its beginning; the earliest in the
second. -/
def longestAtStart (as : List Char) (right : Nat) : List Char → CommonRun → CommonRun
  | [], best => best
  | b :: bs, best =>
    let n := commonStart as (b :: bs)
    longestAtStart as (right + 1) bs (if best.length < n then ⟨0, right, n⟩ else best)

/-- The longest run of two texts, the earliest in the first and then in the second. -/
def longestRun (bs : List Char) (left : Nat) : List Char → CommonRun → CommonRun
  | [], best => best
  | a :: as, best =>
    let found := longestAtStart (a :: as) 0 bs ⟨0, 0, 0⟩
    longestRun bs (left + 1) as
      (if best.length < found.length then ⟨left, found.right, found.length⟩ else best)

/-- The number of common characters of two texts, found with fewer runs inside each other than a
number. -/
def commonWithin : Nat → List Char → List Char → Nat
  | 0, _, _ => 0
  | n + 1, as, bs =>
    let run := longestRun bs 0 as ⟨0, 0, 0⟩
    if run.length = 0 then 0
    else
      commonWithin n (as.take run.left) (bs.take run.right) + run.length +
        commonWithin n (as.drop (run.left + run.length)) (bs.drop (run.right + run.length))

/-- The number of common characters of two texts. -/
def common (as bs : List Char) : Nat :=
  commonWithin (as.length + 1) as bs

/-- The texts that are similar to a given one, three at most, the most similar first. -/
def similar (s : String) (candidates : List String) : List String :=
  let scored := candidates.map fun c =>
    (c, 2 * common c.toList s.toList, c.length + s.length)
  let close := scored.filter fun (_, shared, total) => 3 * total ≤ 5 * shared
  let ranked := close.mergeSort fun (c, m, t) (d, n, u) =>
    n * t < m * u || (n * t == m * u && d ≤ c)
  (ranked.take 3).map Prod.fst

end Recalc.Text

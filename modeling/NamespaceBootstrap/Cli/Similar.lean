/-!
How alike two names are, for suggesting a name when an unknown one is given.

The measure is Jaro similarity over characters: two characters match when they are equal and
no further apart than half the longer name, less one; each character of the first name takes
the first free match in the second. With `m` matches and `t` of them out of order (counted in
halves), the similarity is `(m / |a| + m / |b| + (m - t) / m) / 3`, and `0` without matches.
It is computed in binary64, so a suggestion is made exactly when that value exceeds `0.7`.
-/

namespace NamespaceBootstrap.Cli

/-- Marks the first free position `j < hi`, `j ≥ lo`, of `ys` holding `c`. -/
def claim (ys : Array Char) (taken : Array Bool) (c : Char) (lo hi : Nat) : Option (Array Bool) :=
  match (List.range hi).find? fun j => lo ≤ j && ys.getD j ' ' = c && !taken.getD j true with
  | some j => some (taken.setIfInBounds j true)
  | none => none

def jaroMatches (xs ys : Array Char) : List Char × List Char :=
  let range := max xs.size ys.size / 2 - 1
  let step := fun (acc : List Char × Array Bool) (i : Nat) =>
    let c := xs.getD i ' '
    match claim ys acc.2 c (i - range) (min ys.size (i + range + 1)) with
    | some taken => (c :: acc.1, taken)
    | none => acc
  let (fromA, taken) := (List.range xs.size).foldl step ([], Array.replicate ys.size false)
  let fromB := (List.range ys.size).filterMap fun j =>
    if taken.getD j false then some (ys.getD j ' ') else none
  (fromA.reverse, fromB)

/-- The Jaro similarity of two names. -/
def jaro (a b : String) : Float :=
  let xs := a.toList.toArray
  let ys := b.toList.toArray
  if xs.size = 0 && ys.size = 0 then 1.0
  else if xs.size = 0 || ys.size = 0 then 0.0
  else
    let (ma, mb) := jaroMatches xs ys
    let m := ma.length
    let t := ((ma.zip mb).filter fun (c, d) => c ≠ d).length / 2
    if m = 0 then 0.0
    else
      let mf := m.toFloat
      (mf / xs.size.toFloat + mf / ys.size.toFloat + (m - t).toFloat / mf) / 3.0

/-- The candidates more than `0.7` alike to `name`, least alike first (ties keep their order). -/
def similar (name : String) (candidates : List String) : List String :=
  let scored := candidates.filterMap fun c =>
    let s := jaro name c
    if s > 0.7 then some (s, c) else none
  (scored.mergeSort fun x y => decide (x.1 ≤ y.1)).map (·.2)

end NamespaceBootstrap.Cli

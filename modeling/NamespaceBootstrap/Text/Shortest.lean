/-!
The shortest decimal text of a binary64 number: the fewest significant digits that read back
as the same number, and of those the decimal nearest to it. The digits are then written
positionally when the decimal point falls within sixteen digits of them (`100000.0`, `0.001`),
and in scientific form otherwise (`1e+16`, `1.5e-7`), the exponent always signed; a number
without fractional digits keeps `.0`.

The number is taken apart into `m · 2^e` with exact natural arithmetic. For `d = 1, 2, …, 17`
its two neighbours on the grid of `d` significant digits are read back with the correctly
rounded reader of decimal scientific numbers; the first `d` with a neighbour that reads back
gives the digits, the nearer neighbour when both do.
-/

namespace NamespaceBootstrap.Text

def floatParts (f : Float) : Nat × Int :=
  let bits := f.toBits.toNat
  let expBits : Nat := (bits / Nat.pow 2 52) % 2048
  let frac : Nat := bits % Nat.pow 2 52
  if expBits = 0 then (frac, -1074) else (frac + Nat.pow 2 52, (expBits : Int) - 1075)

def floatNegative (f : Float) : Bool := f.toBits.toNat ≥ Nat.pow 2 63

/-- `m · 2^e · 10^s` as a fraction of natural numbers. -/
def scaled (m : Nat) (e s : Int) : Nat × Nat :=
  (m * Nat.pow 2 e.toNat * Nat.pow 10 s.toNat, Nat.pow 2 (-e).toNat * Nat.pow 10 (-s).toNat)

/-- The least `p` with `m · 2^e < 10^p`, searched from `p` within `fuel` steps. -/
def decimalLength (m : Nat) (e : Int) (p : Int) : Nat → Int
  | 0 => p
  | fuel + 1 =>
    let (num, den) := scaled m e (-p)
    if num < den then
      let (num1, den1) := scaled m e (-(p - 1))
      if num1 < den1 then decimalLength m e (p - 1) fuel else p
    else decimalLength m e (p + 1) fuel

def decimalDigits (n : Nat) : List Char := (toString n).toList

def readScientific (n : Nat) (k : Int) : Float :=
  if k ≥ 0 then Float.ofScientific n false k.toNat else Float.ofScientific n true (-k).toNat

/-- The grid point `n · 10^(p - d)` with `d` significant digits, written with `d` digits even
when rounding up reached `10^d`. -/
def gridPoint (p : Int) (d n : Nat) : Nat × Int :=
  if n = Nat.pow 10 d then (Nat.pow 10 (d - 1), p - d + 1) else (n, p - d)

/-- Of the two neighbours of `m · 2^e` on the grid of `d` significant digits (the value lies
below `10^p`), the one that reads back as `mag`; when both do, the nearer one, a tie going to
the even one. -/
def readBackAt (m : Nat) (e p : Int) (mag : Float) (d : Nat) : Option (Nat × Int) :=
  let (num, den) := scaled m e ((d : Int) - p)
  let lo := num / den
  let r := num % den
  let below := gridPoint p d lo
  let above := gridPoint p d (lo + 1)
  let reads (x : Nat × Int) : Bool := (readScientific x.1 x.2).toBits == mag.toBits
  match reads below, reads above with
  | true, true =>
    if 2 * r < den then some below
    else if 2 * r > den then some above
    else if lo % 2 = 0 then some below else some above
  | true, false => some below
  | false, true => some above
  | false, false => none

/-- The shortest digits `n` and exponent `k` with `n · 10^k` reading back as the magnitude of
`f`, trying `d` digits for each `d` in turn. -/
def shortestDigits (f : Float) : Nat × Int :=
  let (m, e) := floatParts f
  let mag := (Float.ofBits (f.toBits &&& 0x7FFFFFFFFFFFFFFF))
  let p := decimalLength m e 0 700
  match (List.range 17).findSome? fun i => readBackAt m e p mag (i + 1) with
  | some nk => nk
  | none => (m, 0)

def trimZeros (n : Nat) (k : Int) : Nat → Nat × Int
  | 0 => (n, k)
  | fuel + 1 => if n ≠ 0 ∧ n % 10 = 0 then trimZeros (n / 10) (k + 1) fuel else (n, k)

def exponentText (e : Int) : String := if e < 0 then toString e else "+" ++ toString e

/-- Writes digits `ds` scaled by `10^k` the way the shortest text does. -/
def layout (ds : List Char) (k : Int) : String :=
  let len : Int := ds.length
  let kk := len + k
  if 0 ≤ k ∧ kk ≤ 16 then
    String.ofList (ds ++ List.replicate k.toNat '0') ++ ".0"
  else if 0 < kk ∧ kk ≤ 16 then
    String.ofList (ds.take kk.toNat) ++ "." ++ String.ofList (ds.drop kk.toNat)
  else if -5 < kk ∧ kk ≤ 0 then
    "0." ++ String.ofList (List.replicate (-kk).toNat '0' ++ ds)
  else if ds.length = 1 then
    String.ofList ds ++ "e" ++ exponentText (kk - 1)
  else
    String.ofList (ds.take 1) ++ "." ++ String.ofList (ds.drop 1) ++ "e" ++ exponentText (kk - 1)

/-- The shortest text of a finite binary64 number. -/
def shortestText (f : Float) : String :=
  let sign := if floatNegative f then "-" else ""
  let (m, _) := floatParts f
  if m = 0 then sign ++ "0.0"
  else
    let (n, k) := shortestDigits f
    let (n, k) := trimZeros n k 20
    sign ++ layout (decimalDigits n) k

end NamespaceBootstrap.Text

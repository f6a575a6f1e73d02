/-!
# `FrontMatter.Decimal.Binary64` — double-precision numbers as `m · 2^q`

A finite double is a whole number `m < 2^53` times a power of two. Reading a decimal number means to
find the nearest such product, in exact arithmetic; of two equally near ones the even `m` is taken.

## Contents

* `powerOfTwo`, `powerOfTen`, `infinity`: what the arithmetic needs.
* `Parts`, `Parts.ofFloat?`: sign, `m` and `q` of a finite double.
* `nearest`: the double nearest to a quotient of natural numbers.
* `ofDecimal`: the double nearest to `d · 10^e`.
-/

namespace FrontMatter.Decimal

/-- A power of two. -/
def powerOfTwo (n : Nat) : Nat := Nat.pow 2 n

/-- A power of ten. -/
def powerOfTen (n : Nat) : Nat := Nat.pow 10 n

/-- A finite double: `mantissa · 2^exponent`, with its sign. -/
structure Parts where
  negative : Bool
  mantissa : Nat
  exponent : Int
  deriving Repr, DecidableEq

/-- Infinity. -/
def infinity : Float := Float.ofBits 0x7FF0000000000000

/-- The least exponent, that of the subnormal numbers. -/
def leastExponent : Int := -1074

/-- The parts of a finite double; none of an infinity or of a value that is no number. -/
def Parts.ofFloat? (x : Float) : Option Parts :=
  let bits := x.toBits.toNat
  let field := bits / powerOfTwo 52 % powerOfTwo 11
  let fraction := bits % powerOfTwo 52
  let negative := bits / powerOfTwo 63 == 1
  if field == 2047 then none
  else if field == 0 then some ⟨negative, fraction, leastExponent⟩
  else some ⟨negative, fraction + powerOfTwo 52, leastExponent + (field - 1 : Nat)⟩

/-- The quotient rounded to the nearest whole number, a half to the even one. -/
def roundQuotient (num den : Nat) : Nat :=
  let q := num / den
  let r := num % den
  if 2 * r < den then q
  else if den < 2 * r then q + 1
  else if q % 2 == 0 then q else q + 1

/-- The number of binary digits of `num / den`, up to one less: `2^k ≤ num / den < 2^(k + 2)`. -/
def binaryMagnitude (num den : Nat) : Int :=
  (num.log2 : Int) - den.log2 - 1

/-- The positive double nearest to `num / den`; infinite when it is too large. -/
def nearest (num den : Nat) : Float :=
  if num == 0 then 0 else
    let scaled (q : Int) : Nat × Nat :=
      if 0 ≤ q then (num, den * powerOfTwo q.toNat) else (num * powerOfTwo (-q).toNat, den)
    let guess := max leastExponent (binaryMagnitude num den - 52)
    let (n, d) := scaled guess
    let q := if powerOfTwo 53 * d ≤ n then guess + 1 else guess
    let (n, d) := scaled q
    if 971 < q then infinity
    else
      let bits := (q - leastExponent).toNat * powerOfTwo 52 + roundQuotient n d
      Float.ofBits (UInt64.ofNat (min bits 0x7FF0000000000000))

/-- The value of a run of decimal digits. -/
def ofDigits (ds : List Nat) : Nat :=
  ds.foldl (fun n d => n * 10 + d) 0

/-- How many significant digits decide the nearest double: no midpoint of two doubles has more. -/
def decisiveDigits : Nat := 800

/-- The positive double nearest to the number whose decimal digits are `ds`, times `10^exponent`.
Digits beyond the decisive ones count only as zero or not. -/
def ofDecimal (ds : List Nat) (exponent : Int) : Float :=
  let ds := ds.dropWhile (· == 0)
  let magnitude := exponent + ds.length
  if ds.isEmpty || magnitude < -400 then 0
  else if 400 < magnitude then infinity
  else
    let rest := ds.drop decisiveDigits
    let kept := ds.take decisiveDigits ++ (if rest.any (· != 0) then [1] else [])
    let exponent := magnitude - kept.length
    let d := ofDigits kept
    if 0 ≤ exponent then nearest (d * powerOfTen exponent.toNat) 1
    else nearest d (powerOfTen (-exponent).toNat)

end FrontMatter.Decimal

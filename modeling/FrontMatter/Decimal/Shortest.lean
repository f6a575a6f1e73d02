import FrontMatter.Decimal.Binary64

/-!
# `FrontMatter.Decimal.Shortest` — the shortest decimal that reads back

A double stands for every real number that rounds to it. Its text is the shortest decimal among
them: on the grid of numbers with one digit, then two, and so on, the two neighbours of the value
are tried until one lies in the interval; of two the nearer is taken.

## Contents

* `Digits`: a decimal number as digits and an exponent.
* `Interval`: the reals that round to a double, in units of `2^(q - 2)`.
* `shortest`: the shortest digits that read back.
* `FloatLayout`, `floatText`: where the point stands and when an exponent is written.
-/

namespace FrontMatter.Decimal

/-! ## Digits -/

/-- The number `digits · 10^exponent`. -/
structure Digits where
  digits : Nat
  exponent : Int
  deriving Repr, DecidableEq

/-- The same number without zeros at the end; `fuel` bounds their number. -/
def Digits.trimmed : Nat → Digits → Digits
  | 0, d => d
  | fuel + 1, d =>
    if d.digits != 0 && d.digits % 10 == 0 then trimmed fuel ⟨d.digits / 10, d.exponent + 1⟩ else d

/-! ## The interval of a double -/

/-- A positive double `m · 2^q` and the interval of reals that round to it. All three are given in
units of a quarter of `2^q`; the ends belong to the interval iff `m` is even. -/
structure Interval where
  low : Nat
  value : Nat
  high : Nat
  closed : Bool
  unit : Int

/-- The interval of `m · 2^q`. Below a power of two the next double is only half as far away. -/
def Interval.ofParts (m : Nat) (q : Int) : Interval :=
  { low := if m == powerOfTwo 52 && leastExponent < q then 4 * m - 1 else 4 * m - 2
    value := 4 * m
    high := 4 * m + 2
    closed := m % 2 == 0
    unit := q - 2 }

/-- `n · 2^unit / 10^e` as numerator and denominator. -/
def Interval.over (i : Interval) (n : Nat) (e : Int) : Nat × Nat :=
  (n * powerOfTwo i.unit.toNat * powerOfTen (-e).toNat,
    powerOfTwo (-i.unit).toNat * powerOfTen e.toNat)

/-- Whether `c · 10^e` rounds to the double. -/
def Interval.holds (i : Interval) (c : Nat) (e : Int) : Bool :=
  let (lo, den) := i.over i.low e
  let (hi, _) := i.over i.high e
  if i.closed then lo ≤ c * den && c * den ≤ hi else lo < c * den && c * den < hi

/-- The exponent of the leading decimal digit of the value. -/
def Interval.magnitude (i : Interval) : Int :=
  let guess := Int.fdiv (((i.value.log2 : Int) + i.unit) * 30103) 100000
  let (num, den) := i.over i.value (guess + 1)
  if den ≤ num then guess + 1 else guess

/-- The neighbour of the value on the grid of multiples of `10^e` that rounds to the double: the
nearer one if both do, the even one if they are equally near. -/
def Interval.neighbour? (i : Interval) (e : Int) : Option Nat :=
  let (num, den) := i.over i.value e
  let below := num / den
  let r := num % den
  match i.holds below e, i.holds (below + 1) e with
  | true, true =>
    some (if 2 * r < den then below else if den < 2 * r then below + 1
      else if below % 2 == 0 then below else below + 1)
  | true, false => some below
  | false, true => some (below + 1)
  | false, false => none

/-- The first grid, from the one with a single digit on, that has a number of the interval. -/
def Interval.search (i : Interval) (top : Int) : Nat → Nat → Digits
  | 0, _ => ⟨i.value, i.unit⟩
  | fuel + 1, k =>
    match i.neighbour? (top - k) with
    | some c => ⟨c, top - k⟩
    | none => search i top fuel (k + 1)

/-- The shortest decimal that reads back as `m · 2^q`, for positive `m`. Seventeen digits always
suffice. -/
def shortest (m : Nat) (q : Int) : Digits :=
  let i := Interval.ofParts m q
  (i.search i.magnitude 18 0).trimmed 20

/-! ## The text -/

/-- How a double is written. -/
structure FloatLayout where
  /-- Exponents below this one are written out. -/
  lowest : Int
  /-- Exponents from this one on are written out. -/
  highest : Int
  /-- The least number of digits of a written exponent. -/
  exponentWidth : Nat
  infinity : String
  notANumber : String

/-- Numbers from `1e-4` up to `1e16` are written with a point, others with an exponent of at least
two digits. -/
def layout : FloatLayout :=
  { lowest := -4, highest := 16, exponentWidth := 2, infinity := "inf", notANumber := "nan" }

/-- A written exponent, with its sign. -/
def exponentText (l : FloatLayout) (x : Int) : List Char :=
  let ds := Nat.toDigits 10 x.natAbs
  (if x < 0 then '-' else '+') :: (List.replicate (l.exponentWidth - ds.length) '0' ++ ds)

/-- A decimal number as text: there is always a point or an exponent. -/
def Digits.text (l : FloatLayout) (d : Digits) : List Char :=
  let ds := Nat.toDigits 10 d.digits
  let x := d.exponent + ds.length - 1
  if l.lowest ≤ x && x < l.highest then
    if 0 ≤ d.exponent then ds ++ List.replicate d.exponent.toNat '0' ++ ['.', '0']
    else if x < 0 then ['0', '.'] ++ List.replicate (-x - 1).toNat '0' ++ ds
    else ds.take (x + 1).toNat ++ ['.'] ++ ds.drop (x + 1).toNat
  else
    let fraction := ds.drop 1
    ds.take 1 ++ (if fraction.isEmpty then [] else '.' :: fraction) ++ ['e'] ++ exponentText l x

/-- A double as text. -/
def floatText (x : Float) : String :=
  match Parts.ofFloat? x with
  | some p =>
    let sign := if p.negative then ['-'] else []
    let body :=
      if p.mantissa == 0 then "0.0".toList else (shortest p.mantissa p.exponent).text layout
    String.ofList (sign ++ body)
  | none =>
    if x.isNaN then layout.notANumber
    else if x < 0 then "-" ++ layout.infinity
    else layout.infinity

end FrontMatter.Decimal

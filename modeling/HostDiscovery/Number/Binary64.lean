/-!
# The nearest double

Double-precision numbers from exact ones. `bitsOfRatio` rounds a positive
quotient of naturals to the nearest double, a tie to the even one. Below the
normal range the spacing stays that of the smallest double, and above the
largest double the result is infinite. Only natural-number arithmetic is used.
-/
namespace HostDiscovery.Binary64

def twoTo (k : Nat) : Nat := Nat.pow 2 k

def tenTo (k : Nat) : Nat := Nat.pow 10 k

/-- A quotient rounded to the nearest natural number, a tie to the even one. -/
def roundedQuotient (p q : Nat) : Nat :=
  let n := p / q
  let r := p % q
  if 2 * r < q then n else if q < 2 * r then n + 1 else n + n % 2

/-- The quotient of `p` and `q` times two to the `k`, both kept as naturals. -/
def scaled (p q : Nat) (k : Int) : Nat × Nat :=
  if 0 ≤ k then (p, q * twoTo k.toNat) else (p * twoTo (-k).toNat, q)

def lastPlace (p q : Nat) : Int :=
  let k : Int := (p.log2 : Int) - q.log2 - 53
  let (a, b) := scaled p q k
  max (if twoTo 53 ≤ a / b then k + 1 else k) (-1074)

def infinityBits : Nat := 2047 * twoTo 52

def bitsOfRatio (p q : Nat) : Nat :=
  let k := lastPlace p q
  let (a, b) := scaled p q k
  min ((k + 1074).toNat * twoTo 52 + roundedQuotient a b) infinityBits

/-- The bits of the double nearest to `m` times ten to the `e`; far exponents need no arithmetic. -/
def bitsOfDecimal (m : Nat) (e : Int) : Nat :=
  if m = 0 then 0
  else
    let places : Int := (Nat.toDigits 10 m).length
    if 400 < places + e then infinityBits
    else if places + e < -400 then 0
    else if 0 ≤ e then bitsOfRatio (m * tenTo e.toNat) 1
    else bitsOfRatio m (tenTo (-e).toNat)

def ofBits (negative : Bool) (bits : Nat) : Float :=
  Float.ofBits (UInt64.ofNat (if negative then bits + twoTo 63 else bits))

def ofDecimal (negative : Bool) (m : Nat) (e : Int) : Float := ofBits negative (bitsOfDecimal m e)

def ofInt (i : Int) : Float :=
  if i = 0 then ofBits false 0 else ofBits (i < 0) (bitsOfRatio i.natAbs 1)

def infinity (negative : Bool) : Float := ofBits negative infinityBits

def notANumber : Float := ofBits false (infinityBits + twoTo 51)

def toInt? (x : Float) : Option Int :=
  let bits := x.toBits.toNat
  let field := bits / twoTo 52 % 2048
  let fraction := bits % twoTo 52
  if field = 2047 then none
  else
    let significand := if field = 0 then fraction else fraction + twoTo 52
    let k : Int := (if field = 0 then 1 else field : Nat) - 1075
    let magnitude : Option Nat :=
      if 0 ≤ k then some (significand * twoTo k.toNat)
      else if significand = 0 then some 0
      else if 1074 < (-k).toNat then none
      else if significand % twoTo (-k).toNat = 0 then some (significand / twoTo (-k).toNat)
      else none
    magnitude.map fun n => if twoTo 63 ≤ bits then -(n : Int) else n

end HostDiscovery.Binary64

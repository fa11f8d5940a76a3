namespace ByteText.Decimal

/-- The numbers that round to one double, as multiples of `1 / unit`. -/
structure Interval where
  unit : Nat
  low : Nat
  middle : Nat
  high : Nat
  closed : Bool

namespace Interval

def around (mantissa : Nat) (exponent : Int) (narrow : Bool) : Interval where
  unit := Nat.pow 2 (2 - exponent).toNat
  low := (4 * mantissa - if narrow then 1 else 2) * Nat.pow 2 (exponent - 2).toNat
  middle := 4 * mantissa * Nat.pow 2 (exponent - 2).toNat
  high := (4 * mantissa + 2) * Nat.pow 2 (exponent - 2).toNat
  closed := mantissa % 2 == 0

def ofBits (bits : Nat) : Interval :=
  let exponent : Nat := bits / Nat.pow 2 52 % Nat.pow 2 11
  let fraction := bits % Nat.pow 2 52
  if exponent = 0 then around fraction (-1074) false
  else around (Nat.pow 2 52 + fraction) (exponent - 1075) (fraction = 0 && exponent ≠ 1)

def multiple? (I : Interval) (k : Int) : Option Nat :=
  let step := Nat.pow 10 k.toNat * I.unit
  let scale := Nat.pow 10 (-k).toNat
  let d := I.middle * scale / step
  let inside (n : Nat) : Bool :=
    if I.closed then I.low * scale ≤ n * step && n * step ≤ I.high * scale
    else I.low * scale < n * step && n * step < I.high * scale
  let below := I.middle * scale - d * step
  let above := (d + 1) * step - I.middle * scale
  if inside d && (!inside (d + 1) || below < above || (below = above && d % 2 = 0)) then some d
  else if inside (d + 1) then some (d + 1)
  else none

def shortest? (I : Interval) : Option (Nat × Int) :=
  (List.range 660).findSome? fun i =>
    let k := 310 - Int.ofNat i
    (I.multiple? k).map fun d => (d, k)

end Interval

structure Layout where
  lowest : Int
  highest : Int
  plus : String

def Layout.write (L : Layout) (digits : Nat) (k : Int) : String :=
  let ds := (toString digits).toList
  let e := k + ds.length - 1
  let zeros (n : Int) := List.replicate n.toNat '0'
  if e < L.lowest ∨ L.highest < e then
    let point := if ds.length = 1 then [] else ['.']
    let sign := if e < 0 then "-" else L.plus
    String.ofList (ds.take 1 ++ point ++ ds.drop 1) ++ "e" ++ sign ++ toString e.natAbs
  else if e < 0 then String.ofList ('0' :: '.' :: zeros (-e - 1) ++ ds)
  else if 0 ≤ k then String.ofList (ds ++ zeros k ++ ['.', '0'])
  else String.ofList (ds.take (e.toNat + 1) ++ '.' :: ds.drop (e.toNat + 1))

def text (L : Layout) (x : Float) : String :=
  let bits := x.toBits.toNat
  let sign := if bits / Nat.pow 2 63 = 0 then "" else "-"
  let magnitude := bits % Nat.pow 2 63
  if magnitude = 0 then sign ++ "0.0"
  else if 2047 * Nat.pow 2 52 < magnitude then "NaN"
  else if magnitude = 2047 * Nat.pow 2 52 then sign ++ "inf"
  else match (Interval.ofBits magnitude).shortest? with
    | some (digits, k) => sign ++ L.write digits k
    | none => sign

end ByteText.Decimal

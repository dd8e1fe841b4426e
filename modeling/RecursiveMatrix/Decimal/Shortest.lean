namespace RecursiveMatrix.Decimal

/-- A finite single above zero, `mantissa * 2 ^ exponent`. The gap below it is half the gap above
it when `narrowBelow`. -/
structure Binary where
  mantissa : Nat
  exponent : Int
  narrowBelow : Bool

def Binary.ofBits (bits : UInt32) : Binary :=
  let e := ((bits >>> 23) &&& 0xFF).toNat
  let f := (bits &&& 0x7FFFFF).toNat
  if e = 0 then ⟨f, -149, false⟩ else ⟨0x800000 + f, (e : Int) - 150, f == 0 && e > 1⟩

def compareScaled (a : Nat) (i : Int) (m : Nat) (j : Int) : Ordering :=
  compare (a * Nat.pow 10 i.toNat * Nat.pow 2 (-j).toNat)
    (m * Nat.pow 2 j.toNat * Nat.pow 10 (-i).toNat)

/-- Whether `digits * 10 ^ scale` lies among the reals that round to `x`; the two ends do when the
mantissa is even. -/
def Binary.readsBack (x : Binary) (digits : Nat) (scale : Int) : Bool :=
  let low := if x.narrowBelow then 4 * x.mantissa - 1 else 4 * x.mantissa - 2
  let high := 4 * x.mantissa + 2
  let even := x.mantissa % 2 == 0
  let l := compareScaled digits scale low (x.exponent - 2)
  let h := compareScaled digits scale high (x.exponent - 2)
  (l == .gt || (even && l == .eq)) && (h == .lt || (even && h == .eq))

def Binary.floorAt (x : Binary) (scale : Int) : Nat :=
  x.mantissa * Nat.pow 2 x.exponent.toNat * Nat.pow 10 (-scale).toNat /
    (Nat.pow 2 (-x.exponent).toNat * Nat.pow 10 scale.toNat)

/-- Of the two multiples of `10 ^ scale` around `x` the one that reads back, the nearer if both do,
the larger if both are as near. -/
def Binary.onGrid? (x : Binary) (scale : Int) : Option Nat :=
  let n := x.floorAt scale
  match x.readsBack n scale, x.readsBack (n + 1) scale with
  | true, true =>
    if compareScaled (2 * n + 1) scale (2 * x.mantissa) x.exponent == .gt then some n
    else some (n + 1)
  | true, false => some n
  | false, true => some (n + 1)
  | false, false => none

def Binary.search (x : Binary) : Nat → Int → Nat × Int
  | 0, scale => (x.floorAt scale, scale)
  | n + 1, scale =>
    match x.onGrid? scale with
    | some d => (d, scale)
    | none => x.search n (scale - 1)

def coarsest : Int := 39

-- on the coarsest grid there is no single but zero, on the last one every single is
def gridCount : Nat := 189

def positional (digits : Nat) (scale : Int) : String :=
  let ds := Nat.repr digits
  if 0 ≤ scale then ds ++ String.ofList (List.replicate scale.toNat '0')
  else
    let places := (-scale).toNat
    let padded := (List.replicate (places + 1 - ds.length) '0' ++ ds.toList)
    let whole := padded.length - places
    String.ofList (padded.take whole ++ '.' :: padded.drop whole)

/-- The fewest digits that read back as the same single, never with an exponent. -/
def shortest (v : Float32) : String :=
  if v.isNaN then "NaN"
  else
    let bits := v.toBits
    let sign := if bits >>> 31 = 0 then "" else "-"
    if !v.isFinite then sign ++ "inf"
    else
      let x := Binary.ofBits bits
      if x.mantissa = 0 then sign ++ "0"
      else
        let (digits, scale) := x.search gridCount coarsest
        sign ++ positional digits scale

end RecursiveMatrix.Decimal

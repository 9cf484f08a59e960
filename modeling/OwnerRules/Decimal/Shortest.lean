namespace OwnerRules.Decimal

structure Scaled where
  significand : Nat
  exponent : Int
  deriving DecidableEq

def topBit : Nat := 0x10000000000000

def magnitude (x : Float) : Scaled :=
  let bits := x.toBits.toNat
  let fraction := bits % topBit
  match bits / topBit % 2048 with
  | 0 => ⟨fraction, -1074⟩
  | e + 1 => ⟨fraction + topBit, (e : Int) - 1074⟩

def isNegative (x : Float) : Bool := x.toBits.toNat.testBit 63

structure Interval where
  low : Nat
  high : Nat
  closed : Bool

def Interval.around (v : Scaled) : Interval :=
  let m := v.significand
  ⟨if m = topBit ∧ -1074 < v.exponent then 4 * m - 1 else 4 * m - 2, 4 * m + 2, m % 2 = 0⟩

def leading (v : Scaled) : Int :=
  let n := v.significand * Nat.pow 2 v.exponent.toNat * Nat.pow 10 400
    / Nat.pow 2 (-v.exponent).toNat
  (Nat.toDigits 10 n).length - 401

def nearest? (v : Scaled) (k : Int) : Option Nat :=
  let i := Interval.around v
  let a := Nat.pow 2 v.exponent.toNat * Nat.pow 10 (-k).toNat
  let b := 4 * Nat.pow 2 (-v.exponent).toNat * Nat.pow 10 k.toNat
  let d := 4 * v.significand * a / b
  let inside (n : Nat) : Bool :=
    if i.closed then i.low * a ≤ n * b && n * b ≤ i.high * a
    else i.low * a < n * b && n * b < i.high * a
  let below := 4 * v.significand * a - d * b
  let above := (d + 1) * b - 4 * v.significand * a
  match inside d, inside (d + 1) with
  | false, false => none
  | true, false => some d
  | false, true => some (d + 1)
  | true, true =>
    if below < above ∨ below = above ∧ d % 2 = 0 then some d else some (d + 1)

def shortest (v : Scaled) : Scaled :=
  let e := leading v
  let hit? := (List.range 17).findSome? fun n : Nat => (nearest? v (e - n)).map (⟨·, e - n⟩)
  hit?.getD v

def strip (fuel : Nat) (v : Scaled) : Scaled :=
  match fuel with
  | 0 => v
  | fuel + 1 =>
    if v.significand % 10 = 0 then strip fuel ⟨v.significand / 10, v.exponent + 1⟩ else v

structure Style where
  least : Int
  greatest : Int

def Style.default : Style := ⟨-5, 15⟩

def zeros (n : Nat) : List Char := List.replicate n '0'

def Style.render (f : Style) (v : Scaled) : List Char :=
  let ds := Nat.toDigits 10 v.significand
  let e := v.exponent + ds.length - 1
  if f.least ≤ e ∧ e ≤ f.greatest then
    if e < 0 then '0' :: '.' :: zeros (-e - 1).toNat ++ ds
    else
      let n := e.toNat + 1
      let places := ds.drop n
      ds.take n ++ zeros (n - ds.length) ++ '.' :: if places.isEmpty then ['0'] else places
  else
    let places := if ds.length = 1 then [] else '.' :: ds.drop 1
    ds.take 1 ++ places ++ 'e' :: (if e < 0 then '-' else '+') :: Nat.toDigits 10 e.natAbs

def text (x : Float) : String :=
  let v := magnitude x
  let body := if v.significand = 0 then ['0', '.', '0']
    else Style.default.render (strip 17 (shortest v))
  String.ofList (if isNegative x then '-' :: body else body)

end OwnerRules.Decimal

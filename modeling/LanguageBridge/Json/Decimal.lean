import LanguageBridge.Json.Value

set_option autoImplicit false

/-! # Numbers in decimal

A floating-point number is written with the fewest digits that read back as the same number:
the digits are found on ever finer decimal grids, on the first grid
that has a point among the reals that round to the number. Numbers from `0.00001` up to below
`10 ^ 16` are in positional form, with `.0` after a whole number; the others have an exponent
with its sign.
-/

namespace LanguageBridge.Decimal

/-- The positive finite number `mantissa * 2 ^ power / 2 ^ scale`, as its mantissa and its
binary exponent, with `floor` telling whether the gap below it is half of that above. -/
structure Parts where
  mantissa : Nat
  power : Nat
  scale : Nat
  floor : Bool

/-- The parts of a positive finite number from its bits. -/
def Parts.ofBits (bits : Nat) : Parts :=
  let fraction := bits % Nat.pow 2 52
  let exponent := bits / Nat.pow 2 52 % Nat.pow 2 11
  let mantissa := if exponent = 0 then fraction else fraction + Nat.pow 2 52
  let e := max exponent 1
  ⟨mantissa, e - 1075, 1075 - e, fraction = 0 && exponent > 1⟩

/-- Whether `n / d` rounds to the number. Distances are compared in quarters of the unit in
the last place; a distance of exactly half a unit counts for even mantissas. -/
def Parts.roundsTo (p : Parts) (n d : Nat) : Bool :=
  let unit := Nat.pow 2 p.power * d
  let there := n * Nat.pow 2 p.scale * 4
  let here := p.mantissa * unit * 4
  let above := 2 * unit
  let below := if p.floor then unit else 2 * unit
  let even := p.mantissa % 2 == 0
  if there ≥ here then
    there - here < above || (even && there - here == above)
  else
    here - there < below || (even && here - there == below)

/-- The decimal exponent of `n / d`: the least `k` with `n / d < 10 ^ k`, looked for upwards. -/
def magnitude (n d : Nat) : Nat → Int → Int
  | 0, k => k
  | fuel + 1, k =>
    let small := if k ≥ 0 then n < d * Nat.pow 10 k.toNat else n * Nat.pow 10 (-k).toNat < d
    if small then k else magnitude n d fuel (k + 1)

/-- The point of a grid that is nearest to the number among those that round to it: the grid
holds the multiples of `10 ^ k`. -/
def Parts.onGrid (p : Parts) (k : Int) : Option Nat :=
  let up := Nat.pow 10 k.toNat
  let down := Nat.pow 10 (-k).toNat
  let n := p.mantissa * Nat.pow 2 p.power * down
  let d := Nat.pow 2 p.scale * up
  let low := n / d
  let fits (x : Nat) : Bool := p.roundsTo (x * up) down
  let nearLow := n - low * d ≤ (low + 1) * d - n
  if nearLow && fits low then some low
  else if fits (low + 1) then some (low + 1)
  else if fits low then some low
  else none

/-- The digits and the exponent of the shortest decimal number that reads back. -/
def Parts.shortest (p : Parts) : Nat × Int :=
  let top := magnitude (p.mantissa * Nat.pow 2 p.power) (Nat.pow 2 p.scale) 700 (-330)
  let grids := (List.range 18).map fun (i : Nat) => top - (i : Int)
  match grids.findSome? fun k => (p.onGrid k).map (·, k) with
  | some found => found
  | none => (p.mantissa * Nat.pow 2 p.power, 0)

/-- The written form of the digits `ds`, read as a whole number, times `10 ^ exponent`. -/
def layout (ds : List Char) (exponent : Int) : String :=
  let point := ds.length + exponent
  let zeros (n : Int) := List.replicate n.toNat '0'
  String.ofList <|
    if 0 ≤ exponent ∧ point ≤ 16 then ds ++ zeros exponent ++ ['.', '0']
    else if 0 < point ∧ point ≤ 16 then ds.take point.toNat ++ '.' :: ds.drop point.toNat
    else if -5 < point ∧ point ≤ 0 then '0' :: '.' :: zeros (-point) ++ ds
    else
      let tail := if ds.length = 1 then [] else '.' :: ds.drop 1
      let sign := if point > 0 then ['+'] else []
      ds.take 1 ++ tail ++ 'e' :: sign ++ (toString (point - 1)).toList

/-- The text of a floating-point number. -/
def text (x : Float) : String :=
  let bits := x.toBits.toNat
  let sign := if bits ≥ Nat.pow 2 63 then "-" else ""
  let body := bits % Nat.pow 2 63
  if body = 0 then sign ++ "0.0"
  else if body = 2047 * Nat.pow 2 52 then sign ++ "inf"
  else if body > 2047 * Nat.pow 2 52 then "NaN"
  else
    let shortest := (Parts.ofBits body).shortest
    sign ++ layout (Nat.toDigits 10 shortest.1) shortest.2

end LanguageBridge.Decimal

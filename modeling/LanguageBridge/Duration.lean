set_option autoImplicit false

/-! # Lengths of time

A time limit is a number of nanoseconds. Its text uses the largest unit of which it holds at
least one, with the fraction written out and no trailing zeros.
-/

namespace LanguageBridge

/-- A length of time, in nanoseconds. -/
structure Duration where
  nanos : Nat
deriving Repr, DecidableEq

namespace Duration

/-- A whole number of seconds. -/
def seconds (n : Nat) : Duration := ⟨n * 1000000000⟩

/-- A whole number of milliseconds. -/
def millis (n : Nat) : Duration := ⟨n * 1000000⟩

/-- The decimal digits of a fraction `part / 10 ^ places`, without trailing zeros. -/
def fractionDigits (part places : Nat) : List Char :=
  let digits := Nat.toDigits 10 part
  let padded := List.replicate (places - digits.length) '0' ++ digits
  (padded.reverse.dropWhile (· == '0')).reverse

/-- A value with a fraction in units of `10 ^ places` nanoseconds. -/
def inUnit (nanos places : Nat) (unit : String) : String :=
  let whole := nanos / Nat.pow 10 places
  let fraction := if places = 0 then [] else fractionDigits (nanos % Nat.pow 10 places) places
  match fraction with
  | [] => toString whole ++ unit
  | digits => toString whole ++ "." ++ String.ofList digits ++ unit

/-- The text of a length of time, such as `150ms`, `1.5µs` or `0ns`. -/
def text (d : Duration) : String :=
  if d.nanos ≥ 1000000000 then inUnit d.nanos 9 "s"
  else if d.nanos ≥ 1000000 then inUnit d.nanos 6 "ms"
  else if d.nanos ≥ 1000 then inUnit d.nanos 3 "µs"
  else inUnit d.nanos 0 "ns"

end Duration
end LanguageBridge

import PulseBridge.Decimal.Shortest

/-!
# Layouts of decimal numbers

How the digits of a number are set out as text: which magnitudes are written positionally and how
an exponent looks. A `Layout` gathers these decisions, and `Layout.text` follows them.
-/

namespace PulseBridge.Decimal

/-- The decisions of a format for numbers. -/
structure Layout where
  /-- The least power of ten of the leading digit that is written positionally. -/
  lowest : Int
  /-- The greatest power of ten of the leading digit that is written positionally. -/
  highest : Int
  /-- What an integral number is followed by when it is written positionally. -/
  integralEnd : String
  /-- What stands before an exponent that is not negative. -/
  exponentSign : String
  /-- What is written for anything that is no number. -/
  notANumber : String

/-- The digits written positionally. -/
def Layout.positional (layout : Layout) (d : Digits) : String :=
  let digits := digitsOf d.coefficient
  if 0 ≤ d.exponent then
    String.ofList (digits ++ List.replicate d.exponent.toNat '0') ++ layout.integralEnd
  else
    let places := (-d.exponent).toNat
    if places < digits.length then
      String.ofList (digits.take (digits.length - places)) ++ "."
        ++ String.ofList (digits.drop (digits.length - places))
    else
      "0." ++ String.ofList (List.replicate (places - digits.length) '0' ++ digits)

/-- The digits written with an exponent, one digit before the point. -/
def Layout.scientific (layout : Layout) (d : Digits) : String :=
  let digits := digitsOf d.coefficient
  let power := (digits.length : Int) - 1 + d.exponent
  let tail := match digits.drop 1 with
    | [] => ""
    | rest => "." ++ String.ofList rest
  let exponent := if power < 0 then toString power else layout.exponentSign ++ toString power
  String.ofList (digits.take 1) ++ tail ++ "e" ++ exponent

/-- The digits as text. -/
def Layout.digitsText (layout : Layout) (d : Digits) : String :=
  let power := ((digitsOf d.coefficient).length : Int) - 1 + d.exponent
  if layout.lowest ≤ power && power ≤ layout.highest then layout.positional d
  else layout.scientific d

/-- A double as text, with the fewest digits that read back as the same double. -/
def Layout.text (layout : Layout) (x : Float) : String :=
  let sign (negative : Bool) := if negative then "-" else ""
  match Parts.ofFloat x with
  | .nan => layout.notANumber
  | .infinite _ => layout.notANumber
  | .zero negative => sign negative ++ layout.digitsText ⟨0, 0⟩
  | .finite negative m q narrowBelow =>
      sign negative ++ layout.digitsText (shortest m q narrowBelow)

end PulseBridge.Decimal

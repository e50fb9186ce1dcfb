import Retrieval.Decimal.Shortest

namespace Retrieval.Decimal

structure Layout where
  positional : Int → Bool
  pointZero : Bool
  exponentPlus : Bool

/-- Numbers from 0.00001 up to below 10^16 are positional, whole numbers keep `.0`, and positive
exponents have a sign. -/
def dataLayout : Layout := ⟨fun leading => -5 ≤ leading && leading < 16, true, true⟩

/-- Numbers in messages are positional, and whole numbers have no point. -/
def proseLayout : Layout := ⟨fun _ => true, false, false⟩

/-- Numbers in a listing of fields are positional from 0.0001 up to below 10^16, whole numbers keep
`.0`, and positive exponents have no sign. -/
def listingLayout : Layout := ⟨fun leading => -4 ≤ leading && leading < 16, true, false⟩

def zeros (count : Nat) : List Char :=
  List.replicate count '0'

/-- The digits with the point after the first `point` of them, which may lie outside them. -/
def pointedDigits (digits : List Char) (point : Int) (pointZero : Bool) : List Char :=
  if point ≤ 0 then
    '0' :: '.' :: (zeros (-point).toNat ++ digits)
  else if (digits.length : Int) ≤ point then
    digits ++ zeros (point - digits.length).toNat ++ (if pointZero then ['.', '0'] else [])
  else
    digits.take point.toNat ++ '.' :: digits.drop point.toNat

def exponentMark (plus : Bool) (exponent : Int) : List Char :=
  'e' :: ((if plus && 0 ≤ exponent then ['+'] else []) ++ (toString exponent).toList)

def exponentDigits (plus : Bool) (digits : List Char) (leading : Int) : List Char :=
  match digits with
  | [] => []
  | first :: [] => first :: exponentMark plus leading
  | first :: rest => first :: '.' :: (rest ++ exponentMark plus leading)

def signed (negative : Bool) (digits : List Char) : String :=
  String.ofList (if negative then '-' :: digits else digits)

def Numeral.written (layout : Layout) (numeral : Numeral) : String :=
  let digits := Nat.toDigits 10 numeral.digits
  let leading : Int := if numeral.digits = 0 then 0 else numeral.exponent + digits.length - 1
  signed numeral.negative <|
    if layout.positional leading then
      pointedDigits digits (leading + 1) layout.pointZero
    else
      exponentDigits layout.exponentPlus digits leading

def shortestText (layout : Layout) (number : Float) : String :=
  match Binary.ofFloat? number with
  | some exact => exact.shortest.written layout
  | none => if number.isNaN then "NaN" else if number < 0 then "-inf" else "inf"

/-- A number rounded to a fixed count of digits, the first of which stands before the point; the
last is rounded to nearest, halfway to even. -/
def roundedText (count : Nat) (number : Float) : String :=
  match Binary.ofFloat? number with
  | none => if number.isNaN then "NaN" else if number < 0 then "-inf" else "inf"
  | some exact =>
      let leading := if exact.significand = 0 then 0 else exact.leadingExponent
      let digits := exact.roundedAt (leading - (count - 1 : Nat))
      let carried := digits = Nat.pow 10 count
      let shown := Nat.toDigits 10 (if carried then digits / 10 else digits)
      signed exact.negative
        (exponentDigits false (zeros (count - shown.length) ++ shown)
          (if carried then leading + 1 else leading))

def fixedText (places : Nat) (number : Float) : String :=
  match Binary.ofFloat? number with
  | none => if number.isNaN then "NaN" else if number < 0 then "-inf" else "inf"
  | some exact =>
      let shown := Nat.toDigits 10 (exact.roundedAt (-(places : Int)))
      let padded := zeros (places + 1 - shown.length) ++ shown
      signed exact.negative
        (pointedDigits padded ((padded.length : Int) - places) false)

end Retrieval.Decimal

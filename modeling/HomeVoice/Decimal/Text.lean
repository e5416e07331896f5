import HomeVoice.Decimal.Shortest

/-!
# Numbers as text

A number is written with the digits of its shortest numeral. What else an output decides about
the text of its numbers is one `NumberStyle`: there is one for messages and one for JSON.
-/

namespace HomeVoice

/-- How an output writes its numbers. -/
structure NumberStyle where
  /-- Whether a number whose leading digit stands at this power of ten is written out in full. -/
  positional : Int → Bool
  /-- Whether a whole number written out in full ends in `.0`. -/
  pointAlways : Bool
  /-- Which of two equally near numerals is taken. -/
  tie : Decimal.Tie

/-- Messages write every number out in full and whole numbers without a point. -/
def NumberStyle.message : NumberStyle :=
  ⟨fun _ => true, false, .up⟩

/-- JSON numbers keep a point or an exponent, and have an exponent below `10 ^ -5` and from
`10 ^ 16` on. -/
def NumberStyle.json : NumberStyle :=
  ⟨fun e => -5 ≤ e && e < 16, true, .even⟩

namespace Decimal

/-- The numeral written out in full. -/
def positionalText (pointAlways : Bool) (d : Decimal) : String :=
  let cs := digitsOf d.digits
  match d.exponent with
  | .ofNat zeros =>
    .ofList (cs ++ List.replicate zeros '0' ++ if pointAlways then ['.', '0'] else [])
  | .negSucc n =>
    let places := n + 1
    let padded := List.replicate (places + 1 - cs.length) '0' ++ cs
    let whole := padded.length - places
    .ofList (padded.take whole ++ '.' :: padded.drop whole)

/-- The numeral with one digit before the point and a signed exponent. -/
def exponentText (d : Decimal) : String :=
  let e := d.leadingExponent
  let sign := if e < 0 then '-' else '+'
  let mantissa :=
    match digitsOf d.digits with
    | [] => []
    | [c] => [c]
    | c :: rest => c :: '.' :: rest
  .ofList (mantissa ++ 'e' :: sign :: digitsOf e.natAbs)

end Decimal

/-- The text of a number in a style. -/
def Binary64.text (style : NumberStyle) : Binary64 → String
  | .nan => "NaN"
  | .infinity negative => if negative then "-inf" else "inf"
  | .finite negative rank =>
    let d := Decimal.shortest style.tie rank
    let body :=
      if d.digits = 0 || style.positional d.leadingExponent then d.positionalText style.pointAlways
      else d.exponentText
    if negative then "-" ++ body else body

end HomeVoice

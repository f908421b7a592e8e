import HtmlMarkdown.Decimal.Shortest
import HtmlMarkdown.Text.Basic
import HtmlMarkdown.Text.Digit

/-!
# Writing and reading numbers

* `Decimal.write`: a number of double precision by its shortest digits, positional between 0.0001
  and 10 ^ 16.
* `Decimal.ofDigits`: the nearest number of double precision to a decimal.
* `Decimal.read?`: a number as a command line gives it.
-/

namespace HtmlMarkdown.Decimal

/-! ## Writing -/

/-- How numbers are written. -/
structure Layout where
  /-- The first digit stands right of this many places, or the number is not positional. -/
  leastPoint : Int
  /-- The last digit before the point is at most the one of this place. -/
  greatestPoint : Int
  /-- The least number of digits of an exponent. -/
  exponentDigits : Nat

/-- Numbers from 0.0001 to below 10 ^ 16 are positional, the others have an exponent of two digits
at least. -/
def layout : Layout := ⟨-3, 16, 2⟩

/-- The exponent with its sign, in at least `layout.exponentDigits` digits. -/
def writeExponent (e : Int) : Text :=
  let digits := Text.ofNat e.natAbs
  (if e < 0 then '-' else '+') ::
    List.replicate (layout.exponentDigits - digits.length) '0' ++ digits

/-- A positive decimal. -/
def Numeral.write (d : Numeral) : Text :=
  let all := Text.ofNat d.digits
  let digits := Text.trimEnd (· == '0') all
  let point : Int := all.length + d.exponent
  if layout.leastPoint ≤ point && point ≤ layout.greatestPoint then
    if point ≤ 0 then '0' :: '.' :: List.replicate (-point).toNat '0' ++ digits
    else
      let whole := digits.take point.toNat
      let part := digits.drop point.toNat
      whole ++ List.replicate (point.toNat - whole.length) '0' ++ '.' ::
        (if part.isEmpty then ['0'] else part)
  else
    let rest := digits.drop 1
    digits.take 1 ++ (if rest.isEmpty then [] else '.' :: rest) ++ 'e' :: writeExponent (point - 1)

/-- The size of a finite number of double precision that is not zero, from its bits. -/
def Binary.ofBits (bits : Nat) : Binary :=
  let exponent := (bits >>> 52) % 0x800
  let hidden := 1 <<< 52
  let part := bits % hidden
  if exponent = 0 then ⟨part, -1074, false⟩
  else ⟨hidden + part, (exponent : Int) - 1075, part == 0 && 1 < exponent⟩

/-- A number of double precision. -/
def write (x : Float) : Text :=
  if x.isNaN then "nan".toList
  else
    let bits := x.toBits.toNat
    let sign := if bits < 1 <<< 63 then [] else ['-']
    if x.isInf then sign ++ "inf".toList
    else if x == 0 then sign ++ "0.0".toList
    else sign ++ (Binary.ofBits bits).shortest.write

/-! ## Reading -/

/-- The nearest number of double precision to `digits * 10 ^ exponent`. -/
def ofDigits (digits : Nat) (exponent : Int) : Float :=
  let point := (Text.ofNat digits).length + exponent
  if digits = 0 || point < -400 then 0
  else if 400 < point then Float.ofScientific 1 false 400
  else if exponent < 0 then Float.ofScientific digits true exponent.natAbs
  else Float.ofScientific digits false exponent.natAbs

/-- The value of a decimal digit of any script. -/
def digitValue? (c : Char) : Option Nat :=
  if isDecimalDigit c then
    (decimalZeros.find? fun z => z ≤ c.toNat && c.toNat < z + 10).map (c.toNat - ·)
  else none

/-- A number from its digits, most significant first. -/
def natOfDigits (digits : List Nat) : Nat := digits.foldl (fun n d => 10 * n + d) 0

/-- The leading digits of a text, and the rest; a single underscore between two digits is left out.
-/
def readDigitsAfter (isAfterDigit : Bool) : Text → List Nat × Text
  | [] => ([], [])
  | c :: s =>
    match digitValue? c with
    | some d =>
      let (ds, rest) := readDigitsAfter true s
      (d :: ds, rest)
    | none =>
      if isAfterDigit && c == '_' && (s.head?.bind digitValue?).isSome then readDigitsAfter false s
      else ([], c :: s)

/-- The leading digits of a text, and the rest. -/
def readDigits (s : Text) : List Nat × Text := readDigitsAfter false s

/-- An exponent: its sign and its digits up to the end of the text. -/
def readExponent? (s : Text) : Option Int :=
  let (isNegative, s) := match s with
    | '-' :: s => (true, s)
    | '+' :: s => (false, s)
    | s => (false, s)
  match readDigits s with
  | ([], _) => none
  | (ds, []) => some (if isNegative then -(natOfDigits ds : Int) else natOfDigits ds)
  | _ => none

/-- A number without sign: digits with or without a point, and an exponent or none. -/
def readUnsigned? (s : Text) : Option Float :=
  let (whole, rest) := readDigits s
  let (part, rest) := match rest with
    | '.' :: rest => readDigits rest
    | _ => ([], rest)
  let digits := natOfDigits (whole ++ part)
  if whole.isEmpty && part.isEmpty then none
  else match rest with
    | [] => some (ofDigits digits (-(part.length : Int)))
    | c :: rest =>
      if c = 'e' || c = 'E' then
        (readExponent? rest).map fun e => ofDigits digits (e - part.length)
      else none

/-- The white space that may surround a number; a text of plain characters knows six of them. -/
def isMargin (s : Text) (c : Char) : Bool :=
  if s.all fun d => d.toNat < 0x80 then c == ' ' || (9 ≤ c.toNat && c.toNat ≤ 13) else isBlank c

/-- A number as a command line gives it: a decimal of any script, `inf`, `infinity` or `nan`, with a
sign or none. -/
def read? (s : Text) : Option Float :=
  let (isNegative, s) := match Text.trim (isMargin s) s with
    | '-' :: s => (true, s)
    | '+' :: s => (false, s)
    | s => (false, s)
  let word := s.map Char.toLower
  let size :=
    if word = "inf".toList || word = "infinity".toList then some (1 / 0 : Float)
    else if word = "nan".toList then some (0 / 0 : Float)
    else readUnsigned? s
  size.map fun x => if isNegative then -x else x

end HtmlMarkdown.Decimal

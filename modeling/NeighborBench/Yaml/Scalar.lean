import NeighborBench.Decimal.Written
import NeighborBench.Json.Basic
import NeighborBench.Text.Integer
import NeighborBench.Yaml.Token

/-! # Values of scalars

A plain scalar is a null, a truth value or a number if it is written like one, and text otherwise.
-/

namespace NeighborBench.Yaml.Scalar

def isNull (text : String) : Bool := ["null", "Null", "NULL", "~"].contains text

def bool? (text : String) : Option Bool :=
  if ["true", "True", "TRUE"].contains text then some true
  else if ["false", "False", "FALSE"].contains text then some false
  else none

/-! ## Integers -/

def withoutPlus : List Char → List Char
  | '+' :: rest => rest
  | text => text

def isSigned : List Char → Bool
  | '+' :: _ => true
  | '-' :: _ => true
  | _ => false

/-- Digits after a zero, which make no number. -/
def isPadded (text : List Char) : Bool :=
  match if isSigned text then text.drop 1 else text with
  | '0' :: d :: rest => (d :: rest).all Char.isDigit
  | _ => false

/-- The base that a letter after a zero names. -/
def baseOf? : Char → Option Nat
  | 'x' => some 16
  | 'o' => some 8
  | 'b' => some 2
  | _ => none

def based? (text : List Char) : Option (Nat × List Char) :=
  match text with
  | '0' :: letter :: digits => (baseOf? letter).map fun base => (base, digits)
  | _ => none

def within? (base : Nat) (lowest highest : Int) (text : List Char) : Option Int :=
  (Text.readInteger base lowest highest text).toOption

/-- A number from zero to `highest`. -/
def unsigned? (highest : Int) (text : List Char) : Option Int :=
  let digits := withoutPlus text
  let decimal? := if isSigned digits || isPadded text then none else within? 10 0 highest digits
  match based? digits with
  | some (base, more) =>
    if isSigned more then none else (within? base 0 highest more).orElse fun _ => decimal?
  | none => decimal?

/-- A number from `lowest` to `highest`, with a minus sign in front of its base. -/
def signed? (lowest highest : Int) (text : List Char) : Option Int :=
  let decimal? := if isPadded text then none else within? 10 lowest highest text
  let based := match text with
    | '-' :: digits => based? digits
    | _ => none
  match based with
  | some (base, more) => (within? base lowest highest ('-' :: more)).orElse fun _ => decimal?
  | none => decimal?

/-- A number of 64 bits, with a sign only if it needs one. -/
def int64? (text : List Char) : Option Int :=
  (unsigned? 0xFFFF_FFFF_FFFF_FFFF text).orElse fun _ =>
    signed? (-0x8000_0000_0000_0000) 0x7FFF_FFFF_FFFF_FFFF text

def int128? (text : List Char) : Option Int :=
  (unsigned? 0xFFFF_FFFF_FFFF_FFFF_FFFF_FFFF_FFFF_FFFF text).orElse fun _ =>
    signed? (-0x8000_0000_0000_0000_0000_0000_0000_0000) 0x7FFF_FFFF_FFFF_FFFF_FFFF_FFFF_FFFF_FFFF text

/-- No value holds a number of more than 64 bits that 128 bits can hold. -/
def int? (text : String) : Option (Except Fault Json) :=
  match int64? text.toList with
  | some n => some (.ok (.int n))
  | none => (int128? text.toList).map fun _ => .error (.wrongType "a number of 64 bits")

/-! ## Other numbers -/

/-- A double; infinities and what is no number have no value of their own. -/
def float? (text : String) : Option Json :=
  let unsignedText := withoutPlus text.toList
  if text.toList ≠ unsignedText && isSigned unsignedText then none
  else if [".inf", ".Inf", ".INF"].contains (String.ofList unsignedText) then some .null
  else if ["-.inf", "-.Inf", "-.INF", ".nan", ".NaN", ".NAN"].contains text then some .null
  else
    match Decimal.Written.ofChars? unsignedText with
    | none => none
    | some w => if w.value.isFinite then some (.float w.value) else none

/-! ## Values -/

def plain (text : String) : Except Fault Json :=
  if text.isEmpty || isNull text then .ok .null
  else
    match bool? text with
    | some b => .ok (.bool b)
    | none =>
      match int? text with
      | some found => found
      | none =>
        if isPadded text.toList then .ok (.string text)
        else .ok ((float? text).getD (.string text))

def coreTag (name : String) : String := "tag:yaml.org,2002:" ++ name

/-- A tag that no value answers to. -/
def isForeign (tag : String) : Bool := tag.startsWith "!"

def wanted (what : String) (value : Option Json) : Except Fault Json :=
  match value with
  | some value => .ok value
  | none => .error (.wrongType what)

/-- The value of a scalar: of the type that its tag names, or of the one that it is written as. -/
def value (tag : Option String) (style : Style) (text : String) : Except Fault Json :=
  match tag with
  | none => if style = .plain then plain text else .ok (.string text)
  | some tag =>
    if isForeign tag then .error (.wrongType "a value without a tag")
    else if tag = coreTag "bool" then wanted "a boolean" ((bool? text).map .bool)
    else if tag = coreTag "int" then (int? text).getD (.error (.wrongType "an integer"))
    else if tag = coreTag "float" then wanted "a float" (float? text)
    else if tag = coreTag "null" then wanted "null" (if isNull text then some .null else none)
    else .ok (.string text)

end NeighborBench.Yaml.Scalar

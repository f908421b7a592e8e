import HtmlMarkdown.Decimal.Number
import HtmlMarkdown.Value.Quoted

/-!
# Values that callers hand in

Where a text, a filter or a rule is expected a caller may hand in anything; messages show it.

* `Value`: what can be handed in; `Value.literal`: how a message shows it;
* `Value.display`: the same, texts without quotes; `Value.typeName`, `Value.isTrue`.
-/

namespace HtmlMarkdown

/-- A value handed in by a caller. -/
inductive Value
  | null
  | bool (b : Bool)
  | int (n : Int)
  | float (x : Float)
  | text (s : Text)
  | list (vs : List Value)
  | object (fields : List (Text × Value))
  deriving Inhabited

namespace Value

mutual

/-- A value as a message shows it. -/
def literal : Value → Text
  | null => "None".toList
  | bool true => "True".toList
  | bool false => "False".toList
  | int n => (ToString.toString n).toList
  | float x => Decimal.write x
  | text s => s.quoted
  | list vs => '[' :: literalList vs ++ [']']
  | object fields => Char.ofNat 0x7B :: literalFields fields ++ [Char.ofNat 0x7D]

/-- The values of a list, separated. -/
def literalList : List Value → Text
  | [] => []
  | [v] => v.literal
  | v :: vs => v.literal ++ ',' :: ' ' :: literalList vs

/-- The fields of an object, separated. -/
def literalFields : List (Text × Value) → Text
  | [] => []
  | [(k, v)] => k.quoted ++ ':' :: ' ' :: v.literal
  | (k, v) :: fields => k.quoted ++ ':' :: ' ' :: v.literal ++ ',' :: ' ' :: literalFields fields

end

/-- A value inside running text: a text as it is, anything else as its literal. -/
def display : Value → Text
  | text s => s
  | v => v.literal

/-- The name of the kind of a value. -/
def typeName : Value → String
  | null => "NoneType"
  | bool _ => "bool"
  | int _ => "int"
  | float _ => "float"
  | text _ => "str"
  | list _ => "list"
  | object _ => "dict"

/-- A value counts as true unless it is nothing, zero or empty. -/
def isTrue : Value → Bool
  | null => false
  | bool b => b
  | int n => n != 0
  | float x => !(x == 0)
  | text s => !s.isEmpty
  | list vs => !vs.isEmpty
  | object fields => !fields.isEmpty

end Value

end HtmlMarkdown

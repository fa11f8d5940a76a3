import ByteText.Decimal
import ByteText.Quoted

namespace ByteText

inductive Value
  | null
  | bool (value : Bool)
  | integer (value : Int)
  | floating (value : Float)
  | text (value : String)
  | sequence (items : List Value)
  | map (entries : List (String × Value))
deriving Inhabited

namespace Value

def ofNumeral (negative : Bool) (digits : Nat) (exponent? : Option Int) : Value :=
  let size (e : Int) := Float.ofScientific digits (e < 0) e.natAbs
  let signed (x : Float) : Value := .floating (if negative then -x else x)
  match exponent? with
  | some e => signed (size e)
  | none =>
    if negative then if 0 < digits && digits ≤ Nat.pow 2 63 then .integer (-digits) else signed (size 0)
    else if digits < Nat.pow 2 64 then .integer digits else signed (size 0)

def floatLayout : Decimal.Layout where
  lowest := -5
  highest := 15
  plus := "+"

def describe : Value → String
  | null => "null"
  | bool b => s!"boolean `{b}`"
  | integer n => s!"integer `{n}`"
  | floating x => s!"floating point `{Decimal.text floatLayout x}`"
  | text s => s!"string {Quoted.text s}"
  | sequence _ => "sequence"
  | map _ => "map"

end Value

end ByteText

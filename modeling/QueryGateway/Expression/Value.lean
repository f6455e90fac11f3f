import QueryGateway.Json.Printer
import QueryGateway.Supply

/-!
The values of expressions.

A value is a JSON value, an instant, or undefined when nothing stands where an
expression points.  It can be used as JSON, as an operand of a document query, or
as a piece of text.
-/

namespace QueryGateway

namespace Json

mutual
/-- The text of a value between other text: strings without quotes, arrays with
commas between their items, everything else as JSON. -/
def spliced : Json → String
  | .str s => s
  | .arr items => ",".intercalate (splicedItems items)
  | .null => "null"
  | .bool b => (Json.bool b).text
  | .num n => n.text
  | .obj fields => (Json.obj fields).text

/-- The spliced texts of the items of an array. -/
def splicedItems : List Json → List String
  | [] => []
  | item :: rest => item.spliced :: splicedItems rest
end

end Json

/-- The value of an expression. -/
inductive Value where
  | undefined
  | json (value : Json)
  | instant (value : Instant)
deriving Repr, Inhabited

namespace Value

/-- The value of something that may be missing. -/
def ofOption : Option Json → Value
  | some value => .json value
  | none => .undefined

/-- Whether there is no value, or the value is null. -/
def isNullish : Value → Bool
  | .undefined => true
  | .json v => v.isNull
  | .instant _ => false

/-- The value as plain JSON; an instant becomes a string. -/
def toJson : Value → Json
  | .undefined => .null
  | .json v => v
  | .instant t => .str t.text

/-- The value as an operand of a document query; an instant stays a date. -/
def toDocument : Value → Json
  | .instant t => .obj [("$date", .str t.text)]
  | v => v.toJson

/-- The value as a piece of text. -/
def text : Value → String
  | .undefined => ""
  | .json v => v.spliced
  | .instant t => t.text

end Value
end QueryGateway

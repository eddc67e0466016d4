/-! JSON values, and the reading of records from them. -/

namespace Intake

/-- A JSON value. Of a number that is not written as an integer only that much is kept. -/
inductive Json where
  | null
  | bool (value : Bool)
  | integer (value : Int)
  | fraction
  | string (text : String)
  | array (items : List Json)
  | object (fields : List (String × Json))

namespace Json

/-- The values of a record's named fields, in the order of the names. -/
def fields? (names : List String) : Json → Option (List Json)
  -- Fields of other names are passed over.
  | .object fields => names.mapM fun name => fields.lookup name
  -- A record may also be written as the array of exactly its values.
  | .array items => if items.length = names.length then some items else none
  | _ => none

end Json

/-- A type with a JSON form, and the values of it that JSON values write. -/
class JsonForm (α : Type) where
  toJson : α → Json
  ofJson? : Json → Option α

export JsonForm (toJson ofJson?)

end Intake

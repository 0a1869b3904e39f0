import SearchFilter.Fields
import SearchFilter.Query.Form

/-!
# The exchange form of field types

A type is exchanged by its name, and an array as an object that holds the type of its elements.
-/

namespace SearchFilter

namespace FieldType

/-- The exchange form of a type. -/
def toJson : FieldType → Json
  | .text => .string "text"
  | .number => .string "number"
  | .date => .string "date"
  | .bool => .string "bool"
  | .geoPoint => .string "geo_point"
  | .array element => .object [("array", element.toJson)]

/-- The type with a name, arrays aside. -/
def ofName? (name : String) : Option FieldType :=
  if name = "text" then some .text
  else if name = "number" then some .number
  else if name = "date" then some .date
  else if name = "bool" then some .bool
  else if name = "geo_point" then some .geoPoint
  else none

/-- Reads a type. An array may hold arrays in turn. -/
def ofJson? : Json → Option FieldType
  | .object [("array", element)] => (ofJson? element).map .array
  | json => json.name?.bind ofName?

end FieldType

namespace FieldContext

/-- The fields that an object declares, with their types. -/
def ofJson? (json : Json) : Option FieldContext := do
  let pairs ← (← json.object?).mapM fun entry => do return (entry.1, ← FieldType.ofJson? entry.2)
  return pairs.foldl (fun fields pair => fields.declare pair.1 pair.2) .empty

/-- The exchange form of all declarations, one member for each field. -/
def toJson (fields : FieldContext) : Json :=
  .object (fields.declared.map fun field => (field.1, field.2.toJson))

end FieldContext

end SearchFilter

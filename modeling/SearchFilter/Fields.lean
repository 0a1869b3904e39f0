import SearchFilter.Entries

/-!
# Declared field types

What the index knows about its fields. A field without a declaration is allowed every operator.
-/

namespace SearchFilter

/-- The type of a field. -/
inductive FieldType
  | text
  | number
  | date
  | bool
  | geoPoint
  | array (element : FieldType)
deriving DecidableEq, Inhabited

namespace FieldType

/-- Whether the values of the type are arrays. -/
def isArray : FieldType → Bool
  | .array _ => true
  | _ => false

/-- Every type but the arrays. -/
def isPrimitive (type : FieldType) : Bool := !type.isArray

/-- Points, and arrays of them at any depth. -/
def isGeo : FieldType → Bool
  | .geoPoint => true
  | .array element => element.isGeo
  | _ => false

end FieldType

/-- The declared fields by their full path. -/
structure FieldContext where
  declared : List (String × FieldType)
deriving Inhabited

namespace FieldContext

/-- No field is declared. -/
def empty : FieldContext := ⟨[]⟩

/-- Declares a field; an earlier declaration of the same path is replaced. -/
def declare (fields : FieldContext) (path : String) (type : FieldType) : FieldContext :=
  ⟨Entries.put path type fields.declared⟩

/-- The declared type of the field at a path. Paths are compared as texts; no part of one is looked
up by itself. -/
def type? (fields : FieldContext) (path : String) : Option FieldType :=
  Entries.find? path fields.declared

/-- Whether the field at a path is declared as an array. -/
def isArray (fields : FieldContext) (path : String) : Bool :=
  (fields.type? path).any FieldType.isArray

/-- Whether the field at a path is declared as a place, or as an array of places. -/
def isGeo (fields : FieldContext) (path : String) : Bool :=
  (fields.type? path).any FieldType.isGeo

end FieldContext

end SearchFilter

import SearchFilter.Document.Path
import SearchFilter.Json

/-!
# The values of a field

What a field holds in a document is the list of the values that its path leads to. Arrays are
transparent wherever they stand, and null is no value, so a field of nulls and empty arrays is
missing.
-/

namespace SearchFilter.Json

mutual

/-- The values that a path leads to, in document order. -/
def leaves : Json → List String → List Json
  | .array items, path => leavesOfItems items path
  | .null, _ => []
  | .object entries, head :: rest => leavesOfMember entries head rest
  | _, _ :: _ => []
  | json, [] => [json]

/-- The values from all items of an array. -/
def leavesOfItems : List Json → List String → List Json
  | [], _ => []
  | item :: items, path => leaves item path ++ leavesOfItems items path

/-- The values from the member of an object under a key. -/
def leavesOfMember : List (String × Json) → String → List String → List Json
  | [], _, _ => []
  | (name, value) :: entries, head, rest =>
    if name = head then leaves value rest else leavesOfMember entries head rest

end

end SearchFilter.Json

import SearchFilter.Document.Path
import SearchFilter.Binary64.Decimal
import SearchFilter.Query
import SearchFilter.Text.CharacterClass

/-!
# The places of a field

A place in a document is an object with `lat` and `lon`, a pair of longitude and latitude, or a text
with latitude and longitude around a comma. An array that is no pair of numbers is a list of places.
-/

namespace SearchFilter.Json

/-- The place that a text spells. -/
def placeOfText? (text : List Char) : Option GeoPoint :=
  match text.dropWhile fun c => c ≠ ',' with
  | [] => none
  | _ :: afterComma => do
    let lat ← Binary64.ofText? (Text.trim (text.takeWhile fun c => c ≠ ','))
    let lon ← Binary64.ofText? (Text.trim afterComma)
    return ⟨lat, lon⟩

/-- The place that a value stands for. -/
def place? : Json → Option GeoPoint
  | .object entries => do
    let lat ← Entries.find? "lat" entries
    let lon ← Entries.find? "lon" entries
    return ⟨← lat.binary64?, ← lon.binary64?⟩
  | .array [lon, lat] => do return ⟨← lat.binary64?, ← lon.binary64?⟩
  | .string text => placeOfText? text.toList
  | _ => none

mutual

/-- The places that a path leads to, in document order. -/
def places : Json → List String → List GeoPoint
  | .array items, [] =>
    match Json.place? (.array items) with
    | some place => [place]
    | none => placesOfItems items []
  | json, [] => json.place?.toList
  | .array items, head :: rest => placesOfItems items (head :: rest)
  | .object entries, head :: rest => placesOfMember entries head rest
  | _, _ :: _ => []

/-- The places from all items of an array. -/
def placesOfItems : List Json → List String → List GeoPoint
  | [], _ => []
  | item :: items, path => places item path ++ placesOfItems items path

/-- The places from the member of an object under a key. -/
def placesOfMember : List (String × Json) → String → List String → List GeoPoint
  | [], _, _ => []
  | (name, value) :: entries, head, rest =>
    if name = head then places value rest else placesOfMember entries head rest

end

end SearchFilter.Json

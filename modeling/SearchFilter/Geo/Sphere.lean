import SearchFilter.Query

/-!
# Distances on the globe

The length of the shortest way between two places on a sphere of the earth's mean radius, by the
haversine formula in machine arithmetic.
-/

namespace SearchFilter.Geo

/-- The mean radius of the earth in meters. -/
def earthRadius : Float := 6371008.8

/-- The length of a degree in radians. -/
def radiansPerDegree : Float := 3.14159265358979323846 / 180.0

/-- An angle in degrees as the formula takes it. -/
def radians (degrees : Float) : Float := degrees * radiansPerDegree

/-- The square of the sine of half an angle. -/
def haversine (angle : Float) : Float :=
  let sine := (angle / 2.0).sin
  sine * sine

/-- The distance between two places in meters. -/
def distance (origin place : GeoPoint) : Binary64 :=
  let latitude := origin.lat.toFloat
  let otherLatitude := place.lat.toFloat
  let share :=
    haversine (radians (otherLatitude - latitude)) +
      (radians latitude).cos * (radians otherLatitude).cos *
        haversine (radians (place.lon.toFloat - origin.lon.toFloat))
  .ofFloat (earthRadius * (2.0 * share.sqrt.asin))

end SearchFilter.Geo

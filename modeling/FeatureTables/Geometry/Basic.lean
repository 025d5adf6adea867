import FeatureTables.Binary64

namespace FeatureTables

structure Dimensions where
  elevation : Bool
  measure : Bool
  deriving DecidableEq, Repr

structure Vertex where
  x : Binary64
  y : Binary64
  further : List Binary64
  deriving DecidableEq, Repr

def Vertex.coincides (a b : Vertex) : Bool := a.x.equal b.x && a.y.equal b.y

abbrev Ring := List Vertex

inductive MultiKind where
  | points
  | lineStrings
  | polygons
  | mixed
  deriving DecidableEq, Repr

inductive CurveKind where
  | circularString
  | compoundCurve
  | curvePolygon
  | multiCurve
  | multiSurface
  deriving DecidableEq, Repr

-- A polygon's first ring is its shell; an empty polygon has no ring at all. Of a
-- geometry with curved edges nothing is kept but what it is.
inductive Geometry where
  | point (dimensions : Dimensions) (vertex? : Option Vertex)
  | lineString (dimensions : Dimensions) (vertices : List Vertex)
  | polygon (dimensions : Dimensions) (rings : List Ring)
  | multi (kind : MultiKind) (parts : List Geometry)
  | curved (kind : CurveKind) (dimensions : Dimensions)

namespace Geometry

def typeName : Geometry → String
  | point .. => "Point"
  | lineString .. => "LineString"
  | polygon .. => "Polygon"
  | multi .points _ => "MultiPoint"
  | multi .lineStrings _ => "MultiLineString"
  | multi .polygons _ => "MultiPolygon"
  | multi .mixed _ => "GeometryCollection"
  | curved .circularString _ => "CircularString"
  | curved .compoundCurve _ => "CompoundCurve"
  | curved .curvePolygon _ => "CurvePolygon"
  | curved .multiCurve _ => "MultiCurve"
  | curved .multiSurface _ => "MultiSurface"

def isCurved : Geometry → Bool
  | curved .. => true
  | _ => false

mutual

def dimensions : Geometry → Dimensions
  | point dimensions _ | lineString dimensions _ | polygon dimensions _ => dimensions
  | curved _ dimensions => dimensions
  | multi _ parts => partDimensions parts

def partDimensions : List Geometry → Dimensions
  | [] => ⟨false, false⟩
  | part :: rest =>
    let first := dimensions part
    let others := partDimensions rest
    ⟨first.elevation || others.elevation, first.measure || others.measure⟩

end

end Geometry

structure PlacedGeometry where
  srid : Int
  geometry : Geometry

end FeatureTables

import FeatureTables.Geometry.Basic

namespace FeatureTables

structure Box where
  minX : Binary64
  minY : Binary64
  maxX : Binary64
  maxY : Binary64
  deriving DecidableEq, Repr

namespace Box

def empty : Box := ⟨.nan, .nan, .nan, .nan⟩

def ofVertex (v : Vertex) : Box := ⟨v.x, v.y, v.x, v.y⟩

def merge (soFar next : Box) : Box :=
  ⟨soFar.minX.lesser next.minX, soFar.minY.lesser next.minY,
    soFar.maxX.greater next.maxX, soFar.maxY.greater next.maxY⟩

def ofRing : Ring → Box
  | [] => empty
  | first :: rest => rest.foldl (fun box v => box.merge (ofVertex v)) (ofVertex first)

def ofRings (rings : List Ring) : Box := ofRing (rings.head?.getD [])

end Box

end FeatureTables

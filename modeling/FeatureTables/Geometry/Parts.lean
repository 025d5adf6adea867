import FeatureTables.Fault
import FeatureTables.Geometry.Basic

namespace FeatureTables

-- A collection may hold curved geometries and is a geometry like any other until its
-- parts are taken; a curved part can not be handed out.
def Geometry.parts : Geometry → Except Fault (List Geometry)
  | .multi _ parts => if parts.any Geometry.isCurved then .error .nonlinear else .ok parts
  | _ => .ok []

end FeatureTables

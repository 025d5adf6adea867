import FeatureTables.Connection.Request

namespace FeatureTables

-- A connection that answers from prepared lists, one entry for each request of a kind,
-- and with a harmless answer when a list has run out.
structure Script where
  settings : Settings
  executions : List (Except Failure ResultSet)
  tables : List (Except Failure Bool)
  indexes : List (Except Failure (List (Option String)))

namespace Script

def answer : (request : Request) → Script → request.Answer × Script
  | .execute .., s => (s.executions.headD (.ok .nothing), { s with executions := s.executions.tail })
  | .close, s => ((), s)
  | .commit, s => (s.settings.commit, s)
  | .options, s => (s.settings.options, s)
  | .isolation, s => (s.settings.isolation, s)
  | .hasTable .., s => (s.tables.headD (.ok false), { s with tables := s.tables.tail })
  | .indexNames .., s => (s.indexes.headD (.ok []), { s with indexes := s.indexes.tail })

def connection : Connection Script := ⟨answer⟩

end Script

end FeatureTables

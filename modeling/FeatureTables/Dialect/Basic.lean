import FeatureTables.Crs

namespace FeatureTables

-- Apache Phoenix keeps geometries as plain binary columns and needs a catalog for their
-- types; the standard backend has spatial functions of its own.
inductive Backend where
  | phoenix
  | standard
  deriving DecidableEq, Repr

structure Dialect where
  backend : Backend
  quote : String
  immutableRows : Bool
  indexSuffix : String
  catalogTable : String
  registry : Crs.Registry
  schemaForIndex : Bool
  paging : Bool

namespace Dialect

def defaultIndexSuffix : String := "_idx"

def suffixFrom (given? surrounding? : Option String) : String :=
  given?.getD (surrounding?.getD defaultIndexSuffix)

def defaultCatalogTable : String := "geometry_columns"

def phoenix : Dialect where
  backend := .phoenix
  quote := ""
  immutableRows := true
  indexSuffix := defaultIndexSuffix
  catalogTable := defaultCatalogTable
  registry := .standard
  schemaForIndex := true
  paging := true

def standard : Dialect where
  backend := .standard
  quote := "\""
  immutableRows := true
  indexSuffix := defaultIndexSuffix
  catalogTable := defaultCatalogTable
  registry := .standard
  schemaForIndex := false
  paging := false

def ofBackend : Backend → Dialect
  | .phoenix => phoenix
  | .standard => standard

def looksUpGenerated (d : Dialect) : Bool := d.backend = .phoenix

def indexName (d : Dialect) (column : String) : String := column ++ d.indexSuffix

end Dialect

end FeatureTables

import BulkDml.ColumnType
import BulkDml.Error

namespace BulkDml

structure Column where
  field : String
  name : String
  type : ColumnType
  isKey : Bool
deriving DecidableEq, Inhabited

structure TableRef where
  schema : Option String
  name : String
deriving DecidableEq, Inhabited

structure MappingDraft where
  schema : Option String
  table : String
  columns : List Column
deriving DecidableEq

namespace MappingDraft

def new (table : String) : MappingDraft := ⟨none, table, []⟩

def withSchema (d : MappingDraft) (schema : String) : MappingDraft :=
  { d with schema := some schema }

def push (d : MappingDraft) (c : Column) : MappingDraft := { d with columns := d.columns ++ [c] }

def column (d : MappingDraft) (field : String) (type : ColumnType) : MappingDraft :=
  d.push ⟨field, field, type, false⟩

def columnNamed (d : MappingDraft) (field name : String) (type : ColumnType) : MappingDraft :=
  d.push ⟨field, name, type, false⟩

def key (d : MappingDraft) (field : String) (type : ColumnType) : MappingDraft :=
  d.push ⟨field, field, type, true⟩

def keyNamed (d : MappingDraft) (field name : String) (type : ColumnType) : MappingDraft :=
  d.push ⟨field, name, type, true⟩

/-- The first fault among the columns, given those before them: an empty name, then a field and
then a column that is already taken. -/
def columnFault? (table : String) : List Column → List Column → Option Error
  | _, [] => none
  | before, c :: rest =>
    if c.field = "" ∨ c.name = "" then some (.emptyColumnName table)
    else if c.field ∈ before.map Column.field then some (.fieldMappedTwice c.field table)
    else if c.name ∈ before.map Column.name then some (.columnMappedTwice c.name table)
    else columnFault? table (before ++ [c]) rest

def fault? (d : MappingDraft) : Option Error :=
  if d.table = "" then some .emptyTableName
  else if d.columns = [] then some (.noColumns d.table)
  else columnFault? d.table [] d.columns

end MappingDraft

structure Mapping where
  draft : MappingDraft
  sound : draft.fault? = none

namespace MappingDraft

def build (d : MappingDraft) : Except Error Mapping :=
  match h : d.fault? with
  | none => .ok ⟨d, h⟩
  | some e => .error e

end MappingDraft

namespace Mapping

def schema (m : Mapping) : Option String := m.draft.schema

def table (m : Mapping) : String := m.draft.table

def columns (m : Mapping) : List Column := m.draft.columns

def tableRef (m : Mapping) : TableRef := ⟨m.schema, m.table⟩

def column? (m : Mapping) (field : String) : Option Column :=
  m.columns.find? (·.field == field)

def position? (m : Mapping) (field : String) : Option Nat :=
  m.columns.findIdx? (·.field == field)

def resolve (m : Mapping) (field : String) : Except Error (Nat × Column) :=
  match m.columns.zipIdx.find? (·.1.field == field) with
  | some (column, position) => .ok (position, column)
  | none => .error (.unmappedField field m.table)

def resolveColumn (m : Mapping) (field : String) : Except Error Column :=
  (m.resolve field).map Prod.snd

def keyColumns (m : Mapping) : List Column := m.columns.filter (·.isKey)

def hasKey (m : Mapping) : Bool := m.columns.any (·.isKey)

end Mapping

end BulkDml

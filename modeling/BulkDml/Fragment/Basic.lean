import BulkDml.Value.Basic

namespace BulkDml

inductive Segment where
  | sql (text : String)
  | param (value : Value)
deriving DecidableEq

namespace Segment

def same : Segment → Segment → Bool
  | sql s, sql t => s == t
  | param v, param w => v.same w
  | _, _ => false

def isParam : Segment → Bool
  | param _ => true
  | sql _ => false

end Segment

/-- Statement text with holes for parameters. Markers are numbered only when the whole statement is
rendered, so that parameters are counted in text order whatever was compiled first. -/
structure Fragment where
  segments : List Segment
deriving DecidableEq, Inhabited

structure Statement where
  sql : String
  params : List Value
deriving DecidableEq, Inhabited

namespace Fragment

def empty : Fragment := ⟨[]⟩

def addText (text : String) : List Segment → List Segment
  | [] => [.sql text]
  | [.sql last] => [.sql (last ++ text)]
  | s :: rest => s :: addText text rest

def pushSql (f : Fragment) (text : String) : Fragment :=
  if text = "" then f else ⟨addText text f.segments⟩

def pushParam (f : Fragment) (value : Value) : Fragment := ⟨f.segments ++ [.param value]⟩

def push (f : Fragment) : Segment → Fragment
  | .sql text => f.pushSql text
  | .param value => f.pushParam value

def sql (text : String) : Fragment := empty.pushSql text

def param (value : Value) : Fragment := empty.pushParam value

def append (f g : Fragment) : Fragment := g.segments.foldl push f

instance : Append Fragment := ⟨append⟩

def join (separator : String) : List Fragment → Fragment
  | [] => empty
  | first :: rest => rest.foldl (fun out part => out.pushSql separator ++ part) (empty ++ first)

def parenthesized (f : Fragment) : Fragment := (sql "(" ++ f).pushSql ")"

def isEmpty (f : Fragment) : Bool := f.segments.isEmpty

def paramCount (f : Fragment) : Nat := f.segments.countP Segment.isParam

def params (f : Fragment) : List Value :=
  f.segments.filterMap fun
    | .param v => some v
    | .sql _ => none

def same (f g : Fragment) : Bool := sameSegments f.segments g.segments
where
  sameSegments : List Segment → List Segment → Bool
    | [], [] => true
    | s :: rest, t :: rest' => s.same t && sameSegments rest rest'
    | _, _ => false

def renderText (marker : Nat → String) : Nat → List Segment → String
  | _, [] => ""
  | next, .sql text :: rest => text ++ renderText marker next rest
  | next, .param _ :: rest => marker next ++ renderText marker (next + 1) rest

def render (marker : Nat → String) (f : Fragment) : Statement :=
  ⟨renderText marker 0 f.segments, f.params⟩

end Fragment

end BulkDml

import SceneGraph.Markup.Element
import SceneGraph.Parameter.Table
import SceneGraph.Version

/-!
# What the root element says about the whole description

The root element states the version of the format, and its default children define the
parameters, wherever they stand among the other children.
-/

namespace SceneGraph

open Markup

/-- The version of a description that can be loaded. -/
def readVersion (root : Element) : Except Problem Version :=
  if root.tag ≠ "scene" then .error (.unexpectedElement root.tag root.location)
  else
    match root.attribute? "version" with
    | none => .error (.malformed root.location .noVersion)
    | some raw =>
      match Version.read raw with
      | none => .error (.malformed root.location (.badVersion raw))
      | some v =>
        if v.isSupported then .ok v else .error (.unsupportedVersion root.location raw)

namespace Parameter.Table

/-- Adds the parameter that a default element defines. -/
def defineElement (t : Table) (e : Element) : Reply :=
  match e.attribute? "name", e.attribute? "value" with
  | some name, some value => t.define name value e.location
  | _, _ => .refused (.malformed e.location .incompleteDefault) t

/-- Makes one call after another, each on the table that the one before it leaves, and gathers
the problems of those that are refused. -/
def applyAll {α : Type} (change : Table → α → Reply) (t : Table) : List α → Table × List Problem
  | [] => (t, [])
  | a :: as =>
    match change t a with
    | .accepted t' => applyAll change t' as
    | .refused p t' =>
      let (t'', problems) := applyAll change t' as
      (t'', p :: problems)

/-- The parameters that the default children of a root element define. -/
def ofRoot (root : Element) : Table × List Problem :=
  applyAll defineElement empty (root.children.filter (·.tag = "default"))

/-- Applies overrides, given as names and values, in order. -/
def overrideAll (t : Table) (overrides : List (String × String)) : Table × List Problem :=
  applyAll (fun t o => t.override o.1 o.2) t overrides

end Parameter.Table

end SceneGraph

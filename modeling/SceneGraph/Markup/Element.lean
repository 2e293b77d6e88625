import SceneGraph.Location

/-!
# Element trees

The part of XML that a scene description uses: elements with attributes, in the order in
which they are written, each with the position of its `<`.
-/

namespace SceneGraph.Markup

structure Element where
  tag : String
  attributes : List (String × String)
  children : List Element
  location : Location
deriving Inhabited

namespace Element

/-- The value of the first attribute with a name. -/
def attribute? (e : Element) (name : String) : Option String :=
  (e.attributes.find? (·.1 = name)).map (·.2)

def hasAttribute (e : Element) (name : String) : Bool := (e.attribute? name).isSome

end Element

end SceneGraph.Markup

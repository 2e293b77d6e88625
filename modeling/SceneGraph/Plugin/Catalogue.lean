import SceneGraph.Plugin.Body
import SceneGraph.Plugin.Material
import SceneGraph.Plugin.View

/-!
# The plugins that a description can use
-/

namespace SceneGraph.Plugin

def catalogue : List Plugin := viewPlugins ++ materialPlugins ++ bodyPlugins

/-- The plugin for the nodes of a kind and type. -/
def find? (kind : NodeKind) (type : String) : Option Plugin :=
  catalogue.find? fun p => p.kind = kind && p.type = type

/-- What holds of all plugins in the lists holds of every plugin that is found. -/
theorem forall_of_find? {P : Plugin → Prop} (hview : ∀ p ∈ viewPlugins, P p)
    (hmaterial : ∀ p ∈ materialPlugins, P p) (hbody : ∀ p ∈ bodyPlugins, P p)
    {kind : NodeKind} {type : String} {p : Plugin} (h : find? kind type = some p) : P p := by
  have hp : p ∈ catalogue := List.mem_of_find?_eq_some h
  rw [catalogue, List.mem_append, List.mem_append] at hp
  rcases hp with (hp | hp) | hp
  · exact hview p hp
  · exact hmaterial p hp
  · exact hbody p hp

end SceneGraph.Plugin

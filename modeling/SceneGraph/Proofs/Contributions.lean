import SceneGraph.Scene.Assembly

/-!
# What each root contributes

A root adds to at most one part of a scene, and what it adds depends on its object alone, except
that only the first integrator counts.  So the parts of a scene are read off the list of roots
(`addAll_eq`).
-/

namespace SceneGraph

namespace Instantiation.Root

open Assembly

def integrator? (root : Root) : Option Integrator :=
  match root.object with
  | .integrator i => some i
  | _ => none

def sensor? (root : Root) : Option Sensor :=
  match root.object with
  | .sensor d => (sensor d).value?
  | _ => none

/-- An area emitter is nothing without a shape. -/
def emitter? (root : Root) : Option Emitter :=
  match root.object with
  | .emitter e => if e.kind.isArea then none else some e
  | _ => none

def shape? (root : Root) : Option Shape :=
  match root.object with
  | .shape d => (shape d).value?
  | _ => none

variable {root : Root}

theorem integrator?_eq_some {i : Integrator} :
    root.integrator? = some i ↔ root.object = .integrator i := by
  unfold integrator?
  cases root.object <;> simp

theorem sensor?_eq_some {s : Sensor} : root.sensor? = some s ↔
    ∃ d, root.object = .sensor d ∧ (sensor d).value? = some s := by
  unfold sensor?
  cases root.object <;> simp

theorem emitter?_eq_some {e : Emitter} : root.emitter? = some e ↔
    root.object = .emitter e ∧ e.kind.isArea = false := by
  unfold emitter?
  cases root.object with
  | emitter e' =>
    by_cases harea : e'.kind.isArea = true
    · simp only [harea, if_true, Object.emitter.injEq]
      refine iff_of_false (fun h => nomatch h) ?_
      rintro ⟨rfl, hnone⟩
      rw [harea] at hnone
      cases hnone
    · simp only [harea, Bool.false_eq_true, if_false, Option.some_inj, Object.emitter.injEq]
      refine ⟨?_, And.left⟩
      rintro rfl
      exact ⟨rfl, Bool.eq_false_iff.mpr harea⟩
  | _ => simp

theorem shape?_eq_some {s : Shape} : root.shape? = some s ↔
    ∃ d, root.object = .shape d ∧ (shape d).value? = some s := by
  unfold shape?
  cases root.object <;> simp

end Instantiation.Root

namespace Assembly.Parts

open Instantiation (Root)

theorem add_eq (parts : Parts) (root : Root) : (parts.add root).1 =
    ⟨parts.integrator.or root.integrator?, parts.sensors ++ root.sensor?.toList,
      parts.emitters ++ root.emitter?.toList, parts.shapes ++ root.shape?.toList⟩ := by
  obtain ⟨integrator, sensors, emitters, shapes⟩ := parts
  unfold add Root.integrator? Root.sensor? Root.emitter? Root.shape?
  cases root.object with
  | integrator i => cases integrator <;> simp
  | emitter e => by_cases harea : e.kind.isArea = true <;> simp [harea]
  | _ => simp [named]

theorem addAll_eq (roots : List Root) : ∀ parts : Parts, (parts.addAll roots).1 =
    ⟨parts.integrator.or (roots.findSome? Root.integrator?),
      parts.sensors ++ roots.filterMap Root.sensor?,
      parts.emitters ++ roots.filterMap Root.emitter?,
      parts.shapes ++ roots.filterMap Root.shape?⟩ := by
  induction roots with
  | nil => simp [addAll]
  | cons root roots ih =>
    intro parts
    have hadd : (parts.addAll (root :: roots)).1 = ((parts.add root).1.addAll roots).1 := rfl
    rw [hadd, ih, add_eq]
    have hfirst : ∀ {α : Type} (f : Root → Option α),
        (root :: roots).filterMap f = (f root).toList ++ roots.filterMap f := by
      intro α f
      rw [List.filterMap_cons]
      cases f root <;> rfl
    simp only [hfirst, List.append_assoc, List.findSome?_cons]
    congr 1
    cases parts.integrator <;> cases root.integrator? <;> rfl

end Assembly.Parts

end SceneGraph

import SceneGraph.Load
import SceneGraph.Proofs.Validity

/-!
# What a load that succeeds went through

A load is a sequence of stages, each of which can end it.  `Load.root_ok_iff` says once what it
takes to come through all of them: the root states a version, and neither the parameters nor
the nodes nor the building of their objects leaves a problem.
-/

namespace SceneGraph

/-- A result that passes a test is there. -/
theorem exists_of_any {ε α : Type} {r : Except ε α} {p : α → Bool}
    (h : r.toOption.any p = true) : ∃ a, r = .ok a ∧ p a = true := by
  cases r with
  | ok a => exact ⟨a, rfl, h⟩
  | error e => cases h

theorem exists_of_isSome {ε α : Type} {r : Except ε α} (h : r.toOption.isSome = true) :
    ∃ a, r = .ok a := by
  cases r with
  | ok a => exact ⟨a, rfl⟩
  | error e => cases h

/-- A failure that passes a test is there. -/
theorem exists_error_of_elim {ε α : Type} {r : Except ε α} {p : ε → Bool}
    (h : r.casesOn p (fun _ => false) = true) : ∃ e, r = .error e ∧ p e = true := by
  cases r with
  | ok a => cases h
  | error e => exact ⟨e, rfl, h⟩

namespace Load

open Markup

/-- The parameters of a description with their final values. -/
def parameters (options : Options) (root : Element) : Parameter.Table :=
  ((Parameter.Table.ofRoot root).1.overrideAll options.overrides).1

/-- The nodes of a description, with the problems that reading them meets. -/
def forest (options : Options) (root : Element) : Node.Progress (List Node) :=
  Node.readForest (parameters options root) 0 root.children

/-- Every stage is passed without a problem, and `scene` is what they lead to. -/
structure Succeeds (options : Options) (root : Element) (scene : Scene) : Prop where
  defaults : (Parameter.Table.ofRoot root).2 = []
  overrides : ((Parameter.Table.ofRoot root).1.overrideAll options.overrides).2 = []
  nodes : (forest options root).problems = []
  objects : Finding.problems options.strict (Instantiation.run (forest options root).value).2 = []
  scene : ∃ version, readVersion root = .ok version ∧
    Assembly.assemble version (parameters options root)
      (Instantiation.run (forest options root).value).1 = .ok scene

theorem nodes_ok_iff {options : Options} {root : Element} {version : Version} {scene : Scene} :
    (nodes options version (parameters options root) root).result = .ok scene ↔
      (forest options root).problems = [] ∧
      Finding.problems options.strict (Instantiation.run (forest options root).value).2 = [] ∧
      Assembly.assemble version (parameters options root)
        (Instantiation.run (forest options root).value).1 = .ok scene := by
  rw [nodes]
  dsimp only
  rw [← forest]
  split
  · next hempty =>
    obtain ⟨hnodes, hobjects⟩ := List.append_eq_nil_iff.mp (List.isEmpty_iff.mp hempty)
    split
    · next scene' hscene =>
      rw [hscene]
      exact ⟨fun h => ⟨hnodes, hobjects, h⟩, fun h => h.2.2⟩
    · next hproblems =>
      rw [hproblems]
      exact ⟨fun h => (by cases h), fun h => (by cases h.2.2)⟩
  · next hempty =>
    refine ⟨fun h => (by cases h), fun h => absurd ?_ hempty⟩
    rw [List.isEmpty_iff, h.1, h.2.1]
    rfl

theorem root_ok_iff {options : Options} {root : Element} {scene : Scene} :
    (Load.root options root).result = .ok scene ↔ Succeeds options root scene := by
  rw [Load.root]
  split
  · next hversion =>
    refine ⟨fun h => (by cases h), fun h => ?_⟩
    obtain ⟨version, hread, -⟩ := h.scene
    rw [hversion] at hread
    cases hread
  · next version hversion =>
    dsimp only
    split
    · next hempty =>
      obtain ⟨hdefaults, hoverrides⟩ := List.append_eq_nil_iff.mp (List.isEmpty_iff.mp hempty)
      refine nodes_ok_iff.trans ⟨fun h => ?_, fun h => ⟨h.nodes, h.objects, ?_⟩⟩
      · exact ⟨hdefaults, hoverrides, h.1, h.2.1, version, hversion, h.2.2⟩
      · obtain ⟨version', hread, hscene⟩ := h.scene
        obtain rfl : version = version' := Except.ok.inj (hversion.symm.trans hread)
        exact hscene
    · next hempty =>
      refine ⟨fun h => (by cases h), fun h => absurd ?_ hempty⟩
      rw [List.isEmpty_iff, h.defaults, h.overrides]
      rfl

theorem text_of_read {options : Options} {source : String} {root : Element}
    (h : read source = .ok root) : text options source = Load.root options root := by
  rw [text, h]

theorem text_ok_iff {options : Options} {source : String} {scene : Scene} :
    (text options source).result = .ok scene ↔
      ∃ root, read source = .ok root ∧ Succeeds options root scene := by
  rw [text]
  split
  · next hread =>
    refine ⟨fun h => (by cases h), ?_⟩
    rintro ⟨root, hroot, -⟩
    rw [hread] at hroot
    cases hroot
  · next root hread =>
    rw [root_ok_iff]
    refine ⟨fun h => ⟨root, hread, h⟩, ?_⟩
    rintro ⟨root', hroot, h⟩
    rwa [Except.ok.inj (hread.symm.trans hroot)]

end Load

end SceneGraph

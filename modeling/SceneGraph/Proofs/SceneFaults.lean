import SceneGraph.Proofs.Validity

/-!
# What is wrong with a scene as a whole

A scene is refused because it lacks a sensor or a shape, or for a rule that the node of a root
breaks, or one of the nodes that the root's object was made of (`assemble_error`).
-/

namespace SceneGraph

/-- The nodes that an object can be blamed for. -/
def Object.cited : Object → List NodeRef
  | sensor d => d.node :: (d.samplers.map (·.node) ++ d.films.map (·.node))
  | sampler d => [d.node]
  | film d => [d.node]
  | shape d => [d.node]
  | _ => []

namespace Assembly

open Instantiation (Root)

/-- One of the nodes breaks a rule. -/
def BrokenBy (nodes : List NodeRef) (p : Problem) : Prop :=
  ∃ r ∈ nodes, ∃ rule, p = .violation r rule

theorem cited_of_mem_samplers {root : Root} {d : SamplerDraft} (h : d ∈ root.samplers) :
    d.node ∈ root.object.cited := by
  unfold Root.samplers at h
  split at h
  · next s hobject => simpa [hobject, Object.cited] using .inr (.inl ⟨d, h, rfl⟩)
  · next s hobject =>
    split at h
    · simp [hobject, Object.cited, List.mem_singleton.mp h]
    · cases h
  · cases h

theorem cited_of_mem_films {root : Root} {d : FilmDraft} (h : d ∈ root.films) :
    d.node ∈ root.object.cited := by
  unfold Root.films at h
  split at h
  · next s hobject => simpa [hobject, Object.cited] using .inr (.inr ⟨d, h, rfl⟩)
  · next s hobject =>
    split at h
    · simp [hobject, Object.cited, List.mem_singleton.mp h]
    · cases h
  · cases h

/-- A root is blamed for its node and for what its object cites. -/
theorem brokenBy_of_breaks {root : Root} {p : Problem} (h : root.Breaks p) :
    BrokenBy (root.node :: root.object.cited) p := by
  have hcited : ∀ {node : NodeRef} {rule : Violation}, node ∈ root.object.cited →
      BrokenBy (root.node :: root.object.cited) (.violation node rule) :=
    fun hnode => ⟨_, List.mem_cons_of_mem _ hnode, _, rfl⟩
  have hsensor : ∀ {d : SensorDraft}, root.object = .sensor d → d.node ∈ root.object.cited :=
    fun hd => hd ▸ List.mem_cons_self
  have hshape : ∀ {d : ShapeDraft}, root.object = .shape d → d.node ∈ root.object.cited :=
    fun hd => hd ▸ List.mem_cons_self
  cases h with
  | samplerCount hd _ => exact hcited (hsensor hd)
  | filmCount hd _ => exact hcited (hsensor hd)
  | sampleCount hd _ => exact hcited (cited_of_mem_samplers hd)
  | seed hd _ => exact hcited (cited_of_mem_samplers hd)
  | width hd _ => exact hcited (cited_of_mem_films hd)
  | height hd _ => exact hcited (cited_of_mem_films hd)
  | unowned _ _ => exact ⟨_, List.mem_cons_self, _, rfl⟩
  | unattached _ _ => exact ⟨_, List.mem_cons_self, _, rfl⟩
  | noBsdf hd _ => exact hcited (hshape hd)
  | bsdfs hd _ => exact hcited (hshape hd)
  | emitterKind hd _ _ => exact hcited (hshape hd)
  | emitters hd _ => exact hcited (hshape hd)

/-- A scene is refused for a rule that one of its nodes breaks, or because it lacks a sensor or a
shape. -/
theorem assemble_error {version : Version} {table : Parameter.Table} {inst : Instantiation}
    {problems : List Problem} (h : assemble version table inst = .error problems) :
    problems ≠ [] ∧ ∀ p ∈ problems,
      (∃ root ∈ inst.roots, BrokenBy (root.node :: root.object.cited) p) ∨
        p = .sceneViolation .noSensor ∨ p = .sceneViolation .noShape := by
  obtain ⟨hne, rfl⟩ := assemble_refused h
  refine ⟨hne, fun p hp => ?_⟩
  cases mem_problems.mp hp with
  | noSensor _ => exact .inr (.inl rfl)
  | noShape _ => exact .inr (.inr rfl)
  | @integrator q r hqr _ _ =>
    exact .inl ⟨r, hqr.subset (by simp), _, List.mem_cons_self, _, rfl⟩
  | root hr hp => exact .inl ⟨_, hr, brokenBy_of_breaks hp⟩

end Assembly

end SceneGraph

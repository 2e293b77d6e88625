import SceneGraph.Proofs.FinalValues
import SceneGraph.Proofs.Origins
import SceneGraph.Proofs.Declaration

/-!
# Problems that name elements

A problem names the positions of elements, and some problems name the node that they are about
(`Problem.Traced`).  Shown here for what is reported before building starts:

    reading      faults of elements                            (traced_of_fault)
    defaults     the element, and the first one of its name    (ofRoot_traced)
    overrides    no position                                   (overrideAll_traced)
    declaring    the node, and the first one of its id         (declared_problems)
-/

namespace SceneGraph

open Markup

/-! ## Definitions -/

namespace Problem

/-- All positions that a problem names. -/
def places : Problem → List Location
  | notWellFormed l _ | unsupportedVersion l _ | malformed l _ | typeMismatch l _ _ _
  | undefinedParameter _ l | unknownType _ _ l | unexpectedElement _ l | meshNotLoaded _ l _ => [l]
  | unresolvedReference _ l .undeclared => [l]
  | unresolvedReference _ l (.unfinished _ declared) => [l, declared]
  | duplicateId _ first second | duplicateDefault _ first second => [first, second]
  | missingProperty node _ | violation node _ => [node.location]
  | unreadable _ _ | unknownParameter _ | duplicateOverride _ | nestedParameter _ _
  | sceneViolation _ => []

/-- The node that a problem is about, where it tells which. -/
def node? : Problem → Option NodeRef
  | missingProperty node _ | violation node _ => some node
  | _ => none

/-- Every position that a problem names is that of one of the elements `es`, and the node that it
is about is one of them.  It is not the problem of a load that has none to show. -/
structure Traced (params : Parameter.Table) (es : List Element) (p : Problem) : Prop where
  places : ∀ l ∈ p.places, ∃ e ∈ es, e.location = l
  node : ∀ r, p.node? = some r → ∃ e ∈ es, r.Names params e
  explained : p ≠ .sceneViolation .unexplained

end Problem

/-- The same of what building finds, however strictly it is judged. -/
def Finding.Traced (params : Parameter.Table) (es : List Element) : Finding → Prop
  | problem p => p.Traced params es
  | unused u => u.problem.Traced params es

variable {params : Parameter.Table} {es : List Element}

namespace Problem

theorem Traced.mono {fs : List Element} {p : Problem} (h : p.Traced params es) (hsub : es ⊆ fs) :
    p.Traced params fs := by
  refine ⟨fun l hl => ?_, fun r hr => ?_, h.explained⟩
  · obtain ⟨e, he, hlocation⟩ := h.places l hl
    exact ⟨e, hsub he, hlocation⟩
  · obtain ⟨e, he, hnames⟩ := h.node r hr
    exact ⟨e, hsub he, hnames⟩

/-- A problem that names positions, but no node. -/
theorem traced_of_places {p : Problem} (hplaces : ∀ l ∈ p.places, ∃ e ∈ es, e.location = l)
    (hnode : p.node? = none) (hexplained : p ≠ .sceneViolation .unexplained) :
    p.Traced params es := by
  refine ⟨hplaces, fun r hr => ?_, hexplained⟩
  rw [hnode] at hr
  cases hr

theorem traced_of_place {p : Problem} {l : Location} (hplaces : p.places = [l])
    (hl : ∃ e ∈ es, e.location = l) (hnode : p.node? = none)
    (hexplained : p ≠ .sceneViolation .unexplained) : p.Traced params es := by
  refine traced_of_places (fun m hm => ?_) hnode hexplained
  rw [hplaces] at hm
  rw [List.mem_singleton.mp hm]
  exact hl

/-- A problem about a node, at its position. -/
theorem traced_of_node {r : NodeRef} (h : ∃ e ∈ es, r.Names params e) {p : Problem}
    (hplaces : p.places = [r.location]) (hnode : p.node? = some r)
    (hexplained : p ≠ .sceneViolation .unexplained) : p.Traced params es := by
  obtain ⟨e, he, hnames⟩ := h
  refine ⟨fun l hl => ⟨e, he, ?_⟩, fun q hq => ⟨e, he, ?_⟩, hexplained⟩
  · rw [hplaces] at hl
    rw [List.mem_singleton.mp hl]
    exact hnames.location
  · rw [hnode] at hq
    rwa [← Option.some.inj hq]

theorem traced_of_fault {p : Problem} (h : FaultOf es p) : p.Traced params es := by
  obtain ⟨e, he, hfault⟩ := h
  have hplace : ∃ d ∈ es, d.location = e.location := ⟨e, he, rfl⟩
  cases hfault with
  | malformed => exact traced_of_place rfl hplace rfl nofun
  | mismatch => exact traced_of_place rfl hplace rfl nofun
  | undefined => exact traced_of_place rfl hplace rfl nofun
  | unexpected => exact traced_of_place rfl hplace rfl nofun

end Problem

/-! ## Version and parameters -/

theorem readVersion_traced {root : Element} {p : Problem} (h : readVersion root = .error p) :
    p.Traced params root.preorder := by
  have hplace : ∃ e ∈ root.preorder, e.location = root.location :=
    ⟨root, root.self_mem_preorder, rfl⟩
  unfold readVersion at h
  split at h
  · cases h
    exact Problem.traced_of_place rfl hplace rfl (by rintro ⟨⟩)
  split at h
  · cases h
    exact Problem.traced_of_place rfl hplace rfl (by rintro ⟨⟩)
  split at h
  · cases h
    exact Problem.traced_of_place rfl hplace rfl (by rintro ⟨⟩)
  split at h
  · cases h
  · cases h
    exact Problem.traced_of_place rfl hplace rfl (by rintro ⟨⟩)

namespace Parameter.Table

/-- What each change keeps, a sequence of changes keeps; its problems are those of changes. -/
theorem applyAll_keeps {α : Type} {change : Table → α → Reply} (hatomic : Atomic change)
    {as : List α} {I : Table → Prop} {P : Problem → Prop}
    (haccepted : ∀ t a t', a ∈ as → I t → change t a = .accepted t' → I t')
    (hrefused : ∀ t a p, a ∈ as → I t → (change t a).problem? = some p → P p) :
    ∀ t : Table, I t → ∀ p ∈ (applyAll change t as).2, P p := by
  induction as with
  | nil => exact fun _ _ => List.forall_mem_nil _
  | cons a as ih =>
    intro t ht
    have ih := ih (fun t b t' hb => haccepted t b t' (List.mem_cons_of_mem _ hb))
      (fun t b p hb => hrefused t b p (List.mem_cons_of_mem _ hb))
    rw [applyAll]
    cases hchange : change t a with
    | accepted t' => exact ih t' (haccepted t a t' List.mem_cons_self ht hchange)
    | refused p t' =>
      obtain rfl := hatomic t a p t' hchange
      refine List.forall_mem_cons.mpr ⟨hrefused t' a p List.mem_cons_self ht ?_, ih t' ht⟩
      rw [hchange, Reply.problem?]

theorem tokenProblem?_traced {name value : String} {p : Problem}
    (h : tokenProblem? name value = some p) : p.Traced params es := by
  obtain ⟨token, -, rfl⟩ := Option.map_eq_some_iff.mp h
  exact Problem.traced_of_places (List.forall_mem_nil _) rfl nofun

/-- A default is refused for what it is, or for the first one with its name. -/
theorem define_problem {t : Table} (hstep : t.InStep)
    (ht : ∀ q ∈ t.parameters, ∃ e ∈ es, e.location = q.location) {name value : String}
    {l : Location} (hl : ∃ e ∈ es, e.location = l) {p : Problem}
    (h : (t.define name value l).problem? = some p) : p.Traced params es := by
  unfold define at h
  split at h
  · cases h
    exact Problem.traced_of_place rfl hl rfl nofun
  split at h
  · next first hfirst =>
    cases h
    refine Problem.traced_of_places (fun m hm => ?_) rfl nofun
    rcases List.mem_cons.mp hm with rfl | hm
    · exact ht first (hstep.mem_of_find? hfirst)
    · rw [List.mem_singleton.mp hm]
      exact hl
  split at h
  · next htoken =>
    cases h
    exact tokenProblem?_traced htoken
  · cases h

theorem override_problem {t : Table} {name value : String} {p : Problem}
    (h : (t.override name value).problem? = some p) : p.Traced params es := by
  unfold override at h
  split at h
  · cases h
    exact Problem.traced_of_places (List.forall_mem_nil _) rfl nofun
  split at h
  · cases h
    exact Problem.traced_of_places (List.forall_mem_nil _) rfl nofun
  split at h
  · next htoken =>
    cases h
    exact tokenProblem?_traced htoken
  · cases h

/-- The problems of defaults name default elements. -/
theorem ofRoot_traced (root : Element) :
    ∀ p ∈ (ofRoot root).2, p.Traced params root.preorder := by
  have hdefault : ∀ e ∈ root.children.filter (·.tag = "default"), e ∈ root.preorder :=
    fun e he => root.children_subset_preorder (List.mem_of_mem_filter he)
  refine applyAll_keeps atomic_defineElement
    (I := fun t => t.InStep ∧ ∀ q ∈ t.parameters, ∃ e ∈ root.preorder, e.location = q.location)
    ?_ ?_ _ ⟨inStep_empty, List.forall_mem_nil _⟩
  · rintro t e t' he ⟨hstep, ht⟩ h
    refine ⟨hstep.defineElement h, ?_⟩
    obtain ⟨q, rfl, -, -, hplace, -⟩ := defineElement_accepted h
    refine List.forall_mem_append.mpr ⟨ht, List.forall_mem_singleton.mpr ?_⟩
    exact ⟨e, hdefault e he, hplace.symm⟩
  · rintro t e p he ⟨hstep, ht⟩ h
    have hplace : ∃ d ∈ root.preorder, d.location = e.location := ⟨e, hdefault e he, rfl⟩
    unfold defineElement at h
    split at h
    · exact define_problem hstep ht hplace h
    · cases h
      exact Problem.traced_of_place rfl hplace rfl nofun

/-- The problems of overrides name no position. -/
theorem overrideAll_traced (t : Table) (overrides : List (String × String)) :
    ∀ p ∈ (t.overrideAll overrides).2, p.Traced params es :=
  applyAll_keeps atomic_override (I := fun _ => True) (fun _ _ _ _ _ _ => trivial)
    (fun _ _ _ _ _ h => override_problem h) t trivial

end Parameter.Table

end SceneGraph

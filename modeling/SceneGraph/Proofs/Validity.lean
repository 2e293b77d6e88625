import Mathlib.Data.List.Basic
import Mathlib.Tactic.MkIffOfInductiveProp
import SceneGraph.Proofs.Contributions
import SceneGraph.Proofs.Silence

/-!
# Scenes are valid or told what is wrong

`Valid` says what the roots of a scene must be like, and `Offence` lists what is reported where
they are not: one problem for every rule and every node that breaks it.  Assembling a scene
accepts exactly the valid roots, and otherwise reports exactly their offences, each of them once
(`assemble_exact`).

    one check            mem_positiveCount, mem_seed, mem_single, mem_shapeBsdf, mem_shapeEmitter
    one object           mem_sampler, mem_film, mem_sensor, mem_shape
    one root             mem_add
    all roots            mem_addAll
-/

namespace SceneGraph

open Instantiation (Root)

/-- What a scene can hold as a count: a positive integer of 32 bits. -/
def IsCount (n : Int) : Prop := 1 ≤ n ∧ n ≤ 4294967295

/-- What a scene can hold as a seed: an integer of 32 bits that is not negative. -/
def IsSeed (n : Int) : Prop := 0 ≤ n ∧ n ≤ 4294967295

namespace Instantiation.Root

/-- The samplers that are checked with a root: those that a sensor holds, and one that has an id
and may be used from elsewhere. -/
def samplers (r : Root) : List SamplerDraft :=
  match r.object with
  | .sensor d => d.samplers
  | .sampler d => if r.node.id.isSome then [d] else []
  | _ => []

/-- The films that are checked with a root. -/
def films (r : Root) : List FilmDraft :=
  match r.object with
  | .sensor d => d.films
  | .film d => if r.node.id.isSome then [d] else []
  | _ => []

/-- What a root of a scene must be like, whatever the other roots are. -/
structure Sound (r : Root) : Prop where
  sensor : ∀ d, r.object = .sensor d → d.samplers.length = 1 ∧ d.films.length = 1
  samplers : ∀ d ∈ r.samplers, IsCount d.sampleCount ∧ IsSeed d.seed
  films : ∀ d ∈ r.films, IsCount d.width ∧ IsCount d.height
  named : r.object.kind ∈ [.sampler, .film, .filter] → r.node.id.isSome = true
  emitter : ∀ e, r.object = .emitter e → e.kind.isArea = false
  shape : ∀ d, r.object = .shape d → d.bsdfs.length = 1 ∧
    (d.emitters = [] ∨ ∃ e, d.emitters = [e] ∧ e.kind.isArea = true)

/-- A rule that is broken at a root, and what is reported for it. -/
@[mk_iff]
inductive Breaks (r : Root) : Problem → Prop
  | samplerCount {d : SensorDraft} (h : r.object = .sensor d) (hd : d.samplers.length ≠ 1) :
    Breaks r (.violation d.node (.samplerCount d.samplers.length))
  | filmCount {d : SensorDraft} (h : r.object = .sensor d) (hd : d.films.length ≠ 1) :
    Breaks r (.violation d.node (.filmCount d.films.length))
  | sampleCount {d : SamplerDraft} (h : d ∈ r.samplers) (hd : ¬ IsCount d.sampleCount) :
    Breaks r (.violation d.node (.notPositiveCount "sample_count" d.sampleCount))
  | seed {d : SamplerDraft} (h : d ∈ r.samplers) (hd : ¬ IsSeed d.seed) :
    Breaks r (.violation d.node (.seedRange d.seed))
  | width {d : FilmDraft} (h : d ∈ r.films) (hd : ¬ IsCount d.width) :
    Breaks r (.violation d.node (.notPositiveCount "width" d.width))
  | height {d : FilmDraft} (h : d ∈ r.films) (hd : ¬ IsCount d.height) :
    Breaks r (.violation d.node (.notPositiveCount "height" d.height))
  | unowned (h : r.object.kind ∈ [.sampler, .film, .filter]) (hid : r.node.id = none) :
    Breaks r (.violation r.node (.unownedNode r.node.kind))
  | unattached {e : Emitter} (h : r.object = .emitter e) (he : e.kind.isArea = true) :
    Breaks r (.violation r.node .unattachedArea)
  | noBsdf {d : ShapeDraft} (h : r.object = .shape d) (hd : d.bsdfs = []) :
    Breaks r (.violation d.node .noBsdf)
  | bsdfs {d : ShapeDraft} (h : r.object = .shape d) (hd : 1 < d.bsdfs.length) :
    Breaks r (.violation d.node (.severalBsdfs d.bsdfs.length))
  | emitterKind {d : ShapeDraft} {e : Emitter} (h : r.object = .shape d) (hd : d.emitters = [e])
    (he : e.kind.isArea = false) : Breaks r (.violation d.node .attachedEmitterKind)
  | emitters {d : ShapeDraft} (h : r.object = .shape d) (hd : 1 < d.emitters.length) :
    Breaks r (.violation d.node (.severalEmitters d.emitters.length))

end Instantiation.Root

namespace Assembly

/-- A rule that the roots of a scene break. -/
inductive Offence (roots : List Root) : Problem → Prop
  | noSensor (h : ∀ r ∈ roots, r.object.kind ≠ .sensor) : Offence roots (.sceneViolation .noSensor)
  | noShape (h : ∀ r ∈ roots, r.object.kind ≠ .shape) : Offence roots (.sceneViolation .noShape)
  /-- Every integrator behind another one is too many. -/
  | integrator {q r : Root} (h : [q, r].Sublist roots) (hq : q.object.kind = .integrator)
    (hr : r.object.kind = .integrator) : Offence roots (.violation r.node .severalIntegrators)
  | root {r : Root} {p : Problem} (h : r ∈ roots) (hp : r.Breaks p) : Offence roots p

/-- What the roots of a scene must be like. -/
structure Valid (roots : List Root) : Prop where
  integrators : (roots.filter (·.object.kind = .integrator)).length ≤ 1
  sensor : ∃ r ∈ roots, r.object.kind = .sensor
  shape : ∃ r ∈ roots, r.object.kind = .shape
  roots : ∀ r ∈ roots, r.Sound

variable {p : Problem}

/-! ## Lemmas -/

/-- What only puts values together reports nothing. -/
theorem problems_andThen {α β : Type} (c : Checked α) {f : α → Checked β}
    (hf : ∀ a, (f a).problems = []) : (c.andThen f).problems = c.problems := by
  unfold Checked.andThen
  split
  · rfl
  · rw [hf, List.append_nil]

/-! ## Single checks -/

theorem mem_positiveCount {node : NodeRef} {property : String} {n : Int} :
    p ∈ (positiveCount node property n).problems ↔
      ¬ IsCount n ∧ p = .violation node (.notPositiveCount property n) := by
  have hcount : (0 < n && n < UInt32.size) = true ↔ IsCount n := by
    have hsize : (UInt32.size : Int) = 4294967296 := rfl
    simp only [Bool.and_eq_true, decide_eq_true_eq, IsCount, hsize]
    omega
  unfold positiveCount
  split
  · next h => simp [Checked.of, hcount.mp h]
  · next h => simp [breaks, Checked.fail, mt hcount.mpr h]

theorem mem_seed {node : NodeRef} {n : Int} :
    p ∈ (seed node n).problems ↔ ¬ IsSeed n ∧ p = .violation node (.seedRange n) := by
  have hseed : (0 ≤ n && n < UInt32.size) = true ↔ IsSeed n := by
    have hsize : (UInt32.size : Int) = 4294967296 := rfl
    simp only [Bool.and_eq_true, decide_eq_true_eq, IsSeed, hsize]
    omega
  unfold seed
  split
  · next h => simp [Checked.of, hseed.mp h]
  · next h => simp [breaks, Checked.fail, mt hseed.mpr h]

theorem mem_single {α : Type} {node : NodeRef} {rule : Nat → Violation} {as : List α} :
    p ∈ (single node rule as).problems ↔
      as.length ≠ 1 ∧ p = .violation node (rule as.length) := by
  match as with
  | [a] => simp [single, Checked.of]
  | [] => simp [single, breaks, Checked.fail]
  | a :: b :: cs => simp [single, breaks, Checked.fail]

theorem mem_shapeBsdf {node : NodeRef} {hs : List BsdfHandle} :
    p ∈ (shapeBsdf node hs).problems ↔
      (hs = [] ∧ p = .violation node .noBsdf) ∨
        (1 < hs.length ∧ p = .violation node (.severalBsdfs hs.length)) := by
  match hs with
  | [h] => simp [shapeBsdf, Checked.of]
  | [] => simp [shapeBsdf, breaks, Checked.fail]
  | h :: i :: js => simp [shapeBsdf, breaks, Checked.fail]

theorem mem_shapeEmitter {node : NodeRef} {es : List Emitter} :
    p ∈ (shapeEmitter node es).problems ↔
      (∃ e, es = [e] ∧ e.kind.isArea = false ∧ p = .violation node .attachedEmitterKind) ∨
        (1 < es.length ∧ p = .violation node (.severalEmitters es.length)) := by
  match es with
  | [] => simp [shapeEmitter, Checked.of]
  | [e] =>
    cases harea : e.kind.isArea with
    | true => simp [shapeEmitter, Checked.of, harea]
    | false => simp [shapeEmitter, breaks, Checked.fail, harea]
  | e :: f :: gs => simp [shapeEmitter, breaks, Checked.fail]

/-! ## Objects -/

theorem mem_sampler {d : SamplerDraft} :
    p ∈ (sampler d).problems ↔
      (¬ IsCount d.sampleCount ∧
        p = .violation d.node (.notPositiveCount "sample_count" d.sampleCount)) ∨
      (¬ IsSeed d.seed ∧ p = .violation d.node (.seedRange d.seed)) := by
  have hproblems : (sampler d).problems =
      (positiveCount d.node "sample_count" d.sampleCount).problems ++
        (seed d.node d.seed).problems := problems_andThen _ fun _ => rfl
  rw [hproblems, List.mem_append, mem_positiveCount, mem_seed]

theorem mem_film {d : FilmDraft} :
    p ∈ (film d).problems ↔
      (¬ IsCount d.width ∧ p = .violation d.node (.notPositiveCount "width" d.width)) ∨
      (¬ IsCount d.height ∧ p = .violation d.node (.notPositiveCount "height" d.height)) := by
  have hproblems : (film d).problems = (positiveCount d.node "width" d.width).problems ++
      (positiveCount d.node "height" d.height).problems := problems_andThen _ fun _ => rfl
  rw [hproblems, List.mem_append, mem_positiveCount, mem_positiveCount]

/-- What a sensor holds is checked even where the numbers are wrong. -/
theorem mem_sensor {d : SensorDraft} :
    p ∈ (sensor d).problems ↔
      (d.samplers.length ≠ 1 ∧ p = .violation d.node (.samplerCount d.samplers.length)) ∨
      (d.films.length ≠ 1 ∧ p = .violation d.node (.filmCount d.films.length)) ∨
      (∃ x ∈ d.samplers, p ∈ (sampler x).problems) ∨ ∃ x ∈ d.films, p ∈ (film x).problems := by
  have hproblems : (sensor d).problems =
      ((single d.node .samplerCount d.samplers).problems ++
        (single d.node .filmCount d.films).problems) ++
      ((Checked.all (d.samplers.map sampler)).problems ++
        (Checked.all (d.films.map film)).problems) := by
    refine problems_andThen _ fun parts => ?_
    split <;> rfl
  simp only [hproblems, List.mem_append, mem_single, Checked.problems_all, List.flatMap_map,
    List.mem_flatMap, or_assoc]

theorem mem_shape {d : ShapeDraft} :
    p ∈ (shape d).problems ↔
      p ∈ (shapeBsdf d.node d.bsdfs).problems ∨ p ∈ (shapeEmitter d.node d.emitters).problems := by
  have hproblems : (shape d).problems = (shapeBsdf d.node d.bsdfs).problems ++
      (shapeEmitter d.node d.emitters).problems := problems_andThen _ fun _ => rfl
  rw [hproblems, List.mem_append]

/-! ## Roots -/

theorem mem_named {parts : Parts} {node : NodeRef} {problems : List Problem} :
    p ∈ (parts.named node problems).2 ↔
      (node.id = none ∧ p = .violation node (.unownedNode node.kind)) ∨
        (node.id.isSome = true ∧ p ∈ problems) := by
  cases hid : node.id <;> simp [Parts.named, hid]

/-- A root is told what is wrong with it, and an integrator also that it is not the first. -/
theorem mem_add {parts : Parts} {r : Root} :
    p ∈ (parts.add r).2 ↔ r.Breaks p ∨
      (parts.integrator.isSome = true ∧ r.object.kind = .integrator ∧
        p = .violation r.node .severalIntegrators) := by
  rw [Root.breaks_iff]
  unfold Parts.add Root.samplers Root.films
  cases r.object with
  | integrator i => cases parts.integrator <;> simp [Object.kind]
  | sensor d =>
    simp [mem_sensor, mem_sampler, mem_film, Object.kind, and_or_left, exists_or, or_assoc]
  | sampler d => cases hid : r.node.id <;> simp [mem_named, mem_sampler, hid, Object.kind]
  | film d => cases hid : r.node.id <;> simp [mem_named, mem_film, hid, Object.kind]
  | filter f => simp [mem_named, Object.kind]
  | emitter e => by_cases harea : e.kind.isArea = true <;> simp [harea, Object.kind]
  | shape d => simp [mem_shape, mem_shapeBsdf, mem_shapeEmitter, Object.kind, or_assoc]
  | bsdf b => simp [Object.kind]
  | volume v => simp [Object.kind]

theorem integrator?_isSome {r : Root} :
    r.integrator?.isSome = true ↔ r.object.kind = .integrator := by
  unfold Root.integrator?
  cases r.object <;> simp [Object.kind]

/-- The problem of an integrator behind another one, where there may be one before the roots. -/
def Surplus (given : Prop) (roots : List Root) (p : Problem) : Prop :=
  ∃ r, r.object.kind = .integrator ∧ p = .violation r.node .severalIntegrators ∧
    ((given ∧ r ∈ roots) ∨ ∃ q, q.object.kind = .integrator ∧ [q, r].Sublist roots)

theorem surplus_cons {given : Prop} {root : Root} {roots : List Root} :
    Surplus given (root :: roots) p ↔
      (given ∧ root.object.kind = .integrator ∧ p = .violation root.node .severalIntegrators) ∨
        Surplus (given ∨ root.object.kind = .integrator) roots p := by
  have hpair : ∀ q r, [q, r].Sublist (root :: roots) ↔
      [q, r].Sublist roots ∨ (q = root ∧ r ∈ roots) := by
    intro q r
    rw [List.sublist_cons_iff]
    simp
  constructor
  · rintro ⟨r, hr, hp, ⟨hgiven, hmem⟩ | ⟨q, hq, hqr⟩⟩
    · rcases List.mem_cons.mp hmem with rfl | hmem
      · exact .inl ⟨hgiven, hr, hp⟩
      · exact .inr ⟨r, hr, hp, .inl ⟨.inl hgiven, hmem⟩⟩
    · rcases (hpair q r).mp hqr with hqr | ⟨rfl, hmem⟩
      · exact .inr ⟨r, hr, hp, .inr ⟨q, hq, hqr⟩⟩
      · exact .inr ⟨r, hr, hp, .inl ⟨.inr hq, hmem⟩⟩
  · rintro (⟨hgiven, hr, hp⟩ | ⟨r, hr, hp, ⟨hgiven | hroot, hmem⟩ | ⟨q, hq, hqr⟩⟩)
    · exact ⟨root, hr, hp, .inl ⟨hgiven, List.mem_cons_self⟩⟩
    · exact ⟨r, hr, hp, .inl ⟨hgiven, List.mem_cons_of_mem _ hmem⟩⟩
    · exact ⟨r, hr, hp, .inr ⟨root, hroot, (hpair root r).mpr (.inr ⟨rfl, hmem⟩)⟩⟩
    · exact ⟨r, hr, hp, .inr ⟨q, hq, (hpair q r).mpr (.inl hqr)⟩⟩

theorem mem_addAll (roots : List Root) : ∀ {parts : Parts}, p ∈ (parts.addAll roots).2 ↔
    (∃ r ∈ roots, r.Breaks p) ∨ Surplus (parts.integrator.isSome = true) roots p := by
  induction roots with
  | nil => simp [Parts.addAll, Surplus]
  | cons root roots ih =>
    intro parts
    have hproblems : (parts.addAll (root :: roots)).2 =
        (parts.add root).2 ++ ((parts.add root).1.addAll roots).2 := rfl
    have hgiven : (parts.add root).1.integrator.isSome = true ↔
        parts.integrator.isSome = true ∨ root.object.kind = .integrator := by
      rw [Parts.add_eq, Option.isSome_or, Bool.or_eq_true, integrator?_isSome]
    rw [hproblems, List.mem_append, mem_add, ih, hgiven, surplus_cons, List.exists_mem_cons_iff]
    exact or_or_or_comm

/-! ## Scenes -/

theorem mem_sceneProblems {roots : List Root} : p ∈ sceneProblems roots ↔
    ((∀ r ∈ roots, r.object.kind ≠ .sensor) ∧ p = .sceneViolation .noSensor) ∨
      ((∀ r ∈ roots, r.object.kind ≠ .shape) ∧ p = .sceneViolation .noShape) := by
  have hmissing : ∀ {kind : NodeKind} {q : Problem},
      p ∈ (if roots.any (·.object.kind = kind) then [] else [q]) ↔
        (∀ r ∈ roots, r.object.kind ≠ kind) ∧ p = q := by
    intro kind q
    split
    · next hany => simpa using fun h => absurd hany (by simpa using h)
    · next hany => simpa using fun _ => by simpa using hany
  rw [sceneProblems, List.mem_append, hmissing, hmissing]

/-- What is reported for roots are their offences. -/
theorem mem_problems {roots : List Root} :
    p ∈ distinct (Parts.empty.addAll roots).2 ++ sceneProblems roots ↔ Offence roots p := by
  rw [List.mem_append, mem_distinct, mem_addAll, mem_sceneProblems]
  constructor
  · rintro ((⟨r, hr, hp⟩ | ⟨r, hr, rfl, ⟨hgiven, -⟩ | ⟨q, hq, hqr⟩⟩) | ⟨h, rfl⟩ | ⟨h, rfl⟩)
    · exact .root hr hp
    · cases hgiven
    · exact .integrator hqr hq hr
    · exact .noSensor h
    · exact .noShape h
  · intro h
    cases h with
    | noSensor h => exact .inr (.inl ⟨h, rfl⟩)
    | noShape h => exact .inr (.inr ⟨h, rfl⟩)
    | integrator h hq hr => exact .inl (.inr ⟨_, hr, rfl, .inr ⟨_, hq, h⟩⟩)
    | root hr hp => exact .inl (.inl ⟨_, hr, hp⟩)

/-- What a node is told is not what the scene lacks. -/
theorem nodup_problems (roots : List Root) :
    (distinct (Parts.empty.addAll roots).2 ++ sceneProblems roots).Nodup := by
  refine List.nodup_append.mpr ⟨nodup_distinct _, ?_, ?_⟩
  · unfold sceneProblems
    split <;> split <;> simp
  · rintro p hp q hq rfl
    have hnode : ∃ node rule, p = .violation node rule := by
      rcases (mem_addAll roots).mp (mem_distinct.mp hp) with ⟨r, -, hr⟩ | ⟨r, -, rfl, -⟩
      · cases hr <;> exact ⟨_, _, rfl⟩
      · exact ⟨_, _, rfl⟩
    obtain ⟨node, rule, rfl⟩ := hnode
    rcases mem_sceneProblems.mp hq with ⟨-, h⟩ | ⟨-, h⟩ <;> cases h

/-- No two integrators, as a bound of their number. -/
theorem integrators_length_le {roots : List Root} :
    (roots.filter (·.object.kind = .integrator)).length ≤ 1 ↔
      ∀ q r, [q, r].Sublist roots → q.object.kind = .integrator → r.object.kind ≠ .integrator := by
  constructor
  · intro hlength q r hqr hq hr
    have htwo := (hqr.filter (·.object.kind = .integrator)).length_le
    simp only [List.filter_cons, hq, hr, decide_true, if_true, List.filter_nil, List.length_cons,
      List.length_nil] at htwo
    omega
  · intro hnone
    match hfilter : roots.filter (·.object.kind = .integrator) with
    | [] => simp [hfilter]
    | [q] => simp [hfilter]
    | q :: r :: rest =>
      have hqr : [q, r].Sublist (roots.filter (·.object.kind = .integrator)) := by
        rw [hfilter]
        exact List.sublist_append_left [q, r] rest
      have hkind : ∀ x ∈ [q, r], x.object.kind = .integrator := fun x hx =>
        of_decide_eq_true (List.mem_filter.mp (hqr.subset hx)).2
      exact absurd (hkind r (by simp))
        (hnone q r (hqr.trans List.filter_sublist) (hkind q (by simp)))

/-- A root breaks no rule when it is as it must be. -/
theorem sound_iff {r : Root} : r.Sound ↔ ∀ p, ¬ r.Breaks p := by
  constructor
  · intro h p hp
    cases hp with
    | samplerCount hd hcount => exact hcount (h.sensor _ hd).1
    | filmCount hd hcount => exact hcount (h.sensor _ hd).2
    | sampleCount hd hcount => exact hcount (h.samplers _ hd).1
    | seed hd hseed => exact hseed (h.samplers _ hd).2
    | width hd hcount => exact hcount (h.films _ hd).1
    | height hd hcount => exact hcount (h.films _ hd).2
    | unowned hkind hid => simpa [hid] using h.named hkind
    | unattached he harea => simpa [harea] using h.emitter _ he
    | noBsdf hd hnone => simpa [hnone] using (h.shape _ hd).1
    | bsdfs hd hseveral => exact absurd (h.shape _ hd).1 (by omega)
    | emitterKind hd he harea =>
      rcases (h.shape _ hd).2 with hnil | ⟨e, he', harea'⟩
      · simp [he] at hnil
      · simp_all
    | emitters hd hseveral =>
      rcases (h.shape _ hd).2 with hnil | ⟨e, he, -⟩
      · simp [hnil] at hseveral
      · simp [he] at hseveral
  · intro h
    refine ⟨fun d hd => ⟨?_, ?_⟩, fun d hd => ⟨?_, ?_⟩, fun d hd => ⟨?_, ?_⟩, fun hkind => ?_,
      fun e he => ?_, fun d hd => ⟨?_, ?_⟩⟩
    · exact of_not_not fun hcount => h _ (.samplerCount hd hcount)
    · exact of_not_not fun hcount => h _ (.filmCount hd hcount)
    · exact of_not_not fun hcount => h _ (.sampleCount hd hcount)
    · exact of_not_not fun hseed => h _ (.seed hd hseed)
    · exact of_not_not fun hcount => h _ (.width hd hcount)
    · exact of_not_not fun hcount => h _ (.height hd hcount)
    · cases hid : r.node.id with
      | none => exact absurd (.unowned hkind hid) (h _)
      | some id => rfl
    · exact Bool.eq_false_iff.mpr fun harea => h _ (.unattached he harea)
    · match hbsdfs : d.bsdfs with
      | [] => exact absurd (.noBsdf hd hbsdfs) (h _)
      | [b] => rfl
      | b :: c :: bs => exact absurd (.bsdfs hd (by simp [hbsdfs])) (h _)
    · match hemitters : d.emitters with
      | [] => exact .inl rfl
      | [e] =>
        refine .inr ⟨e, rfl, ?_⟩
        cases harea : e.kind.isArea with
        | false => exact absurd (.emitterKind hd hemitters harea) (h _)
        | true => rfl
      | e :: f :: es => exact absurd (.emitters hd (by simp [hemitters])) (h _)

theorem valid_iff {roots : List Root} : Valid roots ↔ ∀ p, ¬ Offence roots p := by
  constructor
  · intro h p hp
    cases hp with
    | noSensor hnone =>
      obtain ⟨r, hr, hsensor⟩ := h.sensor
      exact hnone r hr hsensor
    | noShape hnone =>
      obtain ⟨r, hr, hshape⟩ := h.shape
      exact hnone r hr hshape
    | integrator hqr hq hr => exact integrators_length_le.mp h.integrators _ _ hqr hq hr
    | root hr hp => exact sound_iff.mp (h.roots _ hr) _ hp
  · intro h
    refine ⟨?_, ?_, ?_, fun r hr => ?_⟩
    · exact integrators_length_le.mpr fun q r hqr hq hr => h _ (.integrator hqr hq hr)
    · exact of_not_not fun hnone => h _ (.noSensor fun r hr hkind => hnone ⟨r, hr, hkind⟩)
    · exact of_not_not fun hnone => h _ (.noShape fun r hr hkind => hnone ⟨r, hr, hkind⟩)
    · exact sound_iff.mpr fun p hp => h p (.root hr hp)

/-- A scene that is assembled has passed its checks and is put together from its parts. -/
theorem assemble_ok {version : Version} {params : Parameter.Table}
    {inst : Instantiation} {scene : Scene} (h : assemble version params inst = .ok scene) :
    (distinct (Parts.empty.addAll inst.roots).2 = [] ∧ sceneProblems inst.roots = []) ∧
      scene = ⟨version, parameters params, (Parts.empty.addAll inst.roots).1.integrator,
        (Parts.empty.addAll inst.roots).1.sensors, inst.arena.bsdfs,
        (Parts.empty.addAll inst.roots).1.emitters, (Parts.empty.addAll inst.roots).1.shapes,
        inst.arena.volumes⟩ := by
  unfold assemble at h
  dsimp only at h
  split at h
  · next hempty =>
    exact ⟨List.append_eq_nil_iff.mp (List.isEmpty_iff.mp hempty), (Except.ok.inj h).symm⟩
  · cases h

theorem assemble_refused {version : Version} {table : Parameter.Table} {inst : Instantiation}
    {problems : List Problem} (h : assemble version table inst = .error problems) :
    problems ≠ [] ∧
      problems = distinct (Parts.empty.addAll inst.roots).2 ++ sceneProblems inst.roots := by
  unfold assemble at h
  dsimp only at h
  split at h
  · cases h
  · next hempty =>
    obtain rfl := Except.error.inj h
    exact ⟨mt List.isEmpty_iff.mpr hempty, rfl⟩

/-- A scene is made exactly of valid roots.  Of other roots every offence is reported once, and
nothing else is. -/
theorem assemble_exact (version : Version) (table : Parameter.Table) (inst : Instantiation) :
    match assemble version table inst with
    | .ok _ => Valid inst.roots
    | .error problems =>
      ¬ Valid inst.roots ∧ (∀ p, p ∈ problems ↔ Offence inst.roots p) ∧ problems.Nodup := by
  cases hresult : assemble version table inst with
  | ok scene =>
    obtain ⟨⟨hfound, hscene⟩, -⟩ := assemble_ok hresult
    refine valid_iff.mpr fun p hp => ?_
    rw [← mem_problems, hfound, hscene] at hp
    cases hp
  | error problems =>
    obtain ⟨hne, rfl⟩ := assemble_refused hresult
    obtain ⟨p, hp⟩ := List.exists_mem_of_ne_nil _ hne
    exact ⟨fun hvalid => valid_iff.mp hvalid p (mem_problems.mp hp),
      fun _ => mem_problems, nodup_problems _⟩

end Assembly

end SceneGraph

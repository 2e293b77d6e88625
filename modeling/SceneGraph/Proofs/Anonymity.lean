import Mathlib.Data.List.Forall2
import SceneGraph.Proofs.SilentRun

/-!
# Ids of samplers, films and filters

A scene keeps no id of a sampler, a film or a filter: it uses them by value.  So nothing that is
made of them depends on their ids (`Object.anonymous` leaves these out).

    children equal but for such ids → products equal but for such ids     (impartial_of_find?)
    a sampler, film or filter with its id and without → the same product  (nameless_of_find?)

`inspect_alike` and `inspect_anonymous` carry both over to what is found about a node, and
`addAll_alike` to the scene that is put together.
-/

namespace SceneGraph

/-! ## Definitions -/

/-- Nodes whose objects are used by value: neither a scene nor an arena keeps them. -/
def NodeKind.isValue : NodeKind → Bool
  | .sampler | .film | .filter => true
  | _ => false

def NodeRef.anonymous (n : NodeRef) : NodeRef := { n with id := none }

def SamplerDraft.anonymous (d : SamplerDraft) : SamplerDraft := { d with node := d.node.anonymous }

def FilmDraft.anonymous (d : FilmDraft) : FilmDraft := { d with node := d.node.anonymous }

/-- The sensor keeps its own id. -/
def SensorDraft.anonymous (d : SensorDraft) : SensorDraft :=
  { d with
    samplers := d.samplers.map SamplerDraft.anonymous
    films := d.films.map FilmDraft.anonymous }

namespace Object

/-- The object without the ids of samplers and films in it. -/
def anonymous : Object → Object
  | .sampler d => .sampler d.anonymous
  | .film d => .film d.anonymous
  | .sensor d => .sensor d.anonymous
  | o => o

end Object

def Product.anonymous : Product → Product
  | .object o => .object o.anonymous
  | p => p

/-- The objects are equal but for ids. Volumes are taken with the way they were attached, so they
are equal in that too. -/
structure Attachment.Alike (a b : Attachment) : Prop where
  object : a.object.anonymous = b.object.anonymous
  volume : a.object.kind = .volume → a = b

structure Attached.Alike (a b : Attached) : Prop where
  items : List.Forall₂ Attachment.Alike a.items b.items
  failed : a.failed = b.failed

/-- A plugin that does not look at the ids of its node's children. -/
def Plugin.Impartial (p : Plugin) : Prop :=
  ∀ a b : Attached, a.Alike b → ∀ s,
    (p.build a s).1.map Product.anonymous = (p.build b s).1.map Product.anonymous ∧
      (p.build a s).2 = (p.build b s).2

def Settings.anonymous (s : Settings) : Settings := { s with node := s.node.anonymous }

/-- The node without its id. What it contains stays as it is. -/
def Node.anonymous (n : Node) : Node := { n with id := none }

/-- Both are objects, and they are equal but for ids. -/
def Product.Alike (x y : Option Product) : Prop :=
  ∃ o o', x = some (.object o) ∧ y = some (.object o') ∧ o.anonymous = o'.anonymous

/-- Without a report, an inspection finds the same about a node that has its id left out, and
`R` relates what it gives. -/
def Inspect.Nameless {α : Type} (R : α → α → Prop) (m : Inspect α) : Prop :=
  ∀ s, (m s).2.problems = [] → R (m s).1 (m s.anonymous).1 ∧ (m s.anonymous).2 = (m s).2

/-- A plugin that makes the same of a node without an id. It takes filters only, if anything. -/
structure Plugin.Nameless (p : Plugin) : Prop where
  accepts : ∀ k ∈ p.accepts, k = .filter
  build : ∀ children, (p.build children).Nameless Product.Alike

/-! ## Objects -/

namespace Object

@[simp] theorem anonymous_kind (o : Object) : o.anonymous.kind = o.kind := by
  cases o <;> rfl

theorem kind_congr {o o' : Object} (h : o.anonymous = o'.anonymous) : o.kind = o'.kind := by
  rw [← anonymous_kind o, h, anonymous_kind]

/-- What is not about samplers, films and sensors does not look at ids. -/
theorem congr_of_anonymous {β : Type} {f : Object → β} (hf : ∀ o, f o.anonymous = f o)
    {o o' : Object} (h : o.anonymous = o'.anonymous) : f o = f o' := by
  rw [← hf o, h, hf]

/-- Only samplers, films and sensors look different without ids. -/
theorem anonymous_cases {o o' : Object} (h : o.anonymous = o'.anonymous) :
    (∃ d d', o = .sampler d ∧ o' = .sampler d' ∧ d.anonymous = d'.anonymous) ∨
      (∃ d d', o = .film d ∧ o' = .film d' ∧ d.anonymous = d'.anonymous) ∨
      (∃ d d', o = .sensor d ∧ o' = .sensor d' ∧ d.anonymous = d'.anonymous) ∨ o = o' := by
  cases o with
  | sampler d =>
    cases o' with
    | sampler d' => exact .inl ⟨d, d', rfl, rfl, Object.sampler.inj h⟩
    | _ => cases h
  | film d =>
    cases o' with
    | film d' => exact .inr (.inl ⟨d, d', rfl, rfl, Object.film.inj h⟩)
    | _ => cases h
  | sensor d =>
    cases o' with
    | sensor d' => exact .inr (.inr (.inl ⟨d, d', rfl, rfl, Object.sensor.inj h⟩))
    | _ => cases h
  | _ =>
    refine .inr (.inr (.inr ?_))
    cases o' <;> first | exact h | cases h

@[simp] theorem bsdf?_anonymous (o : Object) : o.anonymous.bsdf? = o.bsdf? := by
  cases o <;> rfl

@[simp] theorem emitter?_anonymous (o : Object) : o.anonymous.emitter? = o.emitter? := by
  cases o <;> rfl

@[simp] theorem filter?_anonymous (o : Object) : o.anonymous.filter? = o.filter? := by
  cases o <;> rfl

theorem sampler?_anonymous (o : Object) :
    o.anonymous.sampler? = o.sampler?.map SamplerDraft.anonymous := by
  cases o <;> rfl

theorem film?_anonymous (o : Object) :
    o.anonymous.film? = o.film?.map FilmDraft.anonymous := by
  cases o <;> rfl

end Object

/-! ## Children -/

/-- Objects that are attached in the same way are attached alike. -/
theorem attachment_alike (name : Option String) (l : Location) (byReference : Bool)
    {o o' : Object} (h : o.anonymous = o'.anonymous) :
    Attachment.Alike ⟨name, o, l, byReference⟩ ⟨name, o', l, byReference⟩ := by
  refine ⟨h, fun hvolume => ?_⟩
  have hkind : o.kind = .volume := hvolume
  rcases Object.anonymous_cases h with ⟨d, d', rfl, -⟩ | ⟨d, d', rfl, -⟩ | ⟨d, d', rfl, -⟩ | rfl
  · cases hkind
  · cases hkind
  · cases hkind
  · rfl

namespace Attached

/-- What is taken of alike children is the same if it is the same for each of them. -/
theorem filterMap_alike {β : Type} {f : Attachment → Option β}
    (hf : ∀ a b : Attachment, a.Alike b → f a = f b) {xs ys : List Attachment}
    (h : List.Forall₂ Attachment.Alike xs ys) : xs.filterMap f = ys.filterMap f := by
  induction h with
  | nil => rfl
  | cons hab _ ih => rw [List.filterMap_cons, List.filterMap_cons, hf _ _ hab, ih]

variable {a b : Attached} (h : a.Alike b)

include h

theorem Alike.bsdfs : a.bsdfs = b.bsdfs :=
  filterMap_alike (fun _ _ hxy => Object.congr_of_anonymous Object.bsdf?_anonymous hxy.object)
    h.items

theorem Alike.emitters : a.emitters = b.emitters :=
  filterMap_alike (fun _ _ hxy => Object.congr_of_anonymous Object.emitter?_anonymous hxy.object)
    h.items

theorem Alike.filters : a.filters = b.filters :=
  filterMap_alike (fun _ _ hxy => Object.congr_of_anonymous Object.filter?_anonymous hxy.object)
    h.items

theorem Alike.volumes : a.volumes = b.volumes := by
  refine filterMap_alike (fun x y hxy => ?_) h.items
  by_cases hkind : x.object.kind = .volume
  · rw [hxy.volume hkind]
  · have hnone : ∀ o : Object, o.kind ≠ .volume → o.volume? = none := by
      intro o ho
      cases o with
      | volume v => exact absurd rfl ho
      | _ => rfl
    rw [hnone _ hkind, hnone _ (Object.kind_congr hxy.object ▸ hkind)]
    rfl

theorem Alike.samplers : a.samplers.map SamplerDraft.anonymous =
    b.samplers.map SamplerDraft.anonymous := by
  rw [Attached.samplers, Attached.samplers, List.map_filterMap, List.map_filterMap]
  refine filterMap_alike (fun x y hxy => ?_) h.items
  rw [← Object.sampler?_anonymous, ← Object.sampler?_anonymous, hxy.object]

theorem Alike.films : a.films.map FilmDraft.anonymous = b.films.map FilmDraft.anonymous := by
  rw [Attached.films, Attached.films, List.map_filterMap, List.map_filterMap]
  refine filterMap_alike (fun x y hxy => ?_) h.items
  rw [← Object.film?_anonymous, ← Object.film?_anonymous, hxy.object]

end Attached

/-! ## Plugins do not look at the ids of children -/

namespace Plugin

theorem impartial_sensorPlugin (type : String) (settings : Inspect SensorKind) :
    Impartial (sensorPlugin type settings) := by
  intro a b h s
  refine ⟨?_, rfl⟩
  have hsensor : ∀ c : Attached, ((sensorPlugin type settings).build c s).1 =
      some (.object (.sensor ⟨s.node, (settings s).1, (Inspect.float "near_clip" 0.01 s).1,
        (Inspect.float "far_clip" 10000 s).1, (Inspect.transform "to_world" s).1, c.samplers,
        c.films⟩)) := fun c => rfl
  rw [hsensor, hsensor]
  simp only [Option.map_some, Product.anonymous, Object.anonymous, SensorDraft.anonymous,
    h.samplers, h.films]

theorem impartial_filmPlugin : Impartial filmPlugin := by
  intro a b h s
  simp only [filmPlugin, h.filters, and_self]

theorem impartial_shapePlugin (type : String) (settings : Inspect Surface) :
    Impartial (shapePlugin type settings) := by
  intro a b h s
  simp only [shapePlugin, h.bsdfs, h.emitters, h.volumes, and_self]

theorem impartial_twoSidedPlugin : Impartial twoSidedPlugin := by
  intro a b h s
  simp only [twoSidedPlugin, h.bsdfs, Attached.failedCount, h.failed, and_self]

theorem impartial_viewPlugins : ∀ p ∈ viewPlugins, Impartial p := by
  simp only [viewPlugins, List.forall_mem_cons]
  refine ⟨?_, ?_, ?_, impartial_sensorPlugin _ _, impartial_sensorPlugin _ _, ?_, ?_, ?_, ?_,
    impartial_filmPlugin, ?_, ?_, ?_, by simp⟩
  all_goals exact fun a b _ s => ⟨rfl, rfl⟩

theorem impartial_materialPlugins : ∀ p ∈ materialPlugins, Impartial p := by
  simp only [materialPlugins, List.forall_mem_cons]
  refine ⟨?_, impartial_twoSidedPlugin, ?_, ?_, ?_, ?_, ?_, by simp⟩
  all_goals exact fun a b _ s => ⟨rfl, rfl⟩

theorem impartial_bodyPlugins : ∀ p ∈ bodyPlugins, Impartial p := by
  simp only [bodyPlugins, List.forall_mem_cons]
  refine ⟨?_, ?_, ?_, ?_, ?_, impartial_shapePlugin _ _, impartial_shapePlugin _ _,
    impartial_shapePlugin _ _, impartial_shapePlugin _ _, impartial_shapePlugin _ _,
    impartial_shapePlugin _ _, by simp⟩
  all_goals exact fun a b _ s => ⟨rfl, rfl⟩

theorem impartial_of_find? {kind : NodeKind} {type : String} {p : Plugin}
    (h : find? kind type = some p) : Impartial p :=
  forall_of_find? impartial_viewPlugins impartial_materialPlugins impartial_bodyPlugins h

end Plugin

/-! ## Values do not look at their own ids -/

namespace Inspect

variable {α β : Type}

theorem nameless_pure (a : α) : Nameless Eq (pure a : Inspect α) := fun _ _ => ⟨rfl, rfl⟩

theorem nameless_bind {R : β → β → Prop} {m : Inspect α} {f : α → Inspect β}
    (hm : Nameless Eq m) (hf : ∀ a, Nameless R (f a)) : Nameless R (m >>= f) := by
  intro s h
  obtain ⟨hfirst, hnext⟩ := List.append_eq_nil_iff.mp
    (show (m s).2.problems ++ (f (m s).1 s).2.problems = [] from h)
  obtain ⟨hvalue, htrace⟩ := hm s hfirst
  obtain ⟨hvalue', htrace'⟩ := hf (m s).1 s hnext
  have hbind : ∀ s, (m >>= f) s = ((f (m s).1 s).1,
      ⟨(m s).2.problems ++ (f (m s).1 s).2.problems, (m s).2.asked ++ (f (m s).1 s).2.asked⟩) :=
    fun _ => rfl
  rw [hbind, hbind, ← hvalue, htrace, htrace']
  exact ⟨hvalue', rfl⟩

/-- What is made of the node last. -/
theorem nameless_node {R : β → β → Prop} {f : NodeRef → β} (h : ∀ n, R (f n) (f n.anonymous)) :
    Nameless R (node >>= fun n => pure (f n)) := fun s _ => ⟨h s.node, rfl⟩

/-- A rule that is not broken is not reported for the node. -/
theorem nameless_forbid (bad : Bool) (rule : Violation) : Nameless Eq (forbid bad rule) := by
  intro s h
  cases bad with
  | false => exact ⟨rfl, rfl⟩
  | true => cases h

theorem nameless_value? (name : String) (expected : Expected) (accept : Value → Option α) :
    Nameless Eq (value? name expected accept) := by
  intro s _
  have hsame : value? name expected accept s.anonymous = value? name expected accept s := by
    have hproperty : s.anonymous.property? name = s.property? name := rfl
    simp only [value?, Bind.bind, andThen, ask, hproperty]
    cases s.property? name with
    | none => rfl
    | some p =>
      dsimp only [accepted]
      cases accept p.value <;> rfl
  rw [hsame]
  exact ⟨rfl, rfl⟩

theorem nameless_float (name : String) (d : Float32) : Nameless Eq (float name d) :=
  nameless_bind (nameless_value? _ _ _) fun _ => nameless_pure _

theorem nameless_integer (name : String) (d : Int) : Nameless Eq (integer name d) :=
  nameless_bind (nameless_value? _ _ _) fun _ => nameless_pure _

theorem nameless_text (name d : String) : Nameless Eq (text name d) :=
  nameless_bind (nameless_value? _ _ _) fun _ => nameless_pure _

end Inspect

namespace Plugin

open Inspect

theorem nameless_samplerPlugin (type : String) (kind : SamplerKind) :
    Nameless (samplerPlugin type kind) where
  accepts := by simp [samplerPlugin]
  build _ :=
    nameless_bind (nameless_integer _ _) fun _ =>
      nameless_bind (nameless_integer _ _) fun _ =>
        nameless_node fun _ => ⟨_, _, rfl, rfl, rfl⟩

theorem nameless_formatName (property d : String) (formats : List String) :
    Inspect.Nameless Eq (formatName property d formats) :=
  nameless_bind (nameless_text _ _) fun _ =>
    nameless_bind (nameless_forbid _ _) fun _ => nameless_pure _

theorem nameless_filmPlugin : Nameless filmPlugin where
  accepts := by simp [filmPlugin]
  build _ :=
    nameless_bind (nameless_integer _ _) fun _ =>
      nameless_bind (nameless_integer _ _) fun _ =>
        nameless_bind (nameless_formatName _ _ _) fun _ =>
          nameless_bind (nameless_formatName _ _ _) fun _ =>
            nameless_bind (nameless_forbid _ _) fun _ =>
              nameless_node fun _ => ⟨_, _, rfl, rfl, rfl⟩

theorem nameless_filterPlugin (type : String) {settings : Inspect Filter}
    (h : settings.Nameless Eq) : Nameless (filterPlugin type settings) where
  accepts := by simp [filterPlugin]
  build _ := nameless_bind h fun _ _ _ => ⟨⟨_, _, rfl, rfl, rfl⟩, rfl⟩

theorem nameless_gaussianSettings : gaussianSettings.Nameless Eq :=
  nameless_bind (nameless_float _ _) fun _ =>
    nameless_bind (nameless_forbid _ _) fun _ => nameless_pure _

theorem nameless_of_find? {kind : NodeKind} {type : String} {p : Plugin}
    (h : find? kind type = some p) (hkind : kind.isValue = true) : Nameless p := by
  have hp : p.kind = kind := by
    have hfound := List.find?_some h
    simp only [Bool.and_eq_true, decide_eq_true_eq] at hfound
    exact hfound.1
  rw [← hp] at hkind
  refine forall_of_find? (P := fun p => p.kind.isValue = true → Nameless p) ?_ ?_ ?_ h hkind
  · simp only [viewPlugins, List.forall_mem_cons]
    iterate 5 refine ⟨fun h => absurd h (by decide), ?_⟩
    refine ⟨?_, ?_, ?_, ?_, ?_, ?_, ?_, ?_, by simp⟩
    · exact fun _ => nameless_samplerPlugin _ _
    · exact fun _ => nameless_samplerPlugin _ _
    · exact fun _ => nameless_samplerPlugin _ _
    · exact fun _ => nameless_samplerPlugin _ _
    · exact fun _ => nameless_filmPlugin
    · exact fun _ => nameless_filterPlugin _ (nameless_pure _)
    · exact fun _ => nameless_filterPlugin _ (nameless_pure _)
    · exact fun _ => nameless_filterPlugin _ nameless_gaussianSettings
  · simp [materialPlugins, bsdfPlugin, twoSidedPlugin, homogeneousPlugin, NodeKind.isValue]
  · simp [bodyPlugins, emitterPlugin, shapePlugin, NodeKind.isValue]

end Plugin

/-! ## What is found about a node -/

namespace Finding

/-- Judged so strictly, no finding is a problem. -/
def Passes (strict : Bool) (fs : List Finding) : Prop := problems strict fs = []

variable {strict : Bool}

theorem passes_append {fs gs : List Finding} :
    Passes strict (fs ++ gs) ↔ Passes strict fs ∧ Passes strict gs := by
  rw [Passes, problems, List.filterMap_append, List.append_eq_nil_iff]
  rfl

theorem Passes.of_prefix {fs gs : List Finding} (h : Passes strict gs) (hle : fs <+: gs) :
    Passes strict fs := by
  obtain ⟨more, rfl⟩ := hle
  exact (passes_append.mp h).1

theorem Passes.silent {fs : List Finding} (h : Passes strict fs) : Silent fs :=
  silent_of_problems h

theorem passes_problems {ps : List Problem} : Passes strict (ps.map problem) ↔ ps = [] := by
  cases ps with
  | nil => exact iff_of_true rfl rfl
  | cons p ps => exact iff_of_false (fun h => by cases h) (fun h => by cases h)

theorem passes_unused {us : List Unused} :
    Passes strict (us.map unused) ↔ (strict = true → us = []) := by
  cases strict with
  | false => exact iff_of_true (List.filterMap_eq_nil_iff.mpr (by simp [problem?])) (by simp)
  | true =>
    cases us with
    | nil => exact iff_of_true rfl fun _ => rfl
    | cons u us => exact iff_of_false (fun h => by cases h) (fun h => by cases h rfl)

end Finding

namespace Instantiation

open Finding (Passes passes_append passes_problems passes_unused)

variable {strict : Bool}

theorem passes_inspect {p : Plugin} {n : Node} {children : Attached} :
    Passes strict (inspect p n children).2 ↔
      ((p.build children n.settings).2.problems = [] ∧
        refusals n.kind p.accepts children = []) ∧
        (strict = true →
          unused n.ref (p.build children n.settings).2.asked [] n.properties = []) := by
  rw [← @passes_problems strict, ← @passes_problems strict,
    ← passes_unused, ← passes_append, ← passes_append]
  rfl

/-- No child is refused if all kinds are accepted. -/
theorem refusals_eq_nil {parent : NodeKind} {accepted : List NodeKind} {children : Attached} :
    refusals parent accepted children = [] ↔
      ∀ k ∈ children.items.map (·.object.kind), k ∈ accepted := by
  simp [refusals]

theorem map_kind_alike {xs ys : List Attachment} (h : List.Forall₂ Attachment.Alike xs ys) :
    xs.map (·.object.kind) = ys.map (·.object.kind) := by
  induction h with
  | nil => rfl
  | cons hab _ ih => rw [List.map_cons, List.map_cons, Object.kind_congr hab.object, ih]

/-- Whether all properties are used does not depend on whose they are. -/
theorem unused_eq_nil_iff (r r' : NodeRef) (asked : List String) (ps : List Property) :
    ∀ earlier, unused r asked earlier ps = [] ↔ unused r' asked earlier ps = [] := by
  induction ps with
  | nil => exact fun _ => Iff.rfl
  | cons p ps ih =>
    intro earlier
    simp only [unused]
    split
    · exact ih _
    · exact iff_of_false (List.cons_ne_nil _ _) (List.cons_ne_nil _ _)

/-- What passes with some children passes with children that are equal but for ids, and the
same is made of the node. -/
theorem inspect_alike {p : Plugin} {n : Node} (hp : Plugin.find? n.kind n.type = some p)
    {a b : Attached} (h : a.Alike b) (hpasses : Passes strict (inspect p n a).2) :
    Passes strict (inspect p n b).2 ∧
      (inspect p n a).1.map Product.anonymous = (inspect p n b).1.map Product.anonymous := by
  obtain ⟨hproduct, htrace⟩ := Plugin.impartial_of_find? hp a b h n.settings
  rw [passes_inspect, refusals_eq_nil, htrace, map_kind_alike h.items, ← refusals_eq_nil,
    ← passes_inspect] at hpasses
  exact ⟨hpasses, hproduct⟩

/-- A value that passes is the same without its id. It has filters as children, if any. -/
theorem inspect_anonymous {p : Plugin} {n : Node} (hp : Plugin.find? n.kind n.type = some p)
    (hkind : n.kind.isValue = true) {children : Attached}
    (hpasses : Passes strict (inspect p n children).2) :
    Passes strict (inspect p n.anonymous children).2 ∧
      Product.Alike (inspect p n children).1 (inspect p n.anonymous children).1 ∧
        ∀ k ∈ children.items.map (·.object.kind), k = .filter := by
  obtain ⟨haccepts, hbuild⟩ := Plugin.nameless_of_find? hp hkind
  obtain ⟨⟨hproblems, hrefusals⟩, hunused⟩ := passes_inspect.mp hpasses
  obtain ⟨hproduct, htrace⟩ := hbuild children n.settings hproblems
  have htrace' : (p.build children n.anonymous.settings).2 = (p.build children n.settings).2 :=
    htrace
  refine ⟨passes_inspect.mpr ⟨⟨?_, hrefusals⟩, fun hstrict => ?_⟩, hproduct, fun k hk => ?_⟩
  · rw [htrace']
    exact hproblems
  · rw [htrace']
    exact (unused_eq_nil_iff _ _ _ _ _).mp (hunused hstrict)
  · exact haccepts k (refusals_eq_nil.mp hrefusals k hk)

end Instantiation

end SceneGraph

import SceneGraph.Plugin.Catalogue
import SceneGraph.Proofs.NumberOrder
import SceneGraph.Proofs.Origins
import SceneGraph.Proofs.Slots

/-!
# What plugins let pass

A plugin reports a value that it does not allow and then builds with it all the same.  So nothing
is known of what it makes but this: if it reports nothing, what it makes is in range
(`guarded_of_find?`).  `Yields` is the logic of such inspections, a triple with the silence of the
inspection for its precondition; it goes through a plugin from one step to the next.
-/

namespace SceneGraph

open SceneGraph.Geometry Inspect

/-! ## Ranges -/

def IntegratorKind.InRange : IntegratorKind → Prop
  | .path maxDepth rrDepth _ | .volPath maxDepth rrDepth _ => -1 ≤ maxDepth ∧ 1 ≤ rrDepth
  | .direct .. => True

def SensorKind.InRange : SensorKind → Prop
  | .perspective fov _ _ => 0 < fov ∧ fov < 180
  | .orthographic => True

/-- The default deviation is no exception. -/
def Filter.InRange : Filter → Prop
  | .gaussian stddev => ¬ stddev ≤ 0
  | .box | .tent => True

def Bsdf.InRange : Bsdf → Prop
  | .principled p => (0 ≤ p.metallic ∧ p.metallic ≤ 1) ∧ (0 ≤ p.roughness ∧ p.roughness ≤ 1) ∧
      (0 ≤ p.specTrans ∧ p.specTrans ≤ 1)
  | _ => True

def EmitterKind.InRange : EmitterKind → Prop
  | .envmap _ scale _ => ¬ scale < 0
  | _ => True

def Surface.InRange : Surface → Prop
  | .sphere _ radius => ¬ radius ≤ 0
  | _ => True

def Volume.InRange : Volume → Prop
  | .homogeneous sigmaT albedo _ =>
    (∀ c ∈ sigmaT.toList, ¬ c < 0) ∧ ∀ c ∈ albedo.toList, 0 ≤ c ∧ c ≤ 1

/-- Formats out of the lists and a filter in range. -/
structure FilmInRange (pixelFormat componentFormat : String) (filter : Filter) : Prop where
  pixels : pixelFormat ∈ Plugin.pixelFormats
  components : componentFormat ∈ Plugin.componentFormats
  spread : filter.InRange

def FilmDraft.InRange (d : FilmDraft) : Prop := FilmInRange d.pixelFormat d.componentFormat d.filter

/-- A view that can be projected. -/
structure ViewInRange (kind : SensorKind) (near far : Float32) (toWorld : Mat4) : Prop where
  angle : kind.InRange
  front : ¬ near ≤ 0
  depth : ¬ far ≤ near
  affine : toWorld.isAffine = true

def Object.InRange : Object → Prop
  | .integrator i => i.kind.InRange
  | .sensor d => ViewInRange d.kind d.nearClip d.farClip d.toWorld ∧ ∀ f ∈ d.films, f.InRange
  | .film d => d.InRange
  | .filter f => f.InRange
  | .emitter e => e.kind.InRange
  | .shape d => d.surface.InRange ∧ ∀ e ∈ d.emitters, e.kind.InRange
  | .sampler _ | .bsdf _ | .volume _ => True

def Product.InRange : Product → Prop
  | .object o => o.InRange
  | .bsdf b => b.InRange
  | .volume v => v.InRange

/-! ## Silent inspections -/

/-- The literals that a plugin sees are finite. -/
def Settings.Finite (s : Settings) : Prop := ∀ name p, s.property? name = some p → p.value.Finite

namespace Inspect

variable {α β : Type}

/-- Without a report, the value satisfies `P`. -/
def Yields (P : α → Prop) (m : Inspect α) : Prop :=
  ∀ s : Settings, s.Finite → (m s).2.problems = [] → P (m s).1

theorem Yields.pure {P : α → Prop} {a : α} (h : P a) : Yields P (pure a : Inspect α) :=
  fun _ _ _ => h

/-- Each step of a silent inspection is silent. -/
theorem Yields.bind {P : α → Prop} {Q : β → Prop} {m : Inspect α} {f : α → Inspect β}
    (hm : Yields P m) (hf : ∀ a, P a → Yields Q (f a)) : Yields Q (m >>= f) := by
  intro s hs h
  obtain ⟨hfirst, hnext⟩ := List.append_eq_nil_iff.mp h
  exact hf _ (hm s hs hfirst) s hs hnext

/-- A step of which nothing has to be known. -/
theorem Yields.skip {Q : β → Prop} {m : Inspect α} {f : α → Inspect β}
    (hf : ∀ a, Yields Q (f a)) : Yields Q (m >>= f) :=
  Yields.bind (P := fun _ => True) (fun _ _ _ => trivial) fun a _ => hf a

/-- Behind a silent check, what it forbids is not so. -/
theorem Yields.guard {Q : α → Prop} {bad : Bool} {rule : Violation} {f : Unit → Inspect α}
    (hf : bad = false → Yields Q (f ())) : Yields Q (forbid bad rule >>= f) := by
  refine Yields.bind (P := fun _ => bad = false) ?_ fun _ => hf
  cases bad with
  | true => exact fun _ _ h => nomatch h
  | false => exact fun _ _ _ => rfl

/-- The value of a property is what the plugin takes of a finite literal, if there is one. -/
theorem yields_value? {P : α → Prop} {name : String} {expected : Expected}
    {accept : Value → Option α} (h : ∀ v : Value, v.Finite → ∀ a, accept v = some a → P a) :
    Yields (fun value => ∀ a, value = some a → P a) (value? name expected accept) := by
  intro s hs _ a ha
  have hvalue : (value? name expected accept s).1 =
      (s.property? name).bind fun p => accept p.value := by
    unfold value?
    show Prod.fst (Inspect.andThen (ask name) _ s) = _
    unfold Inspect.andThen ask
    cases s.property? name with
    | none => rfl
    | some p =>
      simp only [accepted, Option.bind_some]
      cases accept p.value <;> rfl
  rw [hvalue] at ha
  obtain ⟨p, hp, hp'⟩ := Option.bind_eq_some_iff.mp ha
  exact h p.value (hs name p hp) a hp'

theorem proper_splat {x : Float32} (h : x.isNaN = false) : (Vec3.splat x).Proper := by
  simpa [Vec3.Proper, Vec3.splat, Vec3.toList] using h

theorem yields_spectrum {name : String} {default : Vec3} (h : default.Proper) :
    Yields Vec3.Proper (spectrum name default) := by
  have hvalue : ∀ v : Value, v.Finite → ∀ a, asSpectrum? v = some a → a.Proper := by
    intro v hv a ha
    cases v with
    | rgb w =>
      obtain rfl := Option.some.inj ha
      exact fun c hc => isNaN_of_isFinite (hv c hc)
    | float x =>
      obtain rfl := Option.some.inj ha
      exact proper_splat (isNaN_of_isFinite hv)
    | integer n =>
      obtain rfl := Option.some.inj ha
      exact proper_splat (Decimal.Binary32.isNaN_ofInt n)
    | _ => cases ha
  refine (yields_value? hvalue).bind fun value hproper => .pure ?_
  cases value with
  | none => exact h
  | some v => exact hproper v rfl

end Inspect

/-! ## Settings of each kind -/

namespace Plugin

theorem yields_pathSettings {make : Int → Int → Bool → IntegratorKind}
    (hmake : ∀ m r hide, -1 ≤ m ∧ 1 ≤ r → (make m r hide).InRange) :
    Yields IntegratorKind.InRange (pathSettings make) := by
  refine .skip fun maxDepth => .skip fun rrDepth => .skip fun hide => .guard fun hmax =>
    .guard fun hrr => .pure (hmake _ _ _ ⟨?_, ?_⟩)
  · exact not_lt.mp (of_decide_eq_false hmax)
  · exact Int.lt_of_not_ge (of_decide_eq_false hrr)

theorem yields_directSettings : Yields IntegratorKind.InRange directSettings :=
  .skip fun _ => .skip fun _ => .skip fun _ => .skip fun _ => .pure trivial

theorem yields_perspectiveSettings : Yields SensorKind.InRange perspectiveSettings := by
  refine .skip fun fov => .guard fun hfov => .skip fun _ => .skip fun _ => .skip fun _ =>
    .skip fun _ => .pure ?_
  show 0 < fov ∧ fov < 180
  simpa using hfov

theorem yields_formatName (property default : String) (formats : List String) :
    Yields (· ∈ formats) (formatName property default formats) := by
  refine .skip fun name => .guard fun hname => .pure ?_
  simpa using hname

theorem yields_gaussianSettings : Yields Filter.InRange gaussianSettings :=
  .skip fun _ => .guard fun hstddev => .pure (of_decide_eq_false hstddev)

theorem yields_principledSettings : Yields Bsdf.InRange principledSettings := by
  unfold principledSettings
  iterate 12 refine .skip fun _ => ?_
  refine .guard fun hmetallic => .guard fun hroughness => .guard fun hspecTrans =>
    .pure ⟨?_, ?_, ?_⟩
  · simpa using hmetallic
  · simpa using hroughness
  · simpa using hspecTrans

theorem yields_envmapSettings : Yields EmitterKind.InRange envmapSettings :=
  .skip fun _ => .skip fun _ => .guard fun hscale => .skip fun _ =>
    .pure (of_decide_eq_false hscale)

theorem yields_sphereSettings : Yields Surface.InRange sphereSettings :=
  .skip fun _ => .guard fun hradius => .skip fun _ => .pure (of_decide_eq_false hradius)

/-! ## Children -/

/-- What is read off children in range is in range. -/
theorem forall_children {β : Type} {f : Object → Option β} {P : β → Prop}
    (hf : ∀ o b, f o = some b → o.InRange → P b) {children : Attached}
    (h : ∀ a ∈ children.items, a.object.InRange) :
    ∀ b ∈ children.items.filterMap fun a => f a.object, P b := by
  intro b hb
  obtain ⟨a, ha, hab⟩ := List.mem_filterMap.mp hb
  exact hf _ _ hab (h a ha)

variable {children : Attached} (h : ∀ a ∈ children.items, a.object.InRange)

include h

theorem films_inRange : ∀ d ∈ children.films, d.InRange := by
  refine forall_children (f := Object.film?) (fun o d hd hrange => ?_) h
  cases o <;> cases hd
  exact hrange

theorem filters_inRange : ∀ f ∈ children.filters, f.InRange := by
  refine forall_children (f := Object.filter?) (fun o d hd hrange => ?_) h
  cases o <;> cases hd
  exact hrange

theorem emitters_inRange : ∀ e ∈ children.emitters, e.kind.InRange := by
  refine forall_children (f := Object.emitter?) (fun o d hd hrange => ?_) h
  cases o <;> cases hd
  exact hrange

omit h

/-! ## Plugins -/

/-- Of children in range and without a report, a plugin makes a product in range. -/
def Guarded (p : Plugin) : Prop :=
  ∀ children : Attached, (∀ a ∈ children.items, a.object.InRange) →
    Yields (fun product => ∀ q, product = some q → q.InRange) (p.build children)

/-- The end of a plugin that has made a product in range. -/
theorem yields_some {q : Product} (h : q.InRange) :
    Yields (fun product => ∀ q, product = some q → q.InRange) (pure (some q)) :=
  .pure fun _ hq => Option.some.inj hq ▸ h

theorem guarded_integratorPlugin (type : String) {settings : Inspect IntegratorKind}
    (h : Yields IntegratorKind.InRange settings) : Guarded (integratorPlugin type settings) :=
  fun _ _ => h.bind fun _ hkind => .skip fun _ => yields_some hkind

theorem guarded_sensorPlugin (type : String) {settings : Inspect SensorKind}
    (h : Yields SensorKind.InRange settings) : Guarded (sensorPlugin type settings) := by
  intro children hchildren
  refine h.bind fun kind hkind => .skip fun near => .skip fun far => .guard fun hnear =>
    .guard fun hfar => .skip fun toWorld => .guard fun haffine => .skip fun _ =>
    yields_some ⟨⟨hkind, ?_, ?_, ?_⟩, films_inRange hchildren⟩
  · exact of_decide_eq_false hnear
  · exact of_decide_eq_false hfar
  · simpa using haffine

theorem guarded_samplerPlugin (type : String) (kind : SamplerKind) :
    Guarded (samplerPlugin type kind) :=
  fun _ _ => .skip fun _ => .skip fun _ => .skip fun _ => yields_some trivial

theorem usual_inRange : Filter.usual.InRange := by
  show ¬ (0.5 : Float32) ≤ 0
  decide +kernel

theorem guarded_filmPlugin : Guarded filmPlugin := by
  intro children hchildren
  refine .skip fun _ => .skip fun _ => (yields_formatName _ _ _).bind fun _ hpixels =>
    (yields_formatName _ _ _).bind fun _ hcomponents => .guard fun _ => .skip fun _ =>
    yields_some ⟨hpixels, hcomponents, ?_⟩
  cases hfilters : children.filters with
  | nil => exact usual_inRange
  | cons f _ => exact filters_inRange hchildren f (by rw [hfilters]; exact List.mem_cons_self)

theorem guarded_filterPlugin (type : String) {settings : Inspect Filter}
    (h : Yields Filter.InRange settings) : Guarded (filterPlugin type settings) :=
  fun _ _ => h.bind fun _ hfilter => yields_some hfilter

theorem guarded_viewPlugins : ∀ p ∈ viewPlugins, Guarded p := by
  simp only [viewPlugins, List.forall_mem_cons]
  refine ⟨?_, ?_, ?_, ?_, ?_, ?_, ?_, ?_, ?_, ?_, ?_, ?_, ?_, List.forall_mem_nil _⟩
  · exact guarded_integratorPlugin _ (yields_pathSettings fun _ _ _ h => h)
  · exact guarded_integratorPlugin _ (yields_pathSettings fun _ _ _ h => h)
  · exact guarded_integratorPlugin _ yields_directSettings
  · exact guarded_sensorPlugin _ yields_perspectiveSettings
  · exact guarded_sensorPlugin _ (.pure trivial)
  · exact guarded_samplerPlugin _ _
  · exact guarded_samplerPlugin _ _
  · exact guarded_samplerPlugin _ _
  · exact guarded_samplerPlugin _ _
  · exact guarded_filmPlugin
  · exact guarded_filterPlugin _ (.pure trivial)
  · exact guarded_filterPlugin _ (.pure trivial)
  · exact guarded_filterPlugin _ yields_gaussianSettings

theorem guarded_bsdfPlugin (type : String) {settings : Inspect Bsdf}
    (h : Yields Bsdf.InRange settings) : Guarded (bsdfPlugin type settings) :=
  fun _ _ => h.bind fun _ hbsdf => yields_some hbsdf

theorem guarded_twoSidedPlugin : Guarded twoSidedPlugin := by
  intro children _ s _ _ q hq
  rcases twoSidedPlugin_cases children s with hnone | ⟨front, back, -, hsome⟩
  · rw [hnone] at hq
    cases hq
  · rw [hsome] at hq
    obtain rfl := Option.some.inj hq
    exact trivial

theorem guarded_homogeneousPlugin : Guarded homogeneousPlugin := by
  have hzero : (0 : Float32).isNaN = false := by decide +kernel
  have hone : (1 : Float32).isNaN = false := by decide +kernel
  have hmiddle : (0.75 : Float32).isNaN = false := by decide +kernel
  intro children _
  refine (yields_spectrum (proper_splat hone)).bind fun sigmaT hsigma =>
    (yields_spectrum (proper_splat hmiddle)).bind fun albedo halbedo =>
    .skip fun _ => .guard fun hleast => .guard fun hrange => yields_some ⟨?_, fun c hc => ?_⟩
  · exact Vec3.not_lt_of_least hsigma hzero (of_decide_eq_false hleast)
  · obtain ⟨hlow, hhigh⟩ : ¬ albedo.least < 0 ∧ ¬ 1 < albedo.greatest := by simpa using hrange
    have hproper := halbedo c hc
    exact ⟨le_of_not_lt hzero hproper (Vec3.not_lt_of_least halbedo hzero hlow c hc),
      le_of_not_lt hproper hone (Vec3.not_lt_of_greatest halbedo hone hhigh c hc)⟩

theorem guarded_materialPlugins : ∀ p ∈ materialPlugins, Guarded p := by
  simp only [materialPlugins, List.forall_mem_cons]
  refine ⟨?_, guarded_twoSidedPlugin, ?_, ?_, ?_, ?_, guarded_homogeneousPlugin,
    List.forall_mem_nil _⟩
  · exact guarded_bsdfPlugin _ (.skip fun _ => .pure trivial)
  · exact guarded_bsdfPlugin _ yields_principledSettings
  · exact guarded_bsdfPlugin _ (.skip fun _ => .skip fun _ => .pure trivial)
  · exact guarded_bsdfPlugin _ (.skip fun _ => .skip fun _ => .skip fun _ => .pure trivial)
  · exact guarded_bsdfPlugin _ (.skip fun _ => .skip fun _ => .skip fun _ => .pure trivial)

theorem guarded_emitterPlugin (type : String) {settings : Inspect EmitterKind}
    (h : Yields EmitterKind.InRange settings) : Guarded (emitterPlugin type settings) :=
  fun _ _ => h.bind fun _ hkind => .skip fun _ => yields_some hkind

theorem guarded_shapePlugin (type : String) {settings : Inspect Surface}
    (h : Yields Surface.InRange settings) : Guarded (shapePlugin type settings) :=
  fun _ hchildren => h.bind fun _ hsurface => .skip fun _ => .skip fun _ => .skip fun _ =>
    .skip fun _ => yields_some ⟨hsurface, emitters_inRange hchildren⟩

theorem guarded_bodyPlugins : ∀ p ∈ bodyPlugins, Guarded p := by
  have hmesh : ∀ format, Yields Surface.InRange (meshSettings format) := fun _ =>
    .skip fun _ => .skip fun _ => .pure trivial
  simp only [bodyPlugins, List.forall_mem_cons]
  refine ⟨?_, ?_, ?_, ?_, ?_, ?_, ?_, ?_, ?_, ?_, ?_, List.forall_mem_nil _⟩
  · exact guarded_emitterPlugin _ (.skip fun _ => .pure trivial)
  · exact guarded_emitterPlugin _ (.skip fun _ => .skip fun _ => .pure trivial)
  · exact guarded_emitterPlugin _ (.skip fun _ => .skip fun _ => .skip fun _ => .pure trivial)
  · exact guarded_emitterPlugin _ yields_envmapSettings
  · exact guarded_emitterPlugin _ (.skip fun _ => .pure trivial)
  · exact guarded_shapePlugin _ (hmesh _)
  · exact guarded_shapePlugin _ (hmesh _)
  · exact guarded_shapePlugin _ yields_sphereSettings
  · exact guarded_shapePlugin _ (.pure trivial)
  · exact guarded_shapePlugin _ (.pure trivial)
  · exact guarded_shapePlugin _ (.pure trivial)

/-- Every plugin is guarded. -/
theorem guarded_of_find? {kind : NodeKind} {type : String} {p : Plugin}
    (h : find? kind type = some p) : Guarded p :=
  forall_of_find? guarded_viewPlugins guarded_materialPlugins guarded_bodyPlugins h

end Plugin

end SceneGraph

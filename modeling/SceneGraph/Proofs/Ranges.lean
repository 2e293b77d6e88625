import SceneGraph.Proofs.Contributions
import SceneGraph.Proofs.Guards
import SceneGraph.Proofs.Success
import SceneGraph.Proofs.Upkeep

/-!
# Nothing out of range comes into a scene

Building publishes an object whether or not its plugin reported it, and references carry it on, so
a bad value may be anywhere while there is a report.  In a run without a report there is none: every
step keeps all objects that are known, stored or handed on in range (`inRange_upkeep`).  A scene
takes its values from there (`assemble_inRange`), and a load that succeeds is such a run
(`text_inRange`).
-/

namespace SceneGraph

open SceneGraph.Geometry
open Instantiation (Upkeep State)

/-! ## Definitions -/

def Film.InRange (f : Film) : Prop := FilmInRange f.pixelFormat f.componentFormat f.filter

/-- Every bsdf and every volume is in range. -/
structure Arena.InRange (a : Arena) : Prop where
  bsdfs : ∀ b ∈ a.bsdfs, b.bsdf.InRange
  volumes : ∀ v ∈ a.volumes, v.volume.InRange

/-- Everything that is known or stored is in range. -/
structure Instantiation.State.InRange (s : State) : Prop where
  known : ∀ e ∈ s.registry.entries, ∀ o, e.status = .built o → o.InRange
  arena : s.arena.InRange

/-- Everything in a scene is in range. -/
structure Scene.InRange (scene : Scene) : Prop where
  integrator : ∀ i ∈ scene.integrator, i.kind.InRange
  sensors : ∀ s ∈ scene.sensors,
    ViewInRange s.kind s.nearClip s.farClip s.toWorld ∧ s.film.InRange
  shapes : ∀ s ∈ scene.shapes, s.surface.InRange ∧ ∀ e ∈ s.emitter, e.kind.InRange
  emitters : ∀ e ∈ scene.emitters, e.kind.InRange
  arena : Arena.InRange ⟨scene.bsdfs, scene.volumes⟩

/-! ## Steps -/

theorem Arena.InRange.store {a : Arena} (ha : a.InRange) (id : Option String) {p : Product}
    (hp : p.InRange) : (a.store id p).1.InRange ∧ (a.store id p).2.InRange := by
  cases p with
  | object o => exact ⟨hp, ha⟩
  | bsdf b =>
    refine ⟨trivial, ?_, ha.volumes⟩
    exact List.forall_mem_append.mpr ⟨ha.bsdfs, List.forall_mem_singleton.mpr hp⟩
  | volume v =>
    refine ⟨trivial, ha.bsdfs, ?_⟩
    exact List.forall_mem_append.mpr ⟨ha.volumes, List.forall_mem_singleton.mpr hp⟩

namespace Instantiation

open Finding (Silent)

/-- The literals of a node are finite. -/
def FiniteLiterals (n : Node) : Prop := ∀ p ∈ n.properties, p.value.Finite

theorem settings_finite {n : Node} (hn : FiniteLiterals n) : n.settings.Finite :=
  fun _ p hp => hn p (List.mem_of_find?_eq_some hp)

theorem finish_inRange {s : State} {n : Node} {children : Attached} (hs : s.InRange)
    (hn : FiniteLiterals n) (hchildren : ∀ a ∈ children.items, a.object.InRange)
    (h : Silent (finish n children s).2.findings) :
    (finish n children s).2.InRange ∧ ∀ o, (finish n children s).1 = .built o → o.InRange := by
  obtain ⟨-, hfinish⟩ | ⟨p, fs, -, -, hfinish⟩ | ⟨p, product, fs, hp, hinspect, hfinish⟩ :=
    finish_cases n children s
  · rw [hfinish]
    exact ⟨⟨hs.known, hs.arena⟩, fun o ho => nomatch ho⟩
  · rw [hfinish]
    exact ⟨⟨hs.known, hs.arena⟩, fun o ho => nomatch ho⟩
  · rw [hfinish] at h ⊢
    obtain ⟨hproduct, hfindings⟩ := Prod.mk.inj hinspect
    have hproblems : (p.build children n.settings).2.problems = [] := by
      rw [List.eq_nil_iff_forall_not_mem]
      intro q hq
      apply h q
      rw [← hfindings]
      simp [hq]
    have hrange := Plugin.guarded_of_find? hp children hchildren n.settings (settings_finite hn)
      hproblems product hproduct
    obtain ⟨hobject, harena⟩ := hs.arena.store n.id hrange
    refine ⟨⟨hs.known, harena⟩, fun o ho => ?_⟩
    dsimp only at ho
    split at ho
    · obtain rfl := Outcome.built.inj ho
      exact hobject
    · cases ho

/-- In silence, building keeps everything in range. -/
theorem inRange_upkeep : Upkeep Silent FiniteLiterals Object.InRange State.InRange where
  earlier := fun hle h => h.of_prefix hle
  known := fun hs he hstatus => hs.known _ he _ hstatus
  lookedUp := by
    intro s n r hs _ _
    exact ⟨by rw [lookedUp_registry]; exact hs.known, by rw [lookedUp_arena]; exact hs.arena⟩
  finish := fun hs hn hchildren h => finish_inRange hs hn (fun a ha => (hchildren a ha).object) h
  publish := by
    intro s id index outcome hs houtcome
    refine ⟨fun e he o ho => ?_, by rw [publish_arena]; exact hs.arena⟩
    obtain ⟨e', he', -, hstatus | hstatus⟩ := mem_publish_entries he
    · exact hs.known e' he' o (hstatus ▸ ho)
    · exact houtcome o (built_of_status (hstatus ▸ ho))

theorem initial_inRange (forest : List Node) : (initial forest).InRange where
  known := by
    intro e he o ho
    rw [pending_of_mem_declared he] at ho
    cases ho
  arena := ⟨List.forall_mem_nil _, List.forall_mem_nil _⟩

/-- A run without a problem leaves roots and an arena in range. -/
theorem run_inRange {forest : List Node} (hforest : ∀ n ∈ postorder forest, FiniteLiterals n)
    (h : Silent (run forest).2) :
    (∀ r ∈ (run forest).1.roots, r.object.InRange) ∧ (run forest).1.arena.InRange := by
  rw [run_eq] at h ⊢
  obtain ⟨hstate, hroots⟩ :=
    inRange_upkeep.buildAll_upkeep forest (initial_inRange forest) hforest h
  exact ⟨fun r hr => (hroots r hr).1, hstate.arena⟩

end Instantiation

/-! ## Parts of a scene -/

/-- Each of several values is that of one of the computations. -/
theorem Checked.exists_of_mem_all {α : Type} {cs : List (Checked α)} {as : List α}
    (h : (all cs).value? = some as) : ∀ a ∈ as, ∃ c ∈ cs, c.value? = some a :=
  exists_of_forall₂ (value?_all_iff.mp h)

namespace Assembly

open Instantiation (Root)

theorem film_inRange {d : FilmDraft} {f : Film} (hd : d.InRange) (h : (film d).value? = some f) :
    f.InRange := by
  unfold film at h
  obtain ⟨size, -, h⟩ := Checked.value?_bind h
  obtain rfl := Checked.value?_of h
  exact hd

theorem sensor_inRange {d : SensorDraft} {s : Sensor} (hd : (Object.sensor d).InRange)
    (h : (sensor d).value? = some s) :
    ViewInRange s.kind s.nearClip s.farClip s.toWorld ∧ s.film.InRange := by
  obtain ⟨hview, hfilms⟩ := hd
  unfold sensor at h
  obtain ⟨x, hx, h⟩ := Checked.value?_bind h
  split at h
  · next c sampler film' =>
    obtain ⟨-, hparts⟩ := Checked.value?_both hx
    obtain ⟨-, hall⟩ := Checked.value?_both hparts
    obtain ⟨c, hc, hfilm⟩ := Checked.exists_of_mem_all hall film' (List.mem_singleton_self _)
    obtain ⟨draft, hdraft, rfl⟩ := List.mem_map.mp hc
    obtain rfl := Checked.value?_of h
    exact ⟨hview, film_inRange (hfilms draft hdraft) hfilm⟩
  · cases h

theorem shape_inRange {d : ShapeDraft} {s : Shape} (hd : (Object.shape d).InRange)
    (h : (shape d).value? = some s) :
    s.surface.InRange ∧ ∀ e ∈ s.emitter, e.kind.InRange := by
  obtain ⟨hsurface, hemitters⟩ := hd
  unfold shape at h
  obtain ⟨⟨bsdf, emitter⟩, hparts, h⟩ := Checked.value?_bind h
  obtain ⟨-, hemitter⟩ := Checked.value?_both hparts
  obtain rfl := Checked.value?_of h
  refine ⟨hsurface, fun e he => ?_⟩
  obtain rfl : emitter = some e := he
  unfold shapeEmitter at hemitter
  split at hemitter
  · cases hemitter
  · next e' hsingle =>
    split at hemitter
    · obtain rfl := Option.some.inj (Checked.value?_of hemitter)
      exact hemitters e' (by rw [hsingle]; exact List.mem_cons_self)
    · cases hemitter
  · cases hemitter

/-- A scene of roots and an arena in range is in range. -/
theorem assemble_inRange {version : Version} {params : Parameter.Table} {inst : Instantiation}
    {scene : Scene} (hroots : ∀ r ∈ inst.roots, r.object.InRange) (harena : inst.arena.InRange)
    (h : assemble version params inst = .ok scene) : scene.InRange := by
  obtain ⟨-, rfl⟩ := assemble_ok h
  rw [Parts.addAll_eq]
  constructor
  · intro i hi
    obtain ⟨r, hr, hi⟩ := List.exists_of_findSome?_eq_some hi
    have hrange := hroots r hr
    rwa [Root.integrator?_eq_some.mp hi] at hrange
  · intro s hs
    obtain ⟨r, hr, hs⟩ := List.mem_filterMap.mp hs
    obtain ⟨d, hobject, hs⟩ := Root.sensor?_eq_some.mp hs
    exact sensor_inRange (hobject ▸ hroots r hr) hs
  · intro s hs
    obtain ⟨r, hr, hs⟩ := List.mem_filterMap.mp hs
    obtain ⟨d, hobject, hs⟩ := Root.shape?_eq_some.mp hs
    exact shape_inRange (hobject ▸ hroots r hr) hs
  · intro e he
    obtain ⟨r, hr, he⟩ := List.mem_filterMap.mp he
    have hrange := hroots r hr
    rwa [(Root.emitter?_eq_some.mp he).1] at hrange
  · exact harena

end Assembly

/-! ## Top theorem -/

namespace Load

/-- **Nothing out of range comes into a scene.**  All that plugins check of the values of their
nodes holds of the integrator, the sensors with their films and filters, the shapes with their
emitters, the other emitters, the bsdfs and the volumes of a scene that is loaded. -/
theorem text_inRange (options : Options) (source : String) (scene : Scene)
    (h : (text options source).result = .ok scene) : scene.InRange := by
  obtain ⟨root, -, hload⟩ := text_ok_iff.mp h
  obtain ⟨version, -, hassemble⟩ := hload.scene
  have hforest : ∀ n ∈ postorder (forest options root).value, Instantiation.FiniteLiterals n :=
    fun n hn p hp => ((Node.readForest_from root.children 0 n hn).properties p hp).1
  obtain ⟨hroots, harena⟩ :=
    Instantiation.run_inRange hforest (Finding.silent_of_problems hload.objects)
  exact Assembly.assemble_inRange hroots harena hassemble

/-- A description with a value at the end of its range, and with others left to their defaults. -/
def foggySphere : String :=
  "<scene version=\"2.1.0\"><sensor type=\"perspective\"><sampler type=\"independent\"/>" ++
    "<film type=\"hdrfilm\"/></sensor><shape type=\"sphere\"><bsdf type=\"principled\">" ++
    "<float name=\"metallic\" value=\"1\"/></bsdf>" ++
    "<volume name=\"interior\" type=\"homogeneous\"/></shape></scene>"

theorem text_inRange_foggySphere :
    ∃ scene, (text ⟨[], false⟩ foggySphere).result = .ok scene ∧
      scene.shapes.map (·.surface) = [.sphere Vec3.zero 1] ∧
      scene.volumes.map (·.volume) = [.homogeneous Vec3.one (Vec3.splat 0.75) 1] ∧
      scene.InRange := by
  have hload : (text ⟨[], false⟩ foggySphere).result.toOption.any (fun scene =>
      scene.shapes.map (·.surface) == [.sphere Vec3.zero 1] &&
        scene.volumes.map (·.volume) == [.homogeneous Vec3.one (Vec3.splat 0.75) 1]) = true := by
    decide +kernel
  obtain ⟨scene, hscene, hholds⟩ := exists_of_any hload
  obtain ⟨hsurfaces, hvolumes⟩ := Bool.and_eq_true_iff.mp hholds
  exact ⟨scene, hscene, eq_of_beq hsurfaces, eq_of_beq hvolumes,
    text_inRange ⟨[], false⟩ foggySphere scene hscene⟩

end Load

end SceneGraph

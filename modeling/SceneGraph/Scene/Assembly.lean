import SceneGraph.Checked
import SceneGraph.Instantiation
import SceneGraph.Parameter.Table

/-!
# Checking and assembling a scene

Every root object is checked, and everything that a sensor or a shape holds with it, so that
one load reports all that is wrong. Objects that are used in several places are checked in
each of them; a problem is reported once.
-/

namespace SceneGraph.Assembly

open Instantiation (Root)

/-- A rule that a node breaks. -/
def breaks {α : Type} (node : NodeRef) (rule : Violation) : Checked α :=
  .fail (.violation node rule)

/-- A positive integer of 32 bits. -/
def positiveCount (node : NodeRef) (property : String) (n : Int) : Checked Nat :=
  if 0 < n && n < UInt32.size then .of n.toNat else breaks node (.notPositiveCount property n)

def seed (node : NodeRef) (n : Int) : Checked Nat :=
  if 0 ≤ n && n < UInt32.size then .of n.toNat else breaks node (.seedRange n)

def sampler (d : SamplerDraft) : Checked Sampler := do
  let (count, seed) ← (positiveCount d.node "sample_count" d.sampleCount).both (seed d.node d.seed)
  return ⟨d.kind, count, seed⟩

def film (d : FilmDraft) : Checked Film := do
  let (width, height) ←
    (positiveCount d.node "width" d.width).both (positiveCount d.node "height" d.height)
  return ⟨width, height, d.pixelFormat, d.componentFormat, d.filter⟩

/-- The element of a list that should have one. -/
def single {α : Type} (node : NodeRef) (rule : Nat → Violation) : List α → Checked α
  | [a] => .of a
  | as => breaks node (rule as.length)

/-- A sensor has one sampler and one film. Those that it has are checked whatever their
number. -/
def sensor (d : SensorDraft) : Checked Sensor := do
  let counts := (single d.node .samplerCount d.samplers).both (single d.node .filmCount d.films)
  let parts := (Checked.all (d.samplers.map sampler)).both (Checked.all (d.films.map film))
  match ← counts.both parts with
  | (_, [sampler], [film]) =>
    return ⟨d.node.id, d.kind, d.nearClip, d.farClip, d.toWorld, sampler, film⟩
  | _ => ⟨none, []⟩

def shapeBsdf (node : NodeRef) : List BsdfHandle → Checked BsdfHandle
  | [h] => .of h
  | [] => breaks node .noBsdf
  | hs => breaks node (.severalBsdfs hs.length)

def shapeEmitter (node : NodeRef) : List Emitter → Checked (Option Emitter)
  | [] => .of none
  | [e] => if e.kind.isArea then .of (some e) else breaks node .attachedEmitterKind
  | es => breaks node (.severalEmitters es.length)

/-- A shape has one bsdf and at most one emitter, an area emitter. -/
def shape (d : ShapeDraft) : Checked Shape := do
  let (bsdf, emitter) ← (shapeBsdf d.node d.bsdfs).both (shapeEmitter d.node d.emitters)
  return ⟨d.node.id, d.surface, d.toWorld, d.flipNormals, bsdf, emitter, d.interior, d.exterior,
    d.node.location⟩

/-- The parts of a scene that come from its roots. -/
structure Parts where
  integrator : Option Integrator
  sensors : List Sensor
  emitters : List Emitter
  shapes : List Shape

namespace Parts

def empty : Parts := ⟨none, [], [], []⟩

/-- Nothing to add, but a node that must have an id, because only a reference can use it. -/
def named (parts : Parts) (node : NodeRef) (problems : List Problem) : Parts × List Problem :=
  (parts, if node.id.isSome then problems else [.violation node (.unownedNode node.kind)])

/-- Checks a root and adds what it contributes. -/
def add (parts : Parts) (root : Root) : Parts × List Problem :=
  match root.object with
  | .integrator i =>
    if parts.integrator.isSome then (parts, [.violation root.node .severalIntegrators])
    else ({ parts with integrator := some i }, [])
  | .sensor d =>
    let s := sensor d
    ({ parts with sensors := parts.sensors ++ s.value?.toList }, s.problems)
  | .sampler d => parts.named root.node (sampler d).problems
  | .film d => parts.named root.node (film d).problems
  | .filter _ => parts.named root.node []
  | .emitter e =>
    if e.kind.isArea then (parts, [.violation root.node .unattachedArea])
    else ({ parts with emitters := parts.emitters ++ [e] }, [])
  | .shape d =>
    let s := shape d
    ({ parts with shapes := parts.shapes ++ s.value?.toList }, s.problems)
  | .bsdf _ | .volume _ => (parts, [])

def addAll (parts : Parts) : List Root → Parts × List Problem
  | [] => (parts, [])
  | r :: rs =>
    let (parts, problems) := parts.add r
    let (parts, more) := parts.addAll rs
    (parts, problems ++ more)

end Parts

/-- A problem is kept where it is met first. -/
def distinct (problems : List Problem) : List Problem :=
  problems.foldl (fun kept p => if kept.contains p then kept else kept ++ [p]) []

theorem mem_foldl_distinct {p : Problem} (problems : List Problem) : ∀ kept : List Problem,
    p ∈ problems.foldl (fun kept p => if kept.contains p then kept else kept ++ [p]) kept ↔
      p ∈ kept ∨ p ∈ problems := by
  induction problems with
  | nil => simp
  | cons q qs ih =>
    intro kept
    rw [List.foldl_cons, ih, List.mem_cons]
    split
    · next hkept =>
      constructor
      · exact Or.imp_right .inr
      · rintro (hp | rfl | hp)
        · exact .inl hp
        · exact .inl (List.contains_iff_mem.mp hkept)
        · exact .inr hp
    · rw [List.mem_append, List.mem_singleton, or_assoc]

/-- No problem is lost or made up. -/
theorem mem_distinct {problems : List Problem} {p : Problem} :
    p ∈ distinct problems ↔ p ∈ problems := by
  rw [distinct, mem_foldl_distinct]
  simp

theorem nodup_foldl_distinct (problems : List Problem) : ∀ {kept : List Problem}, kept.Nodup →
    (problems.foldl (fun kept p => if kept.contains p then kept else kept ++ [p]) kept).Nodup := by
  induction problems with
  | nil => exact id
  | cons q qs ih =>
    intro kept hkept
    rw [List.foldl_cons]
    split
    · exact ih hkept
    · next hnew =>
      refine ih (List.nodup_append.mpr ⟨hkept, by simp, ?_⟩)
      rintro a ha b hb rfl
      exact hnew (List.contains_iff_mem.mpr (List.mem_singleton.mp hb ▸ ha))

theorem nodup_distinct (problems : List Problem) : (distinct problems).Nodup :=
  nodup_foldl_distinct problems (by simp)

/-- A scene has something to see it with and something to see. -/
def sceneProblems (roots : List Root) : List Problem :=
  (if roots.any (·.object.kind = .sensor) then [] else [.sceneViolation .noSensor]) ++
    (if roots.any (·.object.kind = .shape) then [] else [.sceneViolation .noShape])

/-- Names and values, in the order of the names. -/
def parameters (t : Parameter.Table) : List (String × String) :=
  (t.parameters.map fun p => (p.name, p.value)).mergeSort fun a b => a.1 ≤ b.1

theorem parameters_perm (t : Parameter.Table) :
    (parameters t).Perm (t.parameters.map fun p => (p.name, p.value)) := List.mergeSort_perm _ _

/-- The scene of an instantiation, or everything that is wrong with it. -/
def assemble (version : Version) (params : Parameter.Table) (inst : Instantiation) :
    Except (List Problem) Scene :=
  let (parts, found) := Parts.empty.addAll inst.roots
  let problems := distinct found ++ sceneProblems inst.roots
  if problems.isEmpty then
    .ok ⟨version, parameters params, parts.integrator, parts.sensors, inst.arena.bsdfs,
      parts.emitters, parts.shapes, inst.arena.volumes⟩
  else .error problems

end SceneGraph.Assembly

import SceneGraph.Proofs.Accounts
import SceneGraph.Proofs.Mirroring

/-!
# What a node keeps of its element

Reading goes on behind an element that it cannot read, so a node may be there although there is
something to report.  Even then it tells nothing but the truth about its element (`Node.From`):
kind, type, id and position are those of an element with the tag of the kind, every property and
every child stands where an element stands, and the numbers in its properties are finite.

Where a node comes from is known from the account of its element (`readForest_from`), so what is
left to show here is that the readers of literals make no infinite numbers.
-/

namespace SceneGraph

open SceneGraph.Geometry Markup

/-! ## Definitions -/

/-- Numbers that are neither infinite nor undefined. -/
def Geometry.Vec3.Finite (v : Vec3) : Prop := ∀ c ∈ v.toList, c.isFinite = true

/-- The numbers of a literal are finite.  A transform is computed, and may overflow. -/
def Value.Finite : Value → Prop
  | .float x => x.isFinite = true
  | .rgb v | .point v | .vector v => v.Finite
  | _ => True

/-- The element that a reference to a node is about: its tag is the kind, and its attributes with
their parameters substituted are the type and the id. -/
structure NodeRef.Names (params : Parameter.Table) (r : NodeRef) (e : Element) : Prop where
  location : e.location = r.location
  tag : e.tag = r.kind.name
  type : Attribute.value? params e "type" = .of (some r.type)
  id : Attribute.value? params e "id" = .of r.id

def Child.location : Child → Location
  | .nested n => n.location
  | .reference r => r.location

/-- A node that is read from one of the elements `es`, with its content from others. -/
structure Node.From (params : Parameter.Table) (es : List Element) (n : Node) : Prop where
  named : ∃ e ∈ es, n.ref.Names params e
  properties : ∀ p ∈ n.properties, p.value.Finite ∧ ∃ e ∈ es, e.location = p.location
  children : ∀ c ∈ n.children, ∃ e ∈ es, e.location = c.location

/-! ## Values that are there -/

namespace Checked

variable {α β : Type}

/-- A sequence has a value only if each of its steps has. -/
theorem value?_bind {c : Checked α} {f : α → Checked β} {b : β}
    (h : (c >>= f).value? = some b) : ∃ a, c.value? = some a ∧ (f a).value? = some b := by
  rw [bind_eq, andThen] at h
  split at h
  · cases h
  · next a ha => exact ⟨a, ha, h⟩

theorem value?_of {a b : α} (h : (of a).value? = some b) : a = b := Option.some.inj h

theorem value?_both {c : Checked α} {d : Checked β} {x : α × β}
    (h : (c.both d).value? = some x) : c.value? = some x.1 ∧ d.value? = some x.2 := by
  obtain ⟨a, ha, h⟩ := Option.bind_eq_some_iff.mp h
  obtain ⟨b, hb, rfl⟩ := Option.map_eq_some_iff.mp h
  exact ⟨ha, hb⟩

end Checked

variable {params : Parameter.Table} {e : Element}

/-! ## Numbers -/

theorem Geometry.Vec3.finite_mk {x y z : Float32} (hx : x.isFinite = true)
    (hy : y.isFinite = true) (hz : z.isFinite = true) : (⟨x, y, z⟩ : Vec3).Finite := by
  intro c hc
  simp only [toList, List.mem_cons, List.not_mem_nil, or_false] at hc
  rcases hc with rfl | rfl | rfl
  · exact hx
  · exact hy
  · exact hz

namespace Literal

theorem readFloat_finite {cs : List Char} {x : Float32} (h : readFloat cs = .ok x) :
    x.isFinite = true := by
  unfold readFloat at h
  dsimp only at h
  split at h
  · split at h
    · next hfinite =>
      obtain rfl := Except.ok.inj h
      exact hfinite
    · split at h
      · cases h
      · cases h
  · cases h

/-- A list of numbers is read word by word. -/
theorem readFloats_eq_ok_iff {cs : List Char} {xs : List Float32} : readFloats cs = .ok xs ↔
    List.Forall₂ (fun word x => readFloat word = .ok x) (Text.words cs) xs := by
  unfold readFloats
  generalize Text.words cs = words
  induction words generalizing xs with
  | nil => simp [pure, Except.pure, eq_comm]
  | cons word words ih =>
    rw [List.mapM_cons, List.forall₂_cons_left_iff]
    constructor
    · intro h
      cases hword : readFloat word with
      | error fault =>
        rw [hword] at h
        cases h
      | ok x =>
        cases hwords : words.mapM readFloat with
        | error fault =>
          rw [hword, hwords] at h
          cases h
        | ok ys =>
          rw [hword, hwords] at h
          exact ⟨x, ys, rfl, ih.mp hwords, (Except.ok.inj h).symm⟩
    · rintro ⟨x, ys, hx, hys, rfl⟩
      rw [hx, ih.mpr hys]
      rfl

theorem readFloats_finite {cs : List Char} {xs : List Float32} (h : readFloats cs = .ok xs) :
    ∀ x ∈ xs, x.isFinite = true := by
  have hread := readFloats_eq_ok_iff.mp h
  clear h
  generalize Text.words cs = words at hread
  induction hread with
  | nil => exact List.forall_mem_nil _
  | cons hword _ ih => exact List.forall_mem_cons.mpr ⟨readFloat_finite hword, ih⟩

theorem readTriple_finite {kind : LiteralKind} {cs : List Char} {v : Vec3}
    (h : readTriple kind cs = .ok v) : v.Finite := by
  unfold readTriple at h
  split at h
  · cases h
  · next x y z hvalues =>
    obtain rfl := Except.ok.inj h
    exact readFloats_finite hvalues
  · cases h

/-- A literal is finite if all that its reader makes is. -/
theorem finite_of_map {α : Type} {make : α → Value} {result : Except Fault α} {v : Value}
    (h : make <$> result = .ok v) (hmake : ∀ a, result = .ok a → (make a).Finite) : v.Finite := by
  cases hresult : result with
  | error fault =>
    rw [hresult] at h
    cases h
  | ok a =>
    rw [hresult] at h
    obtain rfl := Except.ok.inj h
    exact hmake a hresult

theorem read_finite {kind : LiteralKind} {raw : String} {v : Value}
    (h : read kind raw = .ok v) : v.Finite := by
  cases kind with
  | integer => exact finite_of_map h fun _ _ => trivial
  | float => exact finite_of_map h fun _ hx => readFloat_finite hx
  | boolean => exact finite_of_map h fun _ _ => trivial
  | text =>
    obtain rfl := Except.ok.inj h
    exact trivial
  | rgb => exact finite_of_map h fun _ hv => readTriple_finite hv
  | point => exact finite_of_map h fun _ hv => readTriple_finite hv
  | vector => exact finite_of_map h fun _ hv => readTriple_finite hv

end Literal

namespace Attribute

theorem checkLiteral_value? {α : Type} {property : String} {r : Except Literal.Fault α} {a : α}
    (h : (checkLiteral e property r).value? = some a) : r = .ok a := by
  cases r with
  | ok b => rw [Checked.value?_of h]
  | error fault => cases h

theorem coordinate_finite {fill : Float32} (hfill : fill.isFinite = true) {kind : LiteralKind}
    {property axis : String} {x : Float32}
    (h : (coordinate params e fill kind property axis).value? = some x) : x.isFinite = true := by
  unfold coordinate at h
  obtain ⟨raw, -, h⟩ := Checked.value?_bind h
  cases raw with
  | none =>
    rw [← Checked.value?_of h]
    exact hfill
  | some raw =>
    have hread := checkLiteral_value? h
    cases hx : Literal.readFloat raw.toList with
    | error fault =>
      rw [hx] at hread
      cases hread
    | ok y =>
      rw [hx] at hread
      obtain rfl := Except.ok.inj hread
      exact Literal.readFloat_finite hx

theorem coordinates_finite {fill : Float32} (hfill : fill.isFinite = true) {kind : LiteralKind}
    {property : String} {v : Vec3}
    (h : (coordinates params e fill kind property).value? = some v) : v.Finite := by
  unfold coordinates at h
  obtain ⟨x, hx, h⟩ := Checked.value?_bind h
  obtain ⟨y, hy, h⟩ := Checked.value?_bind h
  obtain ⟨z, hz, h⟩ := Checked.value?_bind h
  obtain rfl := Checked.value?_of h
  exact Vec3.finite_mk (coordinate_finite hfill hx) (coordinate_finite hfill hy)
    (coordinate_finite hfill hz)

end Attribute

/-! ## Contents -/

namespace Node

theorem readLiteral_finite {kind : LiteralKind} {name : String} {v : Value}
    (h : (readLiteral params kind name e).value? = some v) : v.Finite := by
  have hzero : (0 : Float32).isFinite = true := by decide +kernel
  unfold readLiteral at h
  split_ifs at h
  · cases h
  · obtain ⟨w, hw, h⟩ := Checked.value?_bind h
    obtain rfl := Checked.value?_of h
    exact Attribute.coordinates_finite hzero hw
  · obtain ⟨w, hw, h⟩ := Checked.value?_bind h
    obtain rfl := Checked.value?_of h
    exact Attribute.coordinates_finite hzero hw
  · obtain ⟨raw, -, h⟩ := Checked.value?_bind h
    exact Literal.read_finite (Attribute.checkLiteral_value? h)

/-- A property holds what a literal or a transform writes. -/
theorem writes_finite {name : String} {v : Value} (h : e.Writes params name v) : v.Finite := by
  obtain ⟨-, ops, -, rfl⟩ | ⟨kind, -, hread⟩ := h
  · exact trivial
  · exact readLiteral_finite (congrArg Checked.value? hread)

end Node

/-! ## Nodes -/

theorem Node.Of.names {n : Node} (h : n.Of params e) : n.ref.Names params e where
  location := h.location.symm
  tag := (NodeKind.name_of_ofTag? h.kind).symm
  type := h.type
  id := h.id

theorem Child.Of.location {c : Child} (h : c.Of params e) :
    e.location = c.location := by
  cases c with
  | nested n => exact (Node.Of.location h).symm
  | reference r => exact (Reference.Of.location h).symm

/-- The nodes of a description, whatever there is to report, are read from its elements. -/
theorem Node.readForest_from (cs : List Element) (next : Nat) :
    ∀ n ∈ SceneGraph.postorder (readForest params next cs).value,
      n.From params (Element.preorderAll cs) := by
  intro n hn
  obtain ⟨e, inner, hsub, hof, hholds, hinner⟩ :=
    readForest_node ((SceneGraph.preorder_perm _).symm.subset hn)
  have hchild : ∀ a ∈ inner, a.element ∈ Element.preorderAll cs := by
    intro a ha
    apply hsub
    apply e.children_subset_preorder
    rw [← hholds.elements]
    exact List.mem_map_of_mem ha
  refine ⟨⟨e, hsub e.self_mem_preorder, hof.names⟩, fun p hp => ?_, fun c hc => ?_⟩
  · rw [hholds.properties] at hp
    obtain ⟨a, ha, hproperty⟩ := List.mem_filterMap.mp hp
    have hpOf := Account.property_of_right (hinner a ha) hproperty
    exact ⟨writes_finite hpOf.value, a.element, hchild a ha, hpOf.location.symm⟩
  · rw [hholds.children] at hc
    obtain ⟨a, ha, hmember⟩ := List.mem_filterMap.mp hc
    exact ⟨a.element, hchild a ha, (Account.child_of_right (hinner a ha) hmember).location⟩

end SceneGraph

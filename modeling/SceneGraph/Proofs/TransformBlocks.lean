import SceneGraph.Proofs.Positions
import SceneGraph.Proofs.ReadingFaults
import SceneGraph.Proofs.Silence
import SceneGraph.Proofs.Spellings

/-!
# Transform elements are read whole or not at all

A transform element makes a property of its children: one operation for each of them, multiplied
up in document order.  One child that is not a usable operation leaves it without a value, and
then every such child reports why, at its own position and in document order, while the others
report nothing (`readEntry_transform`).
-/

namespace SceneGraph

open SceneGraph.Geometry Markup

/-- What reading reports of an element is at its position. -/
theorem ReadingFault.location {l : Location} {p : Problem} (h : ReadingFault l p) :
    p.location? = some l := by
  cases h <;> rfl

/-! ## One child -/

namespace Transform

variable (params : Parameter.Table)

/-- The element writes an operation that can be used. -/
structure Writes (e : Element) (op : Operation) : Prop where
  read : (readOperation params e).value? = some op
  sound : op.fault? = none

def Usable (e : Element) : Prop := ∃ op, Writes params e op

/-- What a child of a transform reports: nothing if it is usable, and otherwise something, and
only at its own position. -/
structure Reports (e : Element) (report : List Problem) : Prop where
  usable : Usable params e → report = []
  faulty : ¬ Usable params e → report ≠ [] ∧ ∀ p ∈ report, p.location? = some e.location

variable {params} {e : Element} {op : Operation}

theorem value?_readUsable_iff : (readUsable params e).value? = some op ↔ Writes params e op := by
  rw [readUsable, Checked.bind_eq, Checked.andThen]
  constructor
  · intro h
    split at h
    · cases h
    · next found hfound =>
      dsimp only at h
      split at h
      · next hsound =>
        obtain rfl : found = op := Option.some.inj h
        exact ⟨hfound, hsound⟩
      · cases h
  · rintro ⟨hread, hsound⟩
    simp only [hread, hsound]
    rfl

theorem usable_iff : Usable params e ↔ (readUsable params e).value?.isSome = true := by
  rw [Option.isSome_iff_exists]
  simp only [value?_readUsable_iff, Usable]

instance (params : Parameter.Table) (e : Element) : Decidable (Usable params e) :=
  decidable_of_iff _ usable_iff.symm

theorem reports_readUsable (params : Parameter.Table) (e : Element) :
    Reports params e (readUsable params e).problems := by
  have hsettled : Checked.Settled (FaultOf [e]) (readUsable params e) := faulty_readUsable
  constructor
  · rintro ⟨op, hop⟩
    rw [hsettled.eq_of (value?_readUsable_iff.mpr hop)]
    rfl
  · intro hfaulty
    have hnone : (readUsable params e).value? = none := by
      rw [usable_iff] at hfaulty
      simpa using hfaulty
    refine ⟨hsettled.ne_nil hnone, fun p hp => ?_⟩
    obtain ⟨d, hd, hfault⟩ := hsettled.only p hp
    obtain rfl := List.mem_singleton.mp hd
    exact hfault.location

/-! ## All children -/

theorem value?_readAll_iff {ops : List Operation} :
    (readAll params e).value? = some ops ↔ List.Forall₂ (Writes params) e.children ops := by
  rw [readAll, Checked.value?_all_iff, List.forall₂_map_left_iff]
  simp only [value?_readUsable_iff]

/-- The faults of a transform are those of its children, one report behind the other. -/
theorem problems_readAll (params : Parameter.Table) (e : Element) :
    ∃ reports, (readAll params e).problems = reports.flatten ∧
      List.Forall₂ (Reports params) e.children reports := by
  refine ⟨e.children.map fun c => (readUsable params c).problems, ?_, ?_⟩
  · rw [readAll, Checked.problems_all, List.flatMap_map]
    rfl
  · rw [List.forall₂_map_right_iff, List.forall₂_same]
    exact fun c _ => reports_readUsable params c

/-- What is reported comes from a child that is not usable, and is at its position. -/
theorem exists_faulty_of_mem {es : List Element} {reports : List (List Problem)}
    (h : List.Forall₂ (Reports params) es reports) {p : Problem} (hp : p ∈ reports.flatten) :
    ∃ c ∈ es, ¬ Usable params c ∧ p.location? = some c.location := by
  induction h with
  | nil => cases hp
  | @cons c report es reports hc _ ih =>
    rw [List.flatten_cons, List.mem_append] at hp
    rcases hp with hown | hrest
    · have hfaulty : ¬ Usable params c := by
        intro husable
        rw [hc.usable husable] at hown
        cases hown
      exact ⟨c, List.mem_cons_self, hfaulty, (hc.faulty hfaulty).2 p hown⟩
    · obtain ⟨d, hd, hfault⟩ := ih hrest
      exact ⟨d, List.mem_cons_of_mem _ hd, hfault⟩

/-- Where no two children have the same position, none is reported at that of a usable one. -/
theorem silent_at_usable {reports : List (List Problem)}
    (h : List.Forall₂ (Reports params) e.children reports)
    (hplaces : (e.children.map (·.location)).Nodup) {c : Element} (hc : c ∈ e.children)
    (husable : Usable params c) : ∀ p ∈ reports.flatten, p.location? ≠ some c.location := by
  intro p hp hlocation
  obtain ⟨d, hd, hfaulty, hplace⟩ := exists_faulty_of_mem h hp
  have hsame : d = c :=
    List.inj_on_of_nodup_map hplaces hd hc (Option.some.inj (hplace.symm.trans hlocation))
  exact hfaulty (hsame ▸ husable)

theorem exists_writes_iff {es : List Element} :
    (∃ ops, List.Forall₂ (Writes params) es ops) ↔ ∀ c ∈ es, Usable params c := by
  induction es with
  | nil => simp
  | cons c es ih =>
    rw [List.forall_mem_cons, ← ih]
    constructor
    · rintro ⟨ops, h⟩
      obtain ⟨op, ops, hop, hops, rfl⟩ := List.forall₂_cons_left_iff.mp h
      exact ⟨⟨op, hop⟩, ops, hops⟩
    · rintro ⟨⟨op, hop⟩, ops, hops⟩
      exact ⟨op :: ops, .cons hop hops⟩

end Transform

/-! ## The element -/

section

variable {params : Parameter.Table} {e : Element} {name : String}

namespace Node

variable {parent : NodeKind} {read : String → Checked Value} {b : Body}

/-- A property that can be read is added if it is new. -/
theorem readProperty_of {v : Value} (hname : Attribute.value? params e "name" = .of (some name))
    (hv : read name = .of v) (hnew : b.knows name = false) :
    readProperty params parent e read b =
      ({ b with properties := b.properties ++ [⟨name, v, e.location⟩] }, []) := by
  simp [readProperty, Attribute.required_of_value? hname, Checked.of, hv, Body.addProperty, hnew]

/-- Of a property that cannot be read, the name is kept. -/
theorem readProperty_unread (hname : Attribute.value? params e "name" = .of (some name))
    (hnone : (read name).value? = none) :
    readProperty params parent e read b = (b.addInvalid name, (read name).problems) := by
  simp [readProperty, Attribute.required_of_value? hname, Checked.of, hnone]

end Node

end

open Transform

/-- Whether a transform gives a property depends on its children only, and each of them counts.
If all are usable, the property holds the product of their operations, later ones to the left.
If not, its name is kept as that of an unreadable property, and the reports are those of the
children that are not usable, in their order. -/
theorem readEntry_transform (params : Parameter.Table) (parent : NodeKind) {e : Element}
    {name : String} {b : Node.Body} (htag : e.tag = "transform")
    (hname : Attribute.value? params e "name" = .of (some name)) (hnew : b.knows name = false) :
    ((∀ c ∈ e.children, Usable params c) →
      ∃ ops, List.Forall₂ (Writes params) e.children ops ∧
        Node.readEntry params parent e b = ({ b with properties := b.properties ++ [⟨name,
          .transform (ops.foldl (fun acc op => op.toMatrix * acc) Mat4.identity),
          e.location⟩] }, [])) ∧
    ((¬ ∀ c ∈ e.children, Usable params c) →
      ∃ reports, List.Forall₂ (Reports params) e.children reports ∧
        Node.readEntry params parent e b = (b.addInvalid name, reports.flatten) ∧
        ∀ text root, Markup.read text = .ok root → e ∈ root.preorder →
          ∀ c ∈ e.children, Usable params c →
            ∀ p ∈ reports.flatten, p.location? ≠ some c.location) := by
  have hentry : Node.readEntry params parent e b = Node.readProperty params parent e
      (fun _ => do return .transform (compose (← readAll params e))) b := by
    rw [Node.readEntry, htag, if_neg (by decide), if_pos rfl]
  rw [hentry]
  constructor
  · intro husable
    obtain ⟨ops, hops⟩ := exists_writes_iff.mpr husable
    have hall : readAll params e = .of ops := faulty_readAll.eq_of (value?_readAll_iff.mpr hops)
    refine ⟨ops, hops, Node.readProperty_of hname ?_ hnew⟩
    rw [hall]
    rfl
  · intro hfaulty
    obtain ⟨reports, hproblems, hreports⟩ := problems_readAll params e
    have hnone : (readAll params e).value? = none := by
      rw [Option.eq_none_iff_forall_ne_some]
      exact fun ops hops => hfaulty (exists_writes_iff.mp ⟨ops, value?_readAll_iff.mp hops⟩)
    have hread : ((do return .transform (compose (← readAll params e))) : Checked Value) =
        ⟨none, reports.flatten⟩ := by
      rw [Checked.bind_eq, Checked.andThen, hnone, hproblems]
    refine ⟨reports, hreports, ?_, fun text root hroot he c hc husable => ?_⟩
    · rw [Node.readProperty_unread hname (by rw [hread]), hread]
    · exact silent_at_usable hreports (read_children_nodup hroot he) hc husable

/-- A transform with a child for each tag, and their values. -/
def block (ops : List (String × String)) : Element :=
  ⟨"transform", [("name", "m")],
    ops.mapIdx fun i op => ⟨op.1, [("value", op.2)], [], ⟨2, i⟩⟩, Location.start⟩

/-- Two operations that can be used, and one with another behind it that cannot. -/
theorem readEntry_transform_block :
    (∃ ops : List Operation, ops.length = 2 ∧
      Node.readEntry .empty .shape (block [("scale", "2"), ("translate", "1 2 3")]) .empty =
        (⟨[⟨"m", .transform (ops.foldl (fun acc op => op.toMatrix * acc) Mat4.identity),
          Location.start⟩], [], []⟩, [])) ∧
    ∃ report : List Problem, report ≠ [] ∧ (∀ p ∈ report, p.location? = some ⟨2, 1⟩) ∧
      Node.readEntry .empty .shape (block [("scale", "2"), ("translate", "1 2")]) .empty =
        (⟨[], [], ["m"]⟩, report) := by
  have hname : ∀ ops, Attribute.value? .empty (block ops) "name" = .of (some "m") :=
    fun ops => Attribute.value?_of_noDollar rfl (by decide)
  constructor
  · obtain ⟨ops, hops, hentry⟩ := (readEntry_transform .empty .shape (b := .empty) rfl
      (hname [("scale", "2"), ("translate", "1 2 3")]) rfl).1 (by decide +kernel)
    exact ⟨ops, hops.length_eq.symm, hentry⟩
  · obtain ⟨reports, hreports, hentry, -⟩ := (readEntry_transform .empty .shape (b := .empty) rfl
      (hname [("scale", "2"), ("translate", "1 2")]) rfl).2 (by decide +kernel)
    obtain ⟨first, rest, hfirst, hrest, rfl⟩ := List.forall₂_cons_left_iff.mp hreports
    obtain ⟨second, last, hsecond, hlast, rfl⟩ := List.forall₂_cons_left_iff.mp hrest
    rw [List.forall₂_nil_left_iff.mp hlast, hfirst.usable (by decide +kernel)] at hentry
    obtain ⟨hne, hplace⟩ := hsecond.faulty (by decide +kernel)
    rw [List.flatten_cons, List.flatten_singleton, List.nil_append] at hentry
    exact ⟨second, hne, hplace, hentry⟩

end SceneGraph

import SceneGraph.Node.Reader
import SceneGraph.Proofs.Elements

/-!
# What reading one element reports

What is read from one element, or from a transform, is either there without a report, or missing
with one.  Whatever is reported is a fault of one element (`ReadingFault`), at the position of that
element: the element itself, or an operation in a transform.

`Settled P` says both of a checked computation that reports problems with `P`.  It goes from the
parts of a computation to the whole as a class, so that it is found for a reader by going through
its definition.
-/

namespace SceneGraph

open Markup

/-- A problem that reading reports of the element at `l`. -/
inductive ReadingFault (l : Location) : Problem → Prop
  | malformed (fault : Malformed) : ReadingFault l (.malformed l fault)
  | mismatch (property : String) (expected : Expected) (found : Found) :
      ReadingFault l (.typeMismatch l property expected found)
  | undefined (name : String) : ReadingFault l (.undefinedParameter name l)
  | unexpected (tag : String) : ReadingFault l (.unexpectedElement tag l)

/-- A fault of one of the elements `es`. -/
def FaultOf (es : List Element) (p : Problem) : Prop := ∃ e ∈ es, ReadingFault e.location p

theorem FaultOf.mono {es fs : List Element} (hsub : es ⊆ fs) {p : Problem} (h : FaultOf es p) :
    FaultOf fs p := by
  obtain ⟨e, he, hfault⟩ := h
  exact ⟨e, hsub he, hfault⟩

namespace Checked

variable {α β : Type} {P Q : Problem → Prop}

/-- A computation that has a value and reports nothing, or has none and reports only problems
with `P`. -/
class Settled (P : Problem → Prop) (c : Checked α) : Prop where
  verdict : (∃ a, c = of a) ∨ (c.value? = none ∧ c.problems ≠ [] ∧ ∀ p ∈ c.problems, P p)

theorem Settled.only {c : Checked α} (h : Settled P c) : ∀ p ∈ c.problems, P p := by
  obtain ⟨a, rfl⟩ | ⟨-, -, hall⟩ := h.verdict
  · exact List.forall_mem_nil _
  · exact hall

theorem Settled.eq_of {c : Checked α} (h : Settled P c) {a : α} (ha : c.value? = some a) :
    c = of a := by
  obtain ⟨b, rfl⟩ | ⟨hnone, -⟩ := h.verdict
  · rw [Option.some.inj ha]
  · rw [hnone] at ha
    cases ha

theorem Settled.ne_nil {c : Checked α} (h : Settled P c) (hnone : c.value? = none) :
    c.problems ≠ [] := by
  obtain ⟨b, rfl⟩ | ⟨-, hproblems, -⟩ := h.verdict
  · cases hnone
  · exact hproblems

theorem Settled.mono {c : Checked α} (h : Settled P c) (hle : ∀ {p}, P p → Q p) :
    Settled Q c :=
  ⟨h.verdict.imp_right fun ⟨hnone, hproblems, hall⟩ =>
    ⟨hnone, hproblems, fun p hp => hle (hall p hp)⟩⟩

instance settled_of (a : α) : Settled P (of a) := ⟨.inl ⟨a, rfl⟩⟩

instance settled_pure (a : α) : Settled P (pure a : Checked α) := settled_of a

instance settled_bind (c : Checked α) (f : α → Checked β) [hc : Settled P c]
    [hf : ∀ a, Settled P (f a)] : Settled P (c >>= f) := by
  obtain ⟨a, rfl⟩ | ⟨hnone, hproblems⟩ := hc.verdict
  · exact hf a
  · have hbind : (c >>= f) = ⟨none, c.problems⟩ := by rw [bind_eq, andThen, hnone]
    rw [hbind]
    exact ⟨.inr ⟨rfl, hproblems⟩⟩

instance settled_both (c : Checked α) (d : Checked β) [hc : Settled P c] [hd : Settled P d] :
    Settled P (c.both d) := by
  have hall : ∀ p ∈ (c.both d).problems, P p :=
    List.forall_mem_append.mpr ⟨hc.only, hd.only⟩
  obtain ⟨a, rfl⟩ | ⟨hnone, hproblems, -⟩ := hc.verdict
  · obtain ⟨b, rfl⟩ | ⟨hnone, hproblems, -⟩ := hd.verdict
    · exact settled_of (a, b)
    · exact ⟨.inr ⟨by simp [both, of, hnone], by simpa [both, of] using hproblems, hall⟩⟩
  · exact ⟨.inr ⟨by simp [both, hnone], by simp [both, hproblems], hall⟩⟩

theorem settled_all (cs : List (Checked α)) (h : ∀ c ∈ cs, Settled P c) :
    Settled P (all cs) := by
  induction cs with
  | nil => exact settled_of []
  | cons c cs ih =>
    obtain ⟨hc, hcs⟩ := List.forall_mem_cons.mp h
    have hrest := ih hcs
    unfold all
    exact settled_bind _ _

theorem settled_fail {p : Problem} (h : P p) : Settled P (fail p : Checked α) :=
  ⟨.inr ⟨rfl, List.cons_ne_nil _ _, List.forall_mem_singleton.mpr h⟩⟩

/-- One fault of one element. -/
theorem faulty_fail {e : Element} {p : Problem} (h : ReadingFault e.location p) :
    Settled (FaultOf [e]) (fail p : Checked α) := settled_fail ⟨e, List.mem_singleton_self e, h⟩

instance faulty_malformed (e : Element) (fault : Malformed) :
    Settled (FaultOf [e]) (fail (.malformed e.location fault) : Checked α) :=
  faulty_fail (.malformed fault)

instance faulty_unexpected (e : Element) (tag : String) :
    Settled (FaultOf [e]) (fail (.unexpectedElement tag e.location) : Checked α) :=
  faulty_fail (.unexpected tag)

end Checked

open Checked (Settled)

variable {params : Parameter.Table} {e : Element}

/-! ## Attributes -/

/-- A token without a parameter is a fault of the element in whose text it is. -/
theorem resolve_fault {raw : String} {l : Location} {p : Problem}
    (h : params.resolve raw l = .error p) : ReadingFault l p := by
  unfold Parameter.Table.resolve at h
  split at h
  · cases h
  · cases h
    exact .undefined _

theorem Literal.Fault.problem_fault (fault : Literal.Fault) (l : Location) (property : String) :
    ReadingFault l (fault.problem l property) := by
  cases fault with
  | mismatch expected found => exact .mismatch _ _ _
  | _ => exact .malformed _

namespace Attribute

instance faulty_value? (name : String) : Settled (FaultOf [e]) (value? params e name) := by
  unfold value?
  split
  · infer_instance
  · next raw _ =>
    cases h : params.resolve raw e.location with
    | ok value => exact Checked.settled_of _
    | error p => exact Checked.faulty_fail (resolve_fault h)

instance faulty_required (name : String) (absent : Malformed) :
    Settled (FaultOf [e]) (required params e name absent) := by
  unfold required
  refine @Checked.settled_bind _ _ _ _ _ _ fun value => ?_
  split <;> infer_instance

instance faulty_checkLiteral {α : Type} (property : String) (r : Except Literal.Fault α) :
    Settled (FaultOf [e]) (checkLiteral e property r) := by
  cases r with
  | ok a => exact Checked.settled_of a
  | error fault => exact Checked.faulty_fail (fault.problem_fault _ _)

instance faulty_coordinate (fill : Float32) (kind : LiteralKind) (property axis : String) :
    Settled (FaultOf [e]) (coordinate params e fill kind property axis) := by
  unfold coordinate
  refine @Checked.settled_bind _ _ _ _ _ _ fun value => ?_
  split <;> infer_instance

instance faulty_coordinates (fill : Float32) (kind : LiteralKind) (property : String) :
    Settled (FaultOf [e]) (coordinates params e fill kind property) := by
  unfold coordinates
  infer_instance

instance faulty_vector (name property : String) :
    Settled (FaultOf [e]) (vector params e name property) := by
  unfold vector
  refine @Checked.settled_bind _ _ _ _ _ _ fun value => ?_
  split <;> infer_instance

end Attribute

/-! ## Transforms -/

namespace Transform

instance faulty_readRotate : Settled (FaultOf [e]) (readRotate params e) := by
  unfold readRotate
  infer_instance

instance faulty_readScale : Settled (FaultOf [e]) (readScale params e) := by
  unfold readScale
  refine @Checked.settled_bind _ _ _ _ _ _ fun value => ?_
  split
  · infer_instance
  · refine @Checked.settled_bind _ _ _ _ _ _ fun values => ?_
    split <;> infer_instance

instance faulty_readMatrix : Settled (FaultOf [e]) (readMatrix params e) := by
  unfold readMatrix
  refine @Checked.settled_bind _ _ _ _ _ _ fun raw => ?_
  refine @Checked.settled_bind _ _ _ _ _ _ fun values => ?_
  split <;> infer_instance

instance faulty_readLookAt : Settled (FaultOf [e]) (readLookAt params e) := by
  unfold readLookAt
  split
  · infer_instance
  · dsimp only
    split <;> infer_instance

instance faulty_readOperation : Settled (FaultOf [e]) (readOperation params e) := by
  unfold readOperation
  split_ifs <;> infer_instance

instance faulty_readUsable : Settled (FaultOf [e]) (readUsable params e) := by
  unfold readUsable
  refine @Checked.settled_bind _ _ _ _ _ _ fun op => ?_
  split <;> infer_instance

/-- A transform reports the faults of its operations. -/
theorem faulty_readAll : Settled (FaultOf e.children) (readAll params e) := by
  refine Checked.settled_all _ fun c hc => ?_
  obtain ⟨d, hd, rfl⟩ := List.mem_map.mp hc
  exact faulty_readUsable.mono (FaultOf.mono (by simpa using hd))

end Transform

/-! ## Nodes -/

theorem Markup.Element.self_mem_preorder (e : Element) : e ∈ e.preorder := by
  rw [preorder_eq]
  exact List.mem_cons_self

theorem Markup.Element.children_subset_preorder (e : Element) : e.children ⊆ e.preorder := by
  intro d hd
  rw [preorder_eq]
  exact List.mem_cons_of_mem _ (mem_descendants.mpr ⟨d, hd, d.self_mem_preorder⟩)

namespace Node

instance faulty_readHead : Settled (FaultOf [e]) (readHead params e) := by
  unfold readHead
  refine @Checked.settled_bind _ _ _ _ _ _ fun type => ?_
  refine @Checked.settled_bind _ _ _ _ _ _ fun id => ?_
  refine @Checked.settled_bind _ _ _ _ _ _ fun name => ?_
  split <;> infer_instance

instance faulty_readReference : Settled (FaultOf [e]) (readReference params e) := by
  unfold readReference
  infer_instance

instance faulty_readLiteral (kind : LiteralKind) (name : String) :
    Settled (FaultOf [e]) (readLiteral params kind name e) := by
  unfold readLiteral
  split_ifs <;> infer_instance

end Node

end SceneGraph

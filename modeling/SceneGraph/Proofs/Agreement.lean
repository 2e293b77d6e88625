import SceneGraph.Node.Reader
import SceneGraph.Proofs.Elements
import SceneGraph.Proofs.Pieces

/-!
# What reading takes from the parameters

Reading looks at the parameters only to substitute the attributes of elements.  So two tables
that write the same for every attribute give the same nodes, the same numbers and the same
problems:

    tables with the same values for the tokens of a text → the same text     (resolve_congr)
    tables that write the same in every element → the same forest            (readForest_congr)

The defaults among the elements do not matter at all (`readForest_filter`).
-/

namespace SceneGraph

open Markup

namespace Parameter

/-- The text has a token for the parameter `p`. -/
def Mentions (p text : String) : Prop := .token p.toList ∈ pieces text.toList

instance (p text : String) : Decidable (Mentions p text) := inferInstanceAs (Decidable (_ ∈ _))

namespace Table

variable {t u : Table}

/-- The tables write the same for the attributes of an element. -/
def Agree (t u : Table) (e : Element) : Prop :=
  ∀ a ∈ e.attributes, ∀ l, t.resolve a.2 l = u.resolve a.2 l

/-- The tables agree on an element and on all elements in it. -/
def AgreeWithin (t u : Table) (e : Element) : Prop := ∀ d ∈ e.preorder, t.Agree u d

/-! ## Substitution -/

theorem expandAll_congr {ps : List Piece}
    (h : ∀ name, .token name ∈ ps → t.get? (String.ofList name) = u.get? (String.ofList name)) :
    t.expandAll ps = u.expandAll ps := by
  induction ps with
  | nil => rfl
  | cons p ps ih =>
    have hfirst : t.expand p = u.expand p := by
      cases p with
      | char c => rfl
      | token name => simp only [expand, h name List.mem_cons_self]
    simp only [expandAll, hfirst, ih fun name hname => h name (List.mem_cons_of_mem _ hname)]

/-- What is written for a text depends on the values for its own tokens only. -/
theorem resolve_congr {raw : String} (h : ∀ name, Mentions name raw → t.get? name = u.get? name)
    (l : Location) : t.resolve raw l = u.resolve raw l := by
  have hpieces : t.substitute raw.toList = u.substitute raw.toList := by
    rw [substitute_eq_expandAll, substitute_eq_expandAll]
    apply expandAll_congr
    intro name hname
    exact h _ (by rwa [Mentions, String.toList_ofList])
  simp only [resolve, hpieces]

theorem AgreeWithin.self {e : Element} (h : t.AgreeWithin u e) : t.Agree u e :=
  h e (by simp [Element.preorder_eq])

theorem AgreeWithin.child {c e : Element} (h : t.AgreeWithin u e) (hc : c ∈ e.children) :
    t.AgreeWithin u c := by
  intro d hd
  apply h d
  rw [Element.preorder_eq]
  exact List.mem_cons_of_mem _ (Element.mem_descendants.mpr ⟨c, hc, hd⟩)

end Table

end Parameter

open Parameter

variable {t u : Table} {e : Element}

/-! ## Attributes -/

namespace Attribute

theorem value?_congr (h : t.Agree u e) (name : String) : value? t e name = value? u e name := by
  unfold value?
  cases hraw : e.attribute? name with
  | none => rfl
  | some raw =>
    obtain ⟨a, ha, rfl⟩ := Option.map_eq_some_iff.mp hraw
    simp only [h a (List.mem_of_find?_eq_some ha)]

theorem required_congr (h : t.Agree u e) (name : String) (absent : Malformed) :
    required t e name absent = required u e name absent := by
  simp only [required, value?_congr h]

theorem coordinates_congr (h : t.Agree u e) (fill : Float32) (kind : LiteralKind)
    (property : String) :
    coordinates t e fill kind property = coordinates u e fill kind property := by
  simp only [coordinates, coordinate, value?_congr h]

theorem vector_congr (h : t.Agree u e) (name property : String) :
    vector t e name property = vector u e name property := by
  simp only [vector, value?_congr h, coordinates_congr h]

end Attribute

/-! ## Transforms -/

namespace Transform

open Attribute

theorem readOperation_congr (h : t.Agree u e) : readOperation t e = readOperation u e := by
  simp only [readOperation, readRotate, readScale, readMatrix, readLookAt, value?_congr h,
    required_congr h, coordinates_congr h, vector_congr h]

theorem readAll_congr (h : t.AgreeWithin u e) : readAll t e = readAll u e := by
  have hchildren : e.children.map (readUsable t) = e.children.map (readUsable u) := by
    apply List.map_congr_left
    intro c hc
    simp only [readUsable, readOperation_congr (h.child hc).self]
  rw [readAll, readAll, hchildren]

end Transform

/-! ## Nodes -/

namespace Node

open Attribute

theorem readLiteral_congr (h : t.Agree u e) (kind : LiteralKind) (name : String) :
    readLiteral t kind name e = readLiteral u kind name e := by
  simp only [readLiteral, required_congr h, coordinates_congr h]

theorem readReference_congr (h : t.Agree u e) : readReference t e = readReference u e := by
  simp only [readReference, required_congr h, value?_congr h]

theorem readEntry_congr (h : t.AgreeWithin u e) (parent : NodeKind) (b : Body) :
    readEntry t parent e b = readEntry u parent e b := by
  simp only [readEntry, readProperty, readReference_congr h.self, readLiteral_congr h.self,
    required_congr h.self, Transform.readAll_congr h]

theorem readHead_congr (h : t.Agree u e) : readHead t e = readHead u e := by
  simp only [readHead, required_congr h, value?_congr h]

mutual

theorem read_congr : ∀ (e : Element) (kind : NodeKind) (index : Nat), t.AgreeWithin u e →
    read t kind index e = read u kind index e
  | ⟨tag, attributes, children, location⟩, kind, index, h => by
    simp only [read, readHead_congr h.self,
      readChildren_congr children kind (index + 1) Body.empty fun c hc => h.child hc]

theorem readChildren_congr : ∀ (es : List Element) (parent : NodeKind) (next : Nat) (b : Body),
    (∀ e ∈ es, t.AgreeWithin u e) →
    readChildren t parent next b es = readChildren u parent next b es
  | [], _, _, _, _ => by simp only [readChildren]
  | e :: es, parent, next, b, h => by
    have hfirst := h e List.mem_cons_self
    have hrest := fun d hd => h d (List.mem_cons_of_mem _ hd)
    rw [readChildren, readChildren]
    split
    · next kind _ =>
      simp only [read_congr e kind next hfirst]
      rw [readChildren_congr es parent _ _ hrest]
    · simp only [readEntry_congr hfirst]
      rw [readChildren_congr es parent _ _ hrest]

end

/-- Tables that agree on all elements but the defaults read the same forest. -/
theorem readForest_congr (es : List Element) : ∀ next : Nat,
    (∀ e ∈ es, e.tag ≠ "default" → t.AgreeWithin u e) →
    readForest t next es = readForest u next es := by
  induction es with
  | nil =>
    intro next _
    rfl
  | cons e es ih =>
    intro next h
    have hrest := fun next => ih next fun d hd => h d (List.mem_cons_of_mem _ hd)
    rw [readForest, readForest]
    by_cases hdefault : e.tag = "default"
    · rw [if_pos hdefault, if_pos hdefault, hrest]
    · rw [if_neg hdefault, if_neg hdefault]
      cases hkind : NodeKind.ofTag? e.tag with
      | none => simp only [hrest]
      | some kind => simp only [read_congr e kind next (h e List.mem_cons_self hdefault), hrest]

/-- A forest is read from the elements that are no defaults. -/
theorem readForest_filter (es : List Element) : ∀ next : Nat,
    readForest t next es = readForest t next (es.filter fun e => e.tag ≠ "default") := by
  induction es with
  | nil =>
    intro next
    rfl
  | cons e es ih =>
    intro next
    by_cases hdefault : e.tag = "default"
    · rw [readForest, if_pos hdefault, ih, List.filter_cons_of_neg (by simpa using hdefault)]
    · rw [List.filter_cons_of_pos (by simpa using hdefault), readForest, readForest,
        if_neg hdefault, if_neg hdefault]
      simp only [ih]

end Node

end SceneGraph

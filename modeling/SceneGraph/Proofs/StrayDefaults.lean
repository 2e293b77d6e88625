import SceneGraph.Proofs.Elements
import SceneGraph.Proofs.Silence
import SceneGraph.Proofs.Success

/-!
# Defaults below the root's children

A default belongs under the root.  Elsewhere it is met as an unexpected element, as an unknown
operation or as a child that a literal must not have, except in the elements whose content no
reader looks at (`Element.unreadInRoot`): references, operations of transforms, and the defaults
under the root themselves.

* `readForest_hidesDefault`: where reading meets no problem, a default further down stands in
  one of these.
* `text_defaultsOnTop_iff`: a description that is loaded has all its defaults under the root
  exactly when none of these holds one.
-/

namespace SceneGraph

namespace Markup.Element

/-! ## Elements whose content is not read -/

/-- In a child of a plugin element that is none itself: a reference, or the operations of a
transform. -/
def unreadEntry (e : Element) : List Element :=
  if e.tag = "ref" then [e] else if e.tag = "transform" then e.children else []

mutual

/-- In a plugin element, at any depth. -/
def unread : Element → List Element
  | ⟨_, _, children, _⟩ => unreadAll children

def unreadAll : List Element → List Element
  | [] => []
  | e :: es =>
    (if (NodeKind.ofTag? e.tag).isSome then e.unread else e.unreadEntry) ++ unreadAll es

end

/-- In a root element: its defaults, and what is not read in its plugin elements. -/
def unreadInRoot (root : Element) : List Element :=
  root.children.flatMap fun e => if e.tag = "default" then [e] else e.unread

/-- A default stands somewhere in the element. -/
def HidesDefault (e : Element) : Prop := ∃ d ∈ e.descendants, d.tag = "default"

instance (e : Element) : Decidable e.HidesDefault := inferInstanceAs (Decidable (∃ d ∈ _, _))

/-- Every default is a child of the root. -/
def DefaultsOnTop (root : Element) : Prop :=
  root.tag ≠ "default" ∧ ∀ e ∈ root.children, ¬ e.HidesDefault

instance (root : Element) : Decidable root.DefaultsOnTop := inferInstanceAs (Decidable (_ ∧ _))

/-! ## Lemmas -/

theorem hidesDefault_iff {e : Element} :
    e.HidesDefault ↔ ∃ c ∈ e.children, c.tag = "default" ∨ c.HidesDefault := by
  constructor
  · rintro ⟨d, hd, htag⟩
    obtain ⟨c, hc, hd⟩ := mem_descendants.mp hd
    rw [preorder_eq] at hd
    rcases List.mem_cons.mp hd with rfl | hd
    · exact ⟨d, hc, .inl htag⟩
    · exact ⟨c, hc, .inr ⟨d, hd, htag⟩⟩
  · rintro ⟨c, hc, htag | ⟨d, hd, htag⟩⟩
    · exact ⟨c, mem_descendants.mpr ⟨c, hc, by simp [preorder_eq]⟩, htag⟩
    · refine ⟨d, mem_descendants.mpr ⟨c, hc, ?_⟩, htag⟩
      rw [preorder_eq]
      exact List.mem_cons_of_mem _ hd

theorem HidesDefault.of_child {c e : Element} (hc : c ∈ e.children) (h : c.HidesDefault) :
    e.HidesDefault := hidesDefault_iff.mpr ⟨c, hc, .inr h⟩

theorem HidesDefault.of_unreadEntry {u e : Element} (hu : u ∈ e.unreadEntry)
    (h : u.HidesDefault) : e.HidesDefault := by
  unfold unreadEntry at hu
  split at hu
  · rwa [← List.mem_singleton.mp hu]
  · split at hu
    · exact h.of_child hu
    · cases hu

mutual

theorem HidesDefault.of_unread {u : Element} (h : u.HidesDefault) :
    ∀ e : Element, u ∈ e.unread → e.HidesDefault
  | ⟨tag, attributes, children, location⟩, hu => by
    obtain ⟨c, hc, hhides⟩ := HidesDefault.of_unreadAll h children hu
    exact hhides.of_child hc

theorem HidesDefault.of_unreadAll {u : Element} (h : u.HidesDefault) :
    ∀ es : List Element, u ∈ unreadAll es → ∃ c ∈ es, c.HidesDefault
  | e :: es, hu => by
    rw [unreadAll] at hu
    rcases List.mem_append.mp hu with hu | hu
    · split at hu
      · exact ⟨e, List.mem_cons_self, HidesDefault.of_unread h e hu⟩
      · exact ⟨e, List.mem_cons_self, h.of_unreadEntry hu⟩
    · obtain ⟨c, hc, hhides⟩ := HidesDefault.of_unreadAll h es hu
      exact ⟨c, List.mem_cons_of_mem _ hc, hhides⟩

end

end Markup.Element

open Markup

namespace Node

/-! ## Reading without a problem -/

variable {params : Parameter.Table}

/-- A silent property was read from its name. -/
theorem readProperty_silent {parent : NodeKind} {e : Element} {read : String → Checked Value}
    {b : Body} (h : (readProperty params parent e read b).2 = []) :
    ∃ name, (read name).problems = [] := by
  unfold readProperty at h
  dsimp only at h
  split at h
  · next hnone =>
    obtain ⟨name, hname⟩ := Checked.Reports.exists_of_silent h
    rw [hname] at hnone
    cases hnone
  · next name _ =>
    refine ⟨name, ?_⟩
    split at h
    · exact (List.append_eq_nil_iff.mp h).2
    · exact (List.append_eq_nil_iff.mp (List.append_eq_nil_iff.mp h).1).2

/-- A silent operation has one of the five tags. -/
theorem readOperation_silent {e : Element}
    (h : (Transform.readUsable params e).problems = []) : e.tag ≠ "default" := by
  intro htag
  have hfail : Transform.readOperation params e = .fail (.unexpectedElement e.tag e.location) := by
    simp [Transform.readOperation, htag]
  rw [Transform.readUsable, hfail] at h
  cases h

theorem readLiteral_silent {kind : LiteralKind} {name : String} {e : Element}
    (h : (readLiteral params kind name e).problems = []) : e.children = [] := by
  unfold readLiteral at h
  split at h
  · cases h
  · next hempty => simpa using hempty

/-- In a child that is read in silence and is no nested node, a default is hidden from the
reader. -/
theorem readEntry_hidesDefault {parent : NodeKind} {e : Element} {b : Body}
    (h : (readEntry params parent e b).2 = []) :
    e.tag ≠ "default" ∧ (e.HidesDefault → ∃ u ∈ e.unreadEntry, u.HidesDefault) := by
  unfold readEntry at h
  unfold Element.unreadEntry
  split at h
  · next href =>
    rw [if_pos href, href]
    exact ⟨by decide, fun hhides => ⟨e, List.mem_singleton_self e, hhides⟩⟩
  · next href =>
    rw [if_neg href]
    split at h
    · next htransform =>
      rw [if_pos htransform, htransform]
      obtain ⟨name, hvalue⟩ := readProperty_silent h
      have hall : (Transform.readAll params e).problems = [] := Checked.silent_first hvalue
      refine ⟨by decide, fun hhides => ?_⟩
      obtain ⟨c, hc, htag | hhides⟩ := Element.hidesDefault_iff.mp hhides
      · exact absurd htag
          (readOperation_silent (Checked.silent_of_mem hall _ (List.mem_map_of_mem hc)))
      · exact ⟨c, hc, hhides⟩
    · split at h
      · next kind hkind =>
        obtain ⟨name, hvalue⟩ := readProperty_silent h
        refine ⟨?_, fun hhides => ?_⟩
        · intro htag
          have hnone : LiteralKind.ofTag? "default" = none := by decide
          rw [htag, hnone] at hkind
          cases hkind
        · obtain ⟨c, hc, -⟩ := Element.hidesDefault_iff.mp hhides
          rw [readLiteral_silent hvalue] at hc
          cases hc
      · cases h

mutual

theorem read_hidesDefault : ∀ (e : Element) (kind : NodeKind) (index : Nat),
    (read params kind index e).problems = [] → e.HidesDefault →
    ∃ u ∈ e.unread, u.HidesDefault
  | ⟨tag, attributes, children, location⟩, kind, index, h, hhides => by
    obtain ⟨c, hc, hdefault⟩ := Element.hidesDefault_iff.mp hhides
    obtain ⟨-, -, hchildren, -⟩ := read_silent h
    exact readChildren_hidesDefault children _ _ _ hchildren c hc hdefault

/-- Among children that are read in silence no default stands, and one further down is hidden
from the reader. -/
theorem readChildren_hidesDefault : ∀ (es : List Element) (parent : NodeKind) (next : Nat)
    (b : Body), (readChildren params parent next b es).problems = [] →
    ∀ c ∈ es, c.tag = "default" ∨ c.HidesDefault → ∃ u ∈ Element.unreadAll es, u.HidesDefault
  | e :: es, parent, next, b, h, c, hc, hdefault => by
    rw [readChildren] at h
    rw [Element.unreadAll]
    -- the first child is a nested node or an entry, and the others are read behind it
    suffices hfirst : ((e.tag ≠ "default" ∧ (e.HidesDefault →
          ∃ u ∈ if (NodeKind.ofTag? e.tag).isSome then e.unread else e.unreadEntry,
            u.HidesDefault)) ∧
        ∃ next' b', (readChildren params parent next' b' es).problems = []) by
      obtain ⟨⟨htag, hhides⟩, next', b', hrest⟩ := hfirst
      rcases List.mem_cons.mp hc with rfl | hc
      · obtain ⟨u, hu, hdefault⟩ := hhides (hdefault.resolve_left htag)
        exact ⟨u, List.mem_append_left _ hu, hdefault⟩
      · obtain ⟨u, hu, hdefault⟩ := readChildren_hidesDefault es parent next' b' hrest c hc hdefault
        exact ⟨u, List.mem_append_right _ hu, hdefault⟩
    split at h
    · next kind hkind =>
      obtain ⟨hnode, hrest⟩ := List.append_eq_nil_iff.mp h
      rw [hkind, Option.isSome_some, if_pos rfl]
      refine ⟨⟨?_, read_hidesDefault e kind next hnode⟩, _, _, hrest⟩
      intro htag
      have hnone : NodeKind.ofTag? "default" = none := by decide
      rw [htag, hnone] at hkind
      cases hkind
    · next hkind =>
      obtain ⟨hentry, hrest⟩ := List.append_eq_nil_iff.mp h
      rw [hkind, Option.isSome_none, if_neg Bool.false_ne_true]
      exact ⟨readEntry_hidesDefault hentry, _, _, hrest⟩

end

/-- In a forest that is read in silence every default is a child of the root or hidden from the
reader. -/
theorem readForest_hidesDefault (es : List Element) : ∀ (next : Nat),
    (readForest params next es).problems = [] → ∀ e ∈ es, e.HidesDefault →
    ∃ u ∈ if e.tag = "default" then [e] else e.unread, u.HidesDefault := by
  induction es with
  | nil =>
    intro next _ e he
    cases he
  | cons d ds ih =>
    intro next h e he hhides
    rw [readForest] at h
    split at h
    · next hdefault =>
      rcases List.mem_cons.mp he with rfl | he
      · rw [if_pos hdefault]
        exact ⟨e, List.mem_singleton_self e, hhides⟩
      · exact ih _ h e he hhides
    · next hdefault =>
      split at h
      · next kind hkind =>
        obtain ⟨hnode, hrest⟩ := List.append_eq_nil_iff.mp h
        rcases List.mem_cons.mp he with rfl | he
        · rw [if_neg hdefault]
          exact read_hidesDefault e kind next hnode hhides
        · exact ih _ hrest e he hhides
      · cases h

end Node

/-! ## Top theorem -/

namespace Load

theorem tag_of_readVersion {root : Element} {version : Version}
    (h : readVersion root = .ok version) : root.tag = "scene" := by
  by_contra htag
  rw [readVersion, if_pos htag] at h
  cases h

/-- All defaults of a description that is loaded are children of the root, unless one stands in
an element whose content is not read. -/
theorem text_defaultsOnTop_iff (options : Options) (source : String) (scene : Scene)
    (h : (text options source).result = .ok scene) :
    ∃ root, read source = .ok root ∧
      (root.DefaultsOnTop ↔ ∀ u ∈ root.unreadInRoot, ¬ u.HidesDefault) := by
  obtain ⟨root, hread, hload⟩ := text_ok_iff.mp h
  refine ⟨root, hread, ?_, ?_⟩
  · rintro ⟨-, htop⟩ u hu hhides
    obtain ⟨e, he, hu⟩ := List.mem_flatMap.mp hu
    apply htop e he
    split at hu
    · rwa [← List.mem_singleton.mp hu]
    · exact hhides.of_unread e hu
  · intro hunread
    obtain ⟨version, hversion, -⟩ := hload.scene
    refine ⟨?_, fun e he hhides => ?_⟩
    · rw [tag_of_readVersion hversion]
      decide
    · obtain ⟨u, hu, hhides⟩ :=
        Node.readForest_hidesDefault root.children 0 hload.nodes e he hhides
      exact hunread u (List.mem_flatMap.mpr ⟨e, he, hu⟩) hhides

/-- A description with a parameter, a transform and a reference. -/
def shiftedCube : String :=
  "<scene version=\"2.1.0\"><default name=\"s\" value=\"1\"/><bsdf type=\"conductor\" id=\"m\"/>" ++
    "<sensor type=\"orthographic\"><sampler type=\"independent\"/><film type=\"hdrfilm\"/></sensor>" ++
    "<shape type=\"cube\"><transform name=\"to_world\"><translate x=\"$s\"/></transform>" ++
    "<ref id=\"m\"/></shape></scene>"

theorem text_defaultsOnTop_shiftedCube :
    ∃ scene root, (text ⟨[], false⟩ shiftedCube).result = .ok scene ∧
      read shiftedCube = .ok root ∧ root.unreadInRoot.length = 3 ∧
      (root.DefaultsOnTop ↔ ∀ u ∈ root.unreadInRoot, ¬ u.HidesDefault) := by
  have hload : (read shiftedCube).toOption.any (fun root => root.unreadInRoot.length == 3 &&
      (Load.root ⟨[], false⟩ root).result.toOption.isSome) = true := by
    decide +kernel
  obtain ⟨root, hroot, hholds⟩ := exists_of_any hload
  obtain ⟨hlength, hresult⟩ := Bool.and_eq_true_iff.mp hholds
  obtain ⟨scene, hscene⟩ := exists_of_isSome hresult
  rw [← text_of_read hroot] at hscene
  obtain ⟨root', hroot', hiff⟩ := text_defaultsOnTop_iff ⟨[], false⟩ shiftedCube scene hscene
  obtain rfl : root = root' := Except.ok.inj (hroot.symm.trans hroot')
  exact ⟨scene, root, hscene, hroot, eq_of_beq hlength, hiff⟩

/-- A description with a default inside another one. -/
def nestedDefault : String :=
  "<scene version=\"2.1.0\"><default name=\"a\" value=\"1\"><default name=\"b\" value=\"2\"/>" ++
    "</default><sensor type=\"orthographic\"><sampler type=\"independent\"/>" ++
    "<film type=\"hdrfilm\"/></sensor><shape type=\"cube\"><bsdf type=\"conductor\"/></shape></scene>"

theorem not_text_defaultsOnTop :
    ∃ scene root, (text ⟨[], false⟩ nestedDefault).result = .ok scene ∧
      read nestedDefault = .ok root ∧ ¬ root.DefaultsOnTop := by
  have hload : (read nestedDefault).toOption.any (fun root => !decide root.DefaultsOnTop &&
      (Load.root ⟨[], false⟩ root).result.toOption.isSome) = true := by
    decide +kernel
  obtain ⟨root, hroot, hholds⟩ := exists_of_any hload
  obtain ⟨hstray, hresult⟩ := Bool.and_eq_true_iff.mp hholds
  obtain ⟨scene, hscene⟩ := exists_of_isSome hresult
  rw [← text_of_read hroot] at hscene
  exact ⟨scene, root, hscene, hroot, by simpa using hstray⟩

end Load

end SceneGraph

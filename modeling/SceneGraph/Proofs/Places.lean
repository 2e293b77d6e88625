import Mathlib.Data.List.Flatten
import Mathlib.Data.List.Nodup
import SceneGraph.Proofs.Accounts
import SceneGraph.Proofs.Origins
import SceneGraph.Proofs.Positions

/-!
# Where nodes, properties and references stand

Each of them stands where the element stands that it was made of, each element makes at most one
of them, and no two elements of a document stand in the same place.  So all that the nodes of a
description hold stands in different places (`readForest_places_nodup`), and the place of a child
tells which child it is.

The step is about an account: what its element became and all in it stand at most as often in a
place as the element and the elements in it do.
-/

namespace SceneGraph

open Markup

/-- Where the properties and the children of a node stand. -/
def Node.places (n : Node) : List Location :=
  n.properties.map (·.location) ++ n.children.map Child.location

/-- Where some properties and children stand, and all that nodes among them hold. -/
def placesIn (ps : List Property) (cs : List Child) : List Location :=
  ps.map (·.location) ++ cs.map Child.location ++ (Child.preorder cs).flatMap Node.places

/-! ## Lemmas -/

theorem placesIn_nested (n : Node) :
    placesIn [] [.nested n] = n.location :: placesIn n.properties n.children := by
  simp [placesIn, Child.preorder, Child.location, Node.preorder_eq, Node.places]

theorem count_placesIn_append (l : Location) (ps qs : List Property) (cs ds : List Child) :
    (placesIn (ps ++ qs) (cs ++ ds)).count l =
      (placesIn ps cs).count l + (placesIn qs ds).count l := by
  simp only [placesIn, Child.preorder_append, List.map_append, List.flatMap_append,
    List.count_append]
  omega

theorem Markup.Element.count_location_pos (e : Element) :
    1 ≤ (e.preorder.map (·.location)).count e.location :=
  List.count_pos_iff.mpr (List.mem_map_of_mem e.self_mem_preorder)

variable {params : Parameter.Table}

namespace Account

/-- One thing that stands where its element stands. -/
theorem count_singleton_le {l m : Location} {e : Element} (h : m = e.location) :
    [m].count l ≤ (e.preorder.map (·.location)).count l := by
  obtain rfl := h
  have hpos := e.count_location_pos
  rw [List.count_singleton]
  split
  · next hl => rwa [← eq_of_beq hl]
  · exact Nat.zero_le _

mutual

theorem all_places (l : Location) : ∀ a : Account, (∀ x ∈ a.all, x.Right params) →
    (placesIn a.property?.toList a.child?.toList).count l ≤
      (a.element.preorder.map (·.location)).count l
  | dropped e unread problems, _ => Nat.zero_le _
  | property e p, h => count_singleton_le (h _ (List.mem_singleton_self _)).location
  | reference e r, h => count_singleton_le (h _ (List.mem_singleton_self _)).location
  | node ⟨tag, attributes, children, location⟩ n inner, h => by
    obtain ⟨⟨hof, hholds⟩, hinner⟩ := List.forall_mem_cons.mp h
    have hrest := allIn_places l inner hinner
    rw [hholds.elements, ← hholds.properties, ← hholds.children] at hrest
    have hself : n.location = location := hof.location
    have hwhole := placesIn_nested n
    rw [hself] at hwhole
    show (placesIn [] [.nested n]).count l ≤ _
    rw [hwhole, element, Element.preorder, List.map_cons, List.count_cons, List.count_cons]
    exact Nat.add_le_add_right hrest _

theorem allIn_places (l : Location) : ∀ as : List Account, (∀ x ∈ allIn as, x.Right params) →
    (placesIn (as.filterMap property?) (as.filterMap child?)).count l ≤
      ((Element.preorderAll (as.map element)).map (·.location)).count l
  | [], _ => Nat.le_refl _
  | a :: as, h => by
    obtain ⟨ha, has⟩ := List.forall_mem_append.mp h
    rw [filterMap_cons_toList, filterMap_cons_toList, count_placesIn_append, List.map_cons,
      Element.preorderAll, List.map_append, List.count_append]
    exact Nat.add_le_add (all_places l a ha) (allIn_places l as has)

end

end Account

/-! ## Documents -/

/-- The elements of a document stand in different places. -/
theorem Markup.read_places_nodup {source : String} {root : Element} (h : read source = .ok root) :
    (root.preorder.map (·.location)).Nodup := by
  refine (read_ascending h).imp ?_
  rintro l m hlt rfl
  exact Location.before_irrefl l hlt

/-- All that the nodes of a document hold stands in different places. -/
theorem Node.readForest_places_nodup {source : String} {root : Element}
    (h : Markup.read source = .ok root) (params : Parameter.Table) (next : Nat) :
    ((SceneGraph.preorder (readForest params next root.children).value).flatMap places).Nodup := by
  obtain ⟨accounts, haccounts⟩ := @readForest_explained params root.children next Body.empty
  have hchildren : (readForest params next root.children).value.map .nested =
      accounts.filterMap Account.child? := haccounts.children
  rw [← Child.preorder_map_nested, hchildren, List.nodup_iff_count_le_one]
  intro l
  have hcount := Account.allIn_places l accounts haccounts.right
  have hpart : ((Child.preorder (accounts.filterMap Account.child?)).flatMap places).count l ≤
      (placesIn (accounts.filterMap Account.property?)
        (accounts.filterMap Account.child?)).count l :=
    (List.sublist_append_right _ _).count_le l
  have helements : ((Element.preorderAll (accounts.map Account.element)).map
      (·.location)).count l ≤ (root.preorder.map (·.location)).count l := by
    rw [haccounts.elements, Element.preorder_eq, Element.preorderAll_eq]
    refine ((List.Sublist.flatMap (List.filter_sublist) _).map _ |>.trans ?_).count_le l
    exact List.sublist_cons_self _ _
  exact hpart.trans (hcount.trans (helements.trans
    (List.nodup_iff_count_le_one.mp (Markup.read_places_nodup h) l)))

end SceneGraph

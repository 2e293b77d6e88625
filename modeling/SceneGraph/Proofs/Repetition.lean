import Mathlib.Data.List.Perm.Basic
import SceneGraph.Proofs.Positions
import SceneGraph.Proofs.ReferenceResolution

/-!
# Repeated ids

A node is a duplicate when a node before it, that is itself none and in none, has its id.  So a
forest falls into the nodes that are visited, the duplicates, and what the duplicates contain
(`Splits`).  Declaring the ids of a forest makes one entry for each id of a visited node and
reports each duplicate with the owner of its entry; and when the forest is built no entry is
left unfinished (`declareAll_exact`).

    parts of a forest          tourAll_splits
    problems of declaring      declareAll_cites, mem_repeatsAll
    the end of every entry     run_finished
-/

namespace SceneGraph

open Instantiation Markup

/-- Both nodes have the id, and `owner` stands before the other one. -/
structure Repeats (forest : List Node) (owner n : Node) (id : String) : Prop where
  first : owner.id = some id
  second : n.id = some id
  order : [owner, n].Sublist (preorder forest)

/-- The nodes of a forest that are visited, and the duplicates that are not. -/
structure Splits (forest visited repeated : List Node) : Prop where
  /-- All others are inside of a duplicate. -/
  parts : (visited ++ repeated ++ repeated.flatMap fun d => Child.preorder d.children).Perm
    (preorder forest)
  visited_order : visited.Sublist (preorder forest)
  repeated_order : repeated.Sublist (preorder forest)
  first : (visited.filterMap (·.id)).Nodup
  again : ∀ n ∈ repeated, ∃ owner ∈ visited, ∃ id, Repeats forest owner n id

/-! ## Order -/

mutual

theorem tour_sublist (seen : List String) : ∀ n,
    (opened (tour seen n)).Sublist n.preorder ∧ (repeats seen n).Sublist n.preorder
  | ⟨index, kind, type, id, name, location, properties, children, invalid⟩ => by
    by_cases h : Node.isRepeat seen
        ⟨index, kind, type, id, name, location, properties, children, invalid⟩ = true
    · rw [tour_of_repeat h, repeats_of_repeat h, Node.preorder_eq]
      exact ⟨List.nil_sublist _, (List.nil_sublist _).cons_cons _⟩
    · have hfirst := Bool.eq_false_iff.mpr h
      obtain ⟨hopened, hrepeats⟩ := tourChildren_sublist (seen ++ id.toList)
        ⟨index, kind, type, id, name, location, properties, children, invalid⟩ children
      rw [tour_of_first hfirst, repeats_of_first hfirst, Node.preorder_eq]
      simp only [opened_opens, opened_append, opened_closes, opened_nil, List.append_nil]
      exact ⟨hopened.cons_cons _, hrepeats.cons _⟩

theorem tourChildren_sublist (seen : List String) (parent : Node) : ∀ cs,
    (opened (tourChildren seen parent cs)).Sublist (Child.preorder cs) ∧
      (repeatsChildren seen cs).Sublist (Child.preorder cs)
  | [] => ⟨List.nil_sublist _, List.nil_sublist _⟩
  | .nested n :: cs => by
    obtain ⟨hopened, hrepeats⟩ := tour_sublist seen n
    obtain ⟨hopened', hrepeats'⟩ := tourChildren_sublist (seen ++ ids (tour seen n)) parent cs
    rw [tourChildren, repeatsChildren, Child.preorder, opened_append]
    exact ⟨hopened.append hopened', hrepeats.append hrepeats'⟩
  | .reference r :: cs => by
    rw [tourChildren, repeatsChildren, Child.preorder, opened_refers]
    exact tourChildren_sublist seen parent cs

end

theorem tourAll_sublist (seen : List String) (forest : List Node) :
    (opened (tourAll seen forest)).Sublist (preorder forest) ∧
      (repeatsAll seen forest).Sublist (preorder forest) := by
  induction forest generalizing seen with
  | nil => exact ⟨List.nil_sublist _, List.nil_sublist _⟩
  | cons n ns ih =>
    obtain ⟨hopened, hrepeats⟩ := tour_sublist seen n
    obtain ⟨hopened', hrepeats'⟩ := ih (seen ++ ids (tour seen n))
    rw [tourAll, repeatsAll, preorder, List.flatMap_cons, opened_append]
    exact ⟨hopened.append hopened', hrepeats.append hrepeats'⟩

/-- Why a node is a duplicate: its id was seen before the walk, or belongs to a node that the walk
visits before it. -/
def Known (seen : List String) (visited order : List Node) (n : Node) : Prop :=
  ∃ id, n.id = some id ∧
    (id ∈ seen ∨ ∃ owner ∈ visited, owner.id = some id ∧ [owner, n].Sublist order)

theorem Known.mono {seen : List String} {visited order visited' order' : List Node} {n : Node}
    (h : Known seen visited order n) (hvisited : visited ⊆ visited')
    (horder : order.Sublist order') : Known seen visited' order' n := by
  obtain ⟨id, hid, hseen | ⟨owner, howner, hownerid, hpair⟩⟩ := h
  · exact ⟨id, hid, .inl hseen⟩
  · exact ⟨id, hid, .inr ⟨owner, hvisited howner, hownerid, hpair.trans horder⟩⟩

/-- What is seen on the way was visited before. -/
theorem Known.append {seen : List String} {ms : List Mark} {visited order order' : List Node}
    {n : Node} (h : Known (seen ++ ids ms) visited order' n) (hn : n ∈ order')
    (horder : opened ms ⊆ order) : Known seen (opened ms ++ visited) (order ++ order') n := by
  obtain ⟨id, hid, hseen | ⟨owner, howner, hownerid, hpair⟩⟩ := h
  · rcases List.mem_append.mp hseen with hseen | hmet
    · exact ⟨id, hid, .inl hseen⟩
    · obtain ⟨owner, howner, hownerid⟩ := mem_ids.mp hmet
      refine ⟨id, hid, .inr ⟨owner, List.mem_append_left _ howner, hownerid, ?_⟩⟩
      exact (List.singleton_sublist.mpr (horder howner)).append (List.singleton_sublist.mpr hn)
  · refine ⟨id, hid, .inr ⟨owner, List.mem_append_right _ howner, hownerid, ?_⟩⟩
    exact hpair.trans (List.sublist_append_right _ _)

theorem Known.cons {seen : List String} {visited order : List Node} {m n : Node}
    (h : Known (seen ++ m.id.toList) visited order n) (hn : n ∈ order) :
    Known seen (m :: visited) (m :: order) n := by
  have h' : Known (seen ++ ids [.opens m]) visited order n := by simpa using h
  exact h'.append hn (List.Subset.refl [m])

mutual

theorem known_of_mem_repeats (seen : List String) : ∀ m, ∀ n ∈ repeats seen m,
    Known seen (opened (tour seen m)) m.preorder n
  | ⟨index, kind, type, id, name, location, properties, children, invalid⟩, n, hn => by
    by_cases h : Node.isRepeat seen
        ⟨index, kind, type, id, name, location, properties, children, invalid⟩ = true
    · rw [repeats_of_repeat h] at hn
      obtain rfl := List.mem_singleton.mp hn
      obtain ⟨id, hseen, hid⟩ := isRepeat_eq_true.mp h
      exact ⟨id, hid, .inl hseen⟩
    · have hfirst := Bool.eq_false_iff.mpr h
      rw [repeats_of_first hfirst] at hn
      have hknown := known_of_mem_repeatsChildren (seen ++ id.toList)
        ⟨index, kind, type, id, name, location, properties, children, invalid⟩ children n hn
      have hinner := (tourChildren_sublist (seen ++ id.toList)
        ⟨index, kind, type, id, name, location, properties, children, invalid⟩ children).2.subset hn
      rw [tour_of_first hfirst, Node.preorder_eq]
      simp only [opened_opens, opened_append, opened_closes, opened_nil, List.append_nil]
      exact hknown.cons hinner

theorem known_of_mem_repeatsChildren (seen : List String) (parent : Node) : ∀ cs,
    ∀ n ∈ repeatsChildren seen cs,
      Known seen (opened (tourChildren seen parent cs)) (Child.preorder cs) n
  | [], _, hn => nomatch hn
  | .nested m :: cs, n, hn => by
    rw [repeatsChildren] at hn
    rw [tourChildren, Child.preorder, opened_append]
    rcases List.mem_append.mp hn with hn | hn
    · exact (known_of_mem_repeats seen m n hn).mono (List.subset_append_left _ _)
        (List.sublist_append_left _ _)
    · exact (known_of_mem_repeatsChildren _ parent cs n hn).append
        ((tourChildren_sublist _ parent cs).2.subset hn) (tour_sublist seen m).1.subset
  | .reference r :: cs, n, hn => by
    rw [tourChildren, Child.preorder, opened_refers]
    exact known_of_mem_repeatsChildren seen parent cs n hn

end

theorem known_of_mem_repeatsAll (forest : List Node) : ∀ seen, ∀ n ∈ repeatsAll seen forest,
    Known seen (opened (tourAll seen forest)) (preorder forest) n := by
  induction forest with
  | nil => exact fun _ _ hn => nomatch hn
  | cons m ms ih =>
    intro seen n hn
    rw [repeatsAll] at hn
    rw [tourAll, preorder, List.flatMap_cons, opened_append]
    rcases List.mem_append.mp hn with hn | hn
    · exact (known_of_mem_repeats seen m n hn).mono (List.subset_append_left _ _)
        (List.sublist_append_left _ _)
    · exact (ih _ n hn).append ((tourAll_sublist _ ms).2.subset hn) (tour_sublist seen m).1.subset

/-- A duplicate stands behind the visited node that has its id. -/
theorem mem_repeatsAll {forest : List Node} {n : Node} (hn : n ∈ repeatsAll [] forest) :
    ∃ owner ∈ opened (tourAll [] forest), ∃ id, Repeats forest owner n id := by
  obtain ⟨id, hid, hseen | ⟨owner, howner, hownerid, horder⟩⟩ :=
    known_of_mem_repeatsAll forest [] n hn
  · cases hseen
  · exact ⟨owner, howner, id, hownerid, hid, horder⟩

theorem tourAll_splits (forest : List Node) :
    Splits forest (opened (tourAll [] forest)) (repeatsAll [] forest) where
  parts := by
    have hinner : (repeatsAll [] forest ++
        (repeatsAll [] forest).flatMap fun d => Child.preorder d.children).Perm
        ((repeatsAll [] forest).flatMap Node.preorder) := by
      have hsplit := List.map_append_flatMap_perm (repeatsAll [] forest) id
        fun d => Child.preorder d.children
      simpa only [List.map_id, id, ← Node.preorder_eq] using hsplit
    rw [List.append_assoc]
    exact (hinner.append_left _).trans (tourAll_perm [] forest)
  visited_order := (tourAll_sublist [] forest).1
  repeated_order := (tourAll_sublist [] forest).2
  first := tourAll_ids_nodup forest
  again := fun _ hn => mem_repeatsAll hn

/-- A node inside of a duplicate is neither visited nor a duplicate. -/
theorem Splits.not_mem_of_inner {forest visited repeated : List Node}
    (h : Splits forest visited repeated) (hindex : ((preorder forest).map (·.index)).Nodup)
    {d n : Node} (hd : d ∈ repeated) (hn : n ∈ Child.preorder d.children) :
    n ∉ visited ∧ n ∉ repeated := by
  have hnodup := (h.parts.map (·.index)).nodup_iff.mpr hindex
  rw [List.map_append, List.nodup_append] at hnodup
  have hinner : n ∈ repeated.flatMap fun d => Child.preorder d.children :=
    List.mem_flatMap.mpr ⟨d, hd, hn⟩
  have hout : n ∉ visited ++ repeated := fun hmem =>
    hnodup.2.2 _ (List.mem_map_of_mem hmem) _ (List.mem_map_of_mem hinner) rfl
  exact ⟨fun hv => hout (List.mem_append_left _ hv), fun hr => hout (List.mem_append_right _ hr)⟩

/-- In a document the position of the owner is before that of the duplicate. -/
theorem Repeats.before {params : Parameter.Table} {next : Nat} {source : String} {root : Element}
    (hread : read source = .ok root) {owner n : Node} {id : String}
    (h : Repeats (Node.readForest params next root.children).value owner n id) :
    owner.location.Before n.location := by
  have hroot : (Element.preorderAll root.children).Sublist root.preorder := by
    rw [Element.preorder_eq, Element.descendants, Element.preorderAll_eq]
    exact List.sublist_cons_self _ _
  have hplaces := (Node.readForest_follows params next root.children).places
  have hpair := ((h.order.map Node.location).trans hplaces).trans (hroot.map _)
  exact List.pairwise_pair.mp ((read_ascending hread).sublist hpair)

namespace Instantiation

/-- The problems of declaring, with the visited nodes that they cite. -/
theorem declared_repeats (forest : List Node) :
    List.Forall₂ (fun n p => ∃ owner ∈ opened (tourAll [] forest), ∃ id,
        Repeats forest owner n id ∧ p = .duplicateId id owner.location n.location)
      (repeatsAll [] forest) (declareAll Registry.empty forest).2 := by
  have hcites := declareAll_cites Registry.empty forest
  have hboth := (List.forall₂_and_left _ _).mpr ⟨fun n hn => hn, hcites⟩
  refine hboth.imp ?_
  rintro n p ⟨hn, id, first, hid, hfind, rfl⟩
  obtain ⟨m, hm, hmid, rfl⟩ := exists_of_find?_declared hfind
  obtain ⟨owner, howner, id', hrepeats⟩ := mem_repeatsAll hn
  obtain rfl : id' = id := Option.some.inj (hrepeats.second.symm.trans hid)
  obtain rfl := eq_of_id_eq howner hm hrepeats.first hmid
  exact ⟨owner, howner, id', hrepeats, rfl⟩

theorem isDuplicate_iff_mem {forest : List Node}
    (hindex : ((preorder forest).map (·.index)).Nodup) {n : Node} (hn : n ∈ preorder forest) :
    (declared forest).isDuplicate n.index = true ↔ n ∈ repeatsAll [] forest := by
  rw [isDuplicate_declared]
  refine ⟨?_, fun h => ⟨n, h, rfl⟩⟩
  rintro ⟨m, hm, hmn⟩
  obtain rfl := List.inj_on_of_nodup_map hindex (repeats_subset_preorder forest hm) hn hmn
  exact hm

/-- Every entry is finished when the forest is built. -/
theorem run_finished {forest : List Node} (hindex : ((preorder forest).map (·.index)).Nodup) :
    List.Forall₂ (fun e e' => ∃ status, status ≠ .pending ∧ e' = { e with status := status })
      (declared forest).entries (buildAll (initial forest) forest).2.registry.entries := by
  rw [buildAll_entries, List.forall₂_map_right_iff]
  refine List.forall₂_same.mpr fun e he => ?_
  obtain ⟨n, hn, hdeclared⟩ := exists_of_mem_declared he
  obtain ⟨id, hid, rfl⟩ := Option.map_eq_some_iff.mp hdeclared
  have hclosed : n ∈ closed ((runHistory forest).map Event.mark) := by
    rw [runHistory_marks hindex]
    exact (closed_perm_opened [] forest).mem_iff.mpr hn
  obtain ⟨g, outcome, hmem⟩ := exists_of_mem_closed hclosed
  obtain ⟨before, after, hlog⟩ := List.append_of_mem hmem
  refine ⟨outcome.status, outcome.status_ne_pending, ?_⟩
  rw [show historyAll (initial forest) forest = _ from hlog]
  refine settleAll_of_closed hid rfl fun m hm => ?_
  exact fun h => index_ne_of_closed hindex hlog hm h.2

/-- **Repeated ids are reported exactly.**  In a numbered forest the entries are those of the
visited nodes, one for each id, and the problems are those of the duplicates, each with the owner
of the entry; what a duplicate contains is neither, and its ids are free.  In a document the owner
stands strictly before the duplicate.  When the forest is built every entry is finished. -/
theorem declareAll_exact {forest : List Node}
    (hindex : ((preorder forest).map (·.index)).Nodup) :
    let visited := opened (tourAll [] forest)
    let repeated := repeatsAll [] forest
    let r := (declareAll Registry.empty forest).1
    let problems := (declareAll Registry.empty forest).2
    Splits forest visited repeated ∧
    (∀ d ∈ repeated, ∀ n ∈ Child.preorder d.children, n ∉ visited ∧ n ∉ repeated) ∧
    (r.entries = visited.filterMap declaration? ∧ r.ids.Nodup) ∧
    List.Forall₂ (fun n p => ∃ owner ∈ visited, ∃ id,
      Repeats forest owner n id ∧ p = .duplicateId id owner.location n.location)
      repeated problems ∧
    (∀ n ∈ preorder forest, r.isDuplicate n.index = true ↔ n ∈ repeated) ∧
    (∀ source root params next, Markup.read source = .ok root →
      forest = (Node.readForest params next root.children).value →
      ∀ id first second, .duplicateId id first second ∈ problems → first.Before second) ∧
    List.Forall₂ (fun e e' => ∃ status, status ≠ .pending ∧ e' = { e with status := status })
      r.entries (buildAll (initial forest) forest).2.registry.entries := by
  intro visited repeated r problems
  have hregistry : r = extend Registry.empty (tourAll [] forest) (repeatsAll [] forest) :=
    declared_eq forest
  have hentries : r.entries = visited.filterMap declaration? := by
    rw [hregistry]
    exact List.nil_append _
  have hids : r.ids.Nodup := by
    rw [hregistry, ids_extend]
    exact tourAll_ids_nodup forest
  have hsplits := tourAll_splits forest
  refine ⟨hsplits, fun d hd n hn => hsplits.not_mem_of_inner hindex hd hn, ⟨hentries, hids⟩,
    declared_repeats forest, fun n hn => isDuplicate_iff_mem hindex hn, ?_, run_finished hindex⟩
  intro source root params next hread hforest id first second hp
  obtain ⟨n, -, owner, -, i, hrepeats, hproblem⟩ := exists_of_forall₂ (declared_repeats forest) _ hp
  obtain ⟨rfl, rfl, rfl⟩ := Problem.duplicateId.inj hproblem
  subst hforest
  exact hrepeats.before hread

/-- A node of which only the id matters. -/
def bare (index : Nat) (id : String) (children : List Child) : Node :=
  ⟨index, .bsdf, "diffuse", some id, none, ⟨index + 1, 1⟩, [], children, []⟩

/-- The duplicate of `a` contains a node with the id `b`, which another node has too. -/
def shadowed : List Node := [bare 0 "a" [], bare 1 "a" [.nested (bare 2 "b" [])], bare 3 "b" []]

theorem declareAll_exact_shadowed :
    ((preorder shadowed).map (·.index)).Nodup ∧
    (declareAll Registry.empty shadowed).2 = [.duplicateId "a" ⟨1, 1⟩ ⟨2, 1⟩] ∧
    (∀ n ∈ preorder shadowed, (declareAll Registry.empty shadowed).1.isDuplicate n.index = true ↔
      n ∈ repeatsAll [] shadowed) ∧
    Splits shadowed (opened (tourAll [] shadowed)) (repeatsAll [] shadowed) := by
  have hindex : ((preorder shadowed).map (·.index)).Nodup := by decide
  obtain ⟨hsplits, -, -, -, hduplicates, -, -⟩ := declareAll_exact hindex
  exact ⟨hindex, rfl, hduplicates, hsplits⟩

end Instantiation

end SceneGraph

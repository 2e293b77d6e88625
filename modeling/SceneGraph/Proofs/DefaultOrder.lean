import SceneGraph.Proofs.Overriding
import SceneGraph.Proofs.PropertyOrder

/-!
# Defaults may stand anywhere

All defaults are collected before any node is read, and reading nodes passes over defaults.  So the
places of the defaults among the children of a root decide nothing but the order of the table, and
where their names are distinct this order is never looked at:

    the tables hold the same parameters, in some order   (ofRoot_shuffled)
    overrides are refused for the same reasons           (Shuffled.overrideAll)
    look-ups are the same                                (Shuffled.get?_eq)
    the sorted list in the scene is the same             (Shuffled.parameters_eq)

So the loads are the same to the last finding, and a default that is declared behind its uses works
like one in front of them (`root_rearranged`).
-/

namespace SceneGraph

open Markup Parameter Parameter.Table

/-- Every default of a root states a valid name and a value without a token, and no two of them
state the same name. -/
structure Markup.Element.WellStated (root : Element) : Prop where
  stated : ∀ e ∈ root.children.filter (·.tag = "default"), ∃ s ∈ stated? e,
    isName s.1.toList = true ∧ firstToken? s.2.toList = none
  distinct : ((root.children.filter (·.tag = "default")).map (·.attribute? "name")).Nodup

instance (root : Element) : Decidable root.WellStated :=
  decidable_of_iff (_ ∧ _) ⟨fun h => ⟨h.1, h.2⟩, fun h => ⟨h.stated, h.distinct⟩⟩

namespace Parameter.Table

/-- The parameter that a default element defines. -/
def parameter? (e : Element) : Option Parameter :=
  (stated? e).map fun s => ⟨s.1, s.2, s.2, false, e.location⟩

/-- The tables hold the same parameters, in some order, and each has its own index of them. -/
structure Shuffled (t u : Table) : Prop where
  perm : t.parameters.Perm u.parameters
  left : t.InStep
  right : u.InStep

/-! ## Defaults -/

theorem stated?_eq_some_iff {e : Element} {name value : String} :
    stated? e = some (name, value) ↔
      e.attribute? "name" = some name ∧ e.attribute? "value" = some value := by
  simp [stated?, Option.bind_eq_some_iff]

/-- Sound defaults of new and distinct names are all accepted, in their order. -/
theorem defineAll_eq (es : List Element) : ∀ t : Table,
    (∀ e ∈ es, ∃ s ∈ stated? e, isName s.1.toList = true ∧ firstToken? s.2.toList = none) →
    (es.map (·.attribute? "name")).Nodup →
    (∀ e ∈ es, ∀ name ∈ e.attribute? "name", name ∉ t.names) → t.InStep →
    (t.applyAll defineElement es).1.parameters = t.parameters ++ es.filterMap parameter? ∧
      (t.applyAll defineElement es).2 = [] := by
  induction es with
  | nil =>
    intro t _ _ _ _
    exact ⟨(List.append_nil _).symm, rfl⟩
  | cons e es ih =>
    intro t hstated hdistinct hnew hstep
    obtain ⟨⟨⟨name, value⟩, he, hvalid, htoken⟩, hes⟩ := List.forall_mem_cons.mp hstated
    obtain ⟨hfirst, hrest⟩ := List.nodup_cons.mp hdistinct
    obtain ⟨hname, hvalue⟩ := stated?_eq_some_iff.mp he
    have hfresh := hnew e List.mem_cons_self name hname
    have hdefine := defineElement_new hvalid hname hvalue htoken hstep hfresh
    have hparameter : parameter? e = some ⟨name, value, value, false, e.location⟩ := by
      rw [parameter?, he, Option.map_some]
    -- the name that was added is none of those to come
    have hlater : ∀ d ∈ es, ∀ other ∈ d.attribute? "name",
        other ∉ (t.push ⟨name, value, value, false, e.location⟩).names := by
      intro d hd other hother hmem
      rw [names_push, List.mem_append] at hmem
      rcases hmem with hmem | hmem
      · exact hnew d (List.mem_cons_of_mem _ hd) other hother hmem
      · obtain rfl := List.mem_singleton.mp hmem
        exact hfirst (List.mem_map.mpr ⟨d, hd, hother.trans hname.symm⟩)
    obtain ⟨hparameters, hsilent⟩ := ih _ hes hrest hlater (hstep.push hfresh)
    rw [applyAll, hdefine]
    refine ⟨?_, hsilent⟩
    rw [hparameters, List.filterMap_cons_some hparameter, push, List.append_assoc,
      List.singleton_append]

theorem ofRoot_eq {root : Element} (h : root.WellStated) :
    (ofRoot root).1.parameters =
        (root.children.filter (·.tag = "default")).filterMap parameter? ∧
      (ofRoot root).2 = [] :=
  defineAll_eq _ empty h.stated h.distinct (by simp [names, empty]) inStep_empty

/-! ## Tables in another order -/

namespace Shuffled

variable {t u : Table} (h : Shuffled t u)

include h

theorem find?_eq (name : String) : t.find? name = u.find? name := by
  rw [h.left.find?_eq, h.right.find?_eq]
  exact find?_perm Parameter.name h.perm h.left.nodup name

theorem get?_eq (name : String) : t.get? name = u.get? name := by rw [get?, get?, h.find?_eq]

theorem retouch {f : Parameter → Parameter} (hf : ∀ q, (f q).name = q.name) :
    Shuffled (t.retouch f) (u.retouch f) where
  perm := h.perm.map f
  left := h.left.retouch hf
  right := h.right.retouch hf

/-- An override is refused by both tables, for the same reason, or accepted by both. -/
theorem override (name value : String) :
    (∃ p, t.override name value = .refused p t ∧ u.override name value = .refused p u) ∨
      ∃ t' u', t.override name value = .accepted t' ∧ u.override name value = .accepted u' ∧
        Shuffled t' u' := by
  have hretouched := h.retouch (assign_name name value)
  rw [h.left.override_eq, h.right.override_eq, ← h.find?_eq]
  cases t.find? name with
  | none => exact .inl ⟨_, rfl, rfl⟩
  | some q =>
    dsimp only
    split
    · exact .inl ⟨_, rfl, rfl⟩
    · cases tokenProblem? name value with
      | some problem => exact .inl ⟨_, rfl, rfl⟩
      | none => exact .inr ⟨_, _, rfl, rfl, hretouched⟩

theorem overrideAll (os : List (String × String)) :
    (t.overrideAll os).2 = (u.overrideAll os).2 ∧
      Shuffled (t.overrideAll os).1 (u.overrideAll os).1 := by
  induction os generalizing t u with
  | nil => exact ⟨rfl, h⟩
  | cons o os ih =>
    obtain ⟨name, value⟩ := o
    rcases h.override name value with ⟨p, ht, hu⟩ | ⟨t', u', ht, hu, h'⟩
    · rw [overrideAll_of_refused ht, overrideAll_of_refused hu]
      exact ⟨congrArg (p :: ·) (ih h).1, (ih h).2⟩
    · rw [overrideAll_of_accepted ht, overrideAll_of_accepted hu]
      exact ih h'

/-- Sorted by name, the parameters are in one order. -/
theorem parameters_eq : Assembly.parameters t = Assembly.parameters u := by
  have hsorted : ∀ v : Table, (Assembly.parameters v).Pairwise fun a b => a.1 ≤ b.1 := by
    intro v
    have hpairwise := @List.pairwise_mergeSort _
      (fun a b : String × String => decide (a.1 ≤ b.1))
      (fun a b c hab hbc => by
        simpa using String.le_trans (by simpa using hab) (by simpa using hbc))
      (fun a b => by simpa using String.le_total a.1 b.1)
      (v.parameters.map fun p => (p.name, p.value))
    simpa [Assembly.parameters] using hpairwise
  have hperm : (Assembly.parameters t).Perm (Assembly.parameters u) :=
    (Assembly.parameters_perm t).trans
      ((h.perm.map _).trans (Assembly.parameters_perm u).symm)
  have hkeys : ((Assembly.parameters t).map (·.1)).Nodup := by
    rw [((Assembly.parameters_perm t).map _).nodup_iff, List.map_map]
    exact h.left.nodup
  refine List.Perm.eq_of_pairwise ?_ (hsorted t) (hsorted u) hperm
  intro a b ha hb hab hba
  exact List.inj_on_of_nodup_map hkeys ha (hperm.mem_iff.mpr hb) (String.le_antisymm hab hba)

end Shuffled

/-- Defaults in other places leave the same parameters, in some order. -/
theorem ofRoot_shuffled {root : Element} {children : List Element} (h : root.WellStated)
    (hperm : root.children.Perm children) :
    (ofRoot { root with children := children }).2 = (ofRoot root).2 ∧
      Shuffled (ofRoot root).1 (ofRoot { root with children := children }).1 := by
  have hdefaults := hperm.filter (·.tag = "default")
  have h' : Element.WellStated { root with children := children } :=
    { stated := fun e he => h.stated e (hdefaults.mem_iff.mpr he)
      distinct := (hdefaults.map _).nodup_iff.mp h.distinct }
  obtain ⟨hparameters, hsilent⟩ := ofRoot_eq h
  obtain ⟨hparameters', hsilent'⟩ := ofRoot_eq h'
  refine ⟨hsilent'.trans hsilent.symm, ?_, inStep_ofRoot _, inStep_ofRoot _⟩
  rw [hparameters, hparameters']
  exact hdefaults.filterMap _

end Parameter.Table

/-! ## Top theorem -/

namespace Load

/-- **Defaults may stand anywhere among the children of the root.**  Where the defaults are sound
and their names distinct, the children can be put into any other order that leaves those that are
no defaults in theirs: the load goes through the same stages, with the same warnings, to the same
scene or the same problems. -/
theorem root_rearranged (options : Options) (root : Element) (children : List Element)
    (hdefaults : root.WellStated) (hperm : root.children.Perm children)
    (hothers : root.children.filter (fun e => e.tag ≠ "default") =
      children.filter fun e => e.tag ≠ "default") :
    Load.root options { root with children := children } = Load.root options root := by
  obtain ⟨hproblems, hshuffled⟩ := ofRoot_shuffled hdefaults hperm
  obtain ⟨hrefused, hsettled⟩ := hshuffled.overrideAll options.overrides
  have hversion : readVersion { root with children := children } = readVersion root := rfl
  rw [Load.root, Load.root, hversion]
  cases readVersion root with
  | error problem => rfl
  | ok version =>
    simp only [hproblems, ← hrefused]
    split
    · exact (nodes_alike rfl version hsettled.get?_eq hsettled.parameters_eq hothers).symm
    · rfl

/-- A sensor that uses two parameters, and a shape. -/
def sampledCubeNodes : List Element :=
  [⟨"sensor", [("type", "orthographic")],
    [⟨"sampler", [("type", "independent")],
      [⟨"integer", [("name", "sample_count"), ("value", "$spp")], [], ⟨2, 60⟩⟩], ⟨2, 40⟩⟩,
     ⟨"film", [("type", "hdrfilm")],
      [⟨"integer", [("name", "width"), ("value", "$w")], [], ⟨2, 80⟩⟩], ⟨2, 70⟩⟩], ⟨2, 30⟩⟩,
   ⟨"shape", [("type", "cube")], [⟨"bsdf", [("type", "conductor")], [], ⟨3, 20⟩⟩], ⟨3, 3⟩⟩]

def widthDefault : Element := ⟨"default", [("name", "w"), ("value", "64")], [], ⟨4, 3⟩⟩

def countDefault : Element := ⟨"default", [("name", "spp"), ("value", "4")], [], ⟨5, 3⟩⟩

theorem root_rearranged_lateDefaults :
    let late : Element := ⟨"scene", [("version", "2.1.0")],
      sampledCubeNodes ++ [widthDefault, countDefault], ⟨1, 1⟩⟩
    let options : Options := ⟨[("spp", "16")], true⟩
    Load.root options { late with children := [countDefault, widthDefault] ++ sampledCubeNodes } =
        Load.root options late ∧
      ∃ scene, (Load.root options late).result = .ok scene ∧
        scene.sensors.map (fun s => (s.sampler.sampleCount, s.film.width)) = [(16, 64)] := by
  intro late options
  have hperm : (sampledCubeNodes ++ [widthDefault, countDefault]).Perm
      ([countDefault, widthDefault] ++ sampledCubeNodes) :=
    List.perm_append_comm.trans (.swap _ _ _)
  refine ⟨root_rearranged options late _ (by decide +kernel) hperm rfl, ?_⟩
  have hload : (Load.root options late).result.toOption.any (fun scene =>
      scene.sensors.map (fun s => (s.sampler.sampleCount, s.film.width)) == [(16, 64)]) = true := by
    decide +kernel
  obtain ⟨scene, hscene, hholds⟩ := exists_of_any hload
  exact ⟨scene, hscene, eq_of_beq hholds⟩

end Load

end SceneGraph

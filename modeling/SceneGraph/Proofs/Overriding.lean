import SceneGraph.Proofs.Agreement
import SceneGraph.Proofs.OneParameter
import SceneGraph.Proofs.Success

/-!
# Overriding a default is writing it

A default that is overridden and a default that states the new value from the start leave two
tables that differ in what the default was and in the mark of the override, and in nothing that
is ever looked at again:

    defaults with the new value written     = the table restated        (ofRoot_withValue)
    overrides of the other names            = the table restated        (overrideAll_restate)
    the nodes, and the values in the scene  = the same                  (nodes_congr)

So the two loads are the same to the last finding (`root_override_eq_withValue`).
-/

namespace SceneGraph

open Markup

/-- The element with another value. -/
def Markup.Element.withValue (v : String) (e : Element) : Element :=
  { e with attributes := e.attributes.map fun a => if a.1 = "value" then (a.1, v) else a }

namespace Parameter.Table

/-- What a parameter called `p` would be if its default stated `v`. -/
def restate (p v : String) (q : Parameter) : Parameter :=
  if q.name = p then ⟨q.name, v, v, false, q.location⟩ else q

/-- There is a parameter of this name, and no override has named it. -/
def Untouched (p : String) (t : Table) : Prop := ∃ q, t.find? p = some q ∧ q.overridden = false

/-- Whatever the name stands for is `v`. -/
def Holds (p v : String) (t : Table) : Prop := ∀ q ∈ t.parameters, q.name = p → q.value = v

/-! ## Lemmas -/

/-- Only the value is another one. -/
theorem attribute?_withValue (v : String) (e : Element) (name : String) :
    (e.withValue v).attribute? name =
      if name = "value" then (e.attribute? name).map fun _ => v else e.attribute? name := by
  simp only [Element.attribute?, Element.withValue, List.find?_map]
  have hkey : ((fun a : String × String => decide (a.1 = name)) ∘
      fun a => if a.1 = "value" then (a.1, v) else a) = fun a => decide (a.1 = name) := by
    funext a
    simp only [Function.comp]
    split <;> rfl
  rw [hkey]
  cases hfind : e.attributes.find? fun a => decide (a.1 = name) with
  | none => simp
  | some a =>
    have ha : a.1 = name := by simpa using List.find?_some hfind
    by_cases hname : name = "value"
    · simp [ha, hname]
    · simp [ha, hname]

theorem retouches_restate (p v : String) : Retouches p (restate p v) where
  name := by
    intro q
    unfold restate
    split <;> rfl
  location := by
    intro q
    unfold restate
    split <;> rfl
  other := fun _ hq => if_neg hq

/-- Restating forgets an override. -/
theorem restate_assign (p v : String) (t : Table) :
    (t.retouch (assign p v)).retouch (restate p v) = t.retouch (restate p v) := by
  simp only [retouch, List.map_map]
  congr 1
  apply List.map_congr_left
  intro q _
  show restate p v (assign p v q) = restate p v q
  by_cases hq : q.name = p
  · have hname : (q.overrideWith v).name = p := hq
    rw [assign, if_pos hq, restate, restate, if_pos hname, if_pos hq]
    rfl
  · rw [assign, if_neg hq]

/-- Restating what already holds is not seen in names and values. -/
theorem settings_restate {p v : String} {t : Table} (h : Holds p v t) :
    (t.retouch (restate p v)).parameters.map (fun q => (q.name, q.value)) =
      t.parameters.map fun q => (q.name, q.value) := by
  rw [retouch, List.map_map]
  apply List.map_congr_left
  intro q hq
  show ((restate p v q).name, (restate p v q).value) = (q.name, q.value)
  by_cases hname : q.name = p
  · rw [restate, if_pos hname, h q hq hname]
  · rw [restate, if_neg hname]

/-! ## Defaults -/

section

variable {p d v : String} {e : Element} (hvalid : isName p.toList = true)
  (hname : e.attribute? "name" = some p) (hvalue : e.attribute? "value" = some d)
  (hd : firstToken? d.toList = none)

include hvalid hname hvalue hd

/-- A default of a new name is accepted. -/
theorem defineElement_new {t : Table} (ht : t.InStep) (hnew : p ∉ t.names) :
    t.defineElement e = .accepted (t.push ⟨p, d, d, false, e.location⟩) := by
  have hfind : t.find? p = none := ht.find?_eq_none_iff.mpr hnew
  have htoken : tokenProblem? p d = none := by rw [tokenProblem?, hd, Option.map_none]
  simp [defineElement, hname, hvalue, define, hvalid, hfind, htoken]

end

/-- A name that no default states is not defined. -/
theorem not_mem_names_defineAll {p : String} (es : List Element)
    (h : ∀ e ∈ es, e.attribute? "name" ≠ some p) :
    p ∉ (empty.applyAll defineElement es).1.names := by
  refine applyAll_preserves_of_mem (P := fun t => p ∉ t.names) atomic_defineElement es ?_ empty
    (by simp [names, empty])
  intro e he t t' ht hdefine
  obtain ⟨q, rfl, hstated, -⟩ := defineElement_accepted hdefine
  rw [names_push, List.mem_append]
  rintro (hp | hp)
  · exact ht hp
  · rw [List.mem_singleton] at hp
    apply h e he
    unfold stated? at hstated
    cases hattribute : e.attribute? "name" with
    | none =>
      rw [hattribute] at hstated
      cases hstated
    | some name =>
      rw [hattribute, Option.bind_some] at hstated
      obtain ⟨value, -, heq⟩ := Option.map_eq_some_iff.mp hstated
      rw [hp, (Prod.mk.inj heq).1]

/-- Defaults override nothing. -/
theorem not_overridden_ofRoot (root : Element) :
    ∀ q ∈ (ofRoot root).1.parameters, q.overridden = false := by
  refine applyAll_preserves (P := fun t => ∀ q ∈ t.parameters, q.overridden = false)
    atomic_defineElement ?_ _ empty (List.forall_mem_nil _)
  intro t e t' ht h
  obtain ⟨q, rfl, -, hfree, -⟩ := defineElement_accepted h
  exact List.forall_mem_append.mpr ⟨ht, List.forall_mem_singleton.mpr hfree⟩

section

variable {root e : Element} {pre post : List Element} {p d v : String}
  (hroot : root.children = pre ++ e :: post) (htag : e.tag = "default")
  (hname : e.attribute? "name" = some p) (hvalue : e.attribute? "value" = some d)
  (hfirst : ∀ c ∈ pre, c.tag = "default" → c.attribute? "name" ≠ some p)
  (hvalid : isName p.toList = true) (hd : firstToken? d.toList = none)

include hroot htag hname hvalue hfirst hvalid hd

/-- The defaults of a root, cut at the first one of a name. -/
theorem ofRoot_cut : ∃ t : Table, ∃ problems,
    t.InStep ∧ p ∉ t.names ∧
    empty.applyAll defineElement (pre.filter (·.tag = "default")) = (t, problems) ∧
    ofRoot root = (((t.push ⟨p, d, d, false, e.location⟩).applyAll defineElement
        (post.filter (·.tag = "default"))).1,
      problems ++ ((t.push ⟨p, d, d, false, e.location⟩).applyAll defineElement
        (post.filter (·.tag = "default"))).2) := by
  have hnew := not_mem_names_defineAll (p := p) (pre.filter (·.tag = "default")) (by
    intro c hc
    obtain ⟨hmem, hdefault⟩ := List.mem_filter.mp hc
    exact hfirst c hmem (by simpa using hdefault))
  have hstep := inStep_defineAll (pre.filter (·.tag = "default")) empty inStep_empty
  refine ⟨_, _, hstep, hnew, rfl, ?_⟩
  have hfilter : root.children.filter (·.tag = "default") =
      pre.filter (·.tag = "default") ++ e :: post.filter (·.tag = "default") := by
    rw [hroot, List.filter_append, List.filter_cons_of_pos (by simpa using htag)]
  rw [ofRoot, hfilter, applyAll_append]
  simp only [applyAll, defineElement_new hvalid hname hvalue hd hstep hnew]

theorem untouched_ofRoot : Untouched p (ofRoot root).1 := by
  obtain ⟨t, problems, -, -, -, hcut⟩ := ofRoot_cut hroot htag hname hvalue hfirst hvalid hd
  have hstep := inStep_ofRoot root
  have hmem : p ∈ (ofRoot root).1.names := by
    rw [hcut]
    refine applyAll_preserves (P := fun t => p ∈ t.names) atomic_defineElement
      (fun t e t' => mem_names_of_defineElement) _ _ ?_
    simp [names_push]
  obtain ⟨q, hq⟩ := Option.isSome_iff_exists.mp (hstep.find?_isSome_iff.mpr hmem)
  exact ⟨q, hq, not_overridden_ofRoot root q (hstep.mem_of_find? hq)⟩

/-- Writing the new value into the default restates its parameter. -/
theorem ofRoot_withValue (hv : firstToken? v.toList = none) :
    ofRoot { root with children := pre ++ e.withValue v :: post } =
      ((ofRoot root).1.retouch (restate p v), (ofRoot root).2) := by
  obtain ⟨t, problems, hstep, hnew, hpre, hcut⟩ :=
    ofRoot_cut hroot htag hname hvalue hfirst hvalid hd
  have hroot' : ({ root with children := pre ++ e.withValue v :: post } : Element).children =
      pre ++ e.withValue v :: post := rfl
  obtain ⟨t', problems', -, -, hpre', hcut'⟩ := ofRoot_cut (d := v) hroot' htag
    (by rw [attribute?_withValue, if_neg (by decide), hname])
    (by rw [attribute?_withValue, if_pos rfl, hvalue, Option.map_some]) hfirst hvalid hv
  obtain ⟨rfl, rfl⟩ := Prod.mk.inj (hpre.symm.trans hpre')
  have hf := retouches_restate p v
  -- of the table so far only the new parameter is restated
  have hold : t.parameters.map (restate p v) = t.parameters := by
    conv_rhs => rw [← List.map_id t.parameters]
    apply List.map_congr_left
    intro q hq
    apply hf.other
    rintro rfl
    exact hnew (List.mem_map_of_mem hq)
  have hstart : t.push ⟨p, v, v, false, e.location⟩ =
      (t.push ⟨p, d, d, false, e.location⟩).retouch (restate p v) := by
    simp only [push, retouch, List.map_append, hold]
    simp [restate]
  have hrest : ∀ u : Table, u.InStep ∧ p ∈ u.names →
      (retouch (restate p v) u).applyAll defineElement (post.filter (·.tag = "default")) =
        (retouch (restate p v) (u.applyAll defineElement (post.filter (·.tag = "default"))).1,
          (u.applyAll defineElement (post.filter (·.tag = "default"))).2) := by
    apply applyAll_comm atomic_defineElement
    · exact fun c _ t t' ht h => ⟨ht.1.defineElement h, mem_names_of_defineElement ht.2 h⟩
    · exact fun c _ t ht => defineElement_retouch hf ht.1 ht.2 c
  have hpushed : (t.push ⟨p, d, d, false, e.location⟩).InStep ∧
      p ∈ (t.push ⟨p, d, d, false, e.location⟩).names :=
    ⟨hstep.push hnew, by simp [names_push]⟩
  rw [hcut', hcut]
  show (_, _) = (_, _)
  rw [show (e.withValue v).location = e.location from rfl, hstart, hrest _ hpushed]

end

/-! ## Overrides -/

theorem Untouched.retouch {p n w : String} {t : Table} (h : Untouched p t) (ht : t.InStep)
    (hn : p ≠ n) : Untouched p (t.retouch (assign n w)) := by
  obtain ⟨q, hq, hfree⟩ := h
  refine ⟨q, ?_, hfree⟩
  have hother : assign n w q = q := if_neg (by rw [ht.name_of_find? hq]; exact hn)
  rw [ht.find?_retouch, hq, Option.map_some, hother]

theorem Holds.retouch {p v n w : String} {t : Table} (h : Holds p v t) (hn : p ≠ n) :
    Holds p v (t.retouch (assign n w)) := by
  intro q hq hname
  obtain ⟨q', hq', rfl⟩ := List.mem_map.mp hq
  rw [assign_name] at hname
  have hother : assign n w q' = q' := if_neg (by rw [hname]; exact hn)
  rw [hother]
  exact h q' hq' hname

theorem holds_assign (p v : String) (t : Table) : Holds p v (t.retouch (assign p v)) := by
  intro q hq hname
  obtain ⟨q', -, rfl⟩ := List.mem_map.mp hq
  rw [assign_name] at hname
  rw [assign, if_pos hname, overrideWith]

/-- The first override of a name is accepted, if its value has no token. -/
theorem override_untouched {p v : String} {t : Table} (h : Untouched p t) (ht : t.InStep)
    (hv : firstToken? v.toList = none) : t.override p v = .accepted (t.retouch (assign p v)) := by
  obtain ⟨q, hq, hfree⟩ := h
  have htoken : tokenProblem? p v = none := by rw [tokenProblem?, hv, Option.map_none]
  rw [ht.override_eq, hq]
  simp [hfree, htoken]

/-- Overrides of other names go through a change of `p`. -/
theorem overrideAll_retouch {p : String} {f : Parameter → Parameter} (hf : Retouches p f)
    {os : List (String × String)} (hos : ∀ o ∈ os, o.1 ≠ p) {t : Table} (ht : t.InStep) :
    (t.retouch f).overrideAll os = ((t.overrideAll os).1.retouch f, (t.overrideAll os).2) :=
  applyAll_comm atomic_override os (fun _ _ _ _ ht h => ht.override h)
    (fun o ho _ ht => override_retouch hf ht (hos o ho) o.2) t ht

/-- What overrides of other names keep. -/
theorem overrideAll_keeps {p : String} {P : Table → Prop} {os : List (String × String)}
    (hos : ∀ o ∈ os, o.1 ≠ p)
    (hP : ∀ n w t, t.InStep → p ≠ n → P t → P (t.retouch (assign n w))) {t : Table}
    (hstep : t.InStep) (ht : P t) : P (t.overrideAll os).1 := by
  refine (applyAll_preserves_of_mem (P := fun t => t.InStep ∧ P t) atomic_override os ?_ t
    ⟨hstep, ht⟩).2
  rintro o ho t t' ⟨hstep, ht⟩ h
  refine ⟨hstep.override h, ?_⟩
  obtain ⟨-, -, -, -, rfl⟩ := hstep.override_accepted h
  exact hP _ _ _ hstep (hos o ho).symm ht

/-- To override a parameter among others is to restate it and to override the others. -/
theorem overrideAll_restate {p v : String} {before after : List (String × String)} {t : Table}
    (hstep : t.InStep) (ht : Untouched p t) (hv : firstToken? v.toList = none)
    (hbefore : ∀ o ∈ before, o.1 ≠ p) (hafter : ∀ o ∈ after, o.1 ≠ p) :
    Holds p v (t.overrideAll (before ++ (p, v) :: after)).1 ∧
      (t.retouch (restate p v)).overrideAll (before ++ after) =
        ((t.overrideAll (before ++ (p, v) :: after)).1.retouch (restate p v),
          (t.overrideAll (before ++ (p, v) :: after)).2) := by
  have hf := retouches_restate p v
  have hmid : Untouched p (t.overrideAll before).1 :=
    overrideAll_keeps hbefore (fun _ _ _ hstep hn h => h.retouch hstep hn) hstep ht
  have hstep' : (t.overrideAll before).1.InStep := inStep_overrideAll hstep before
  have hassigned : ((t.overrideAll before).1.retouch (assign p v)).InStep :=
    hstep'.retouch (assign_name p v)
  have hlong : t.overrideAll (before ++ (p, v) :: after) =
      ((((t.overrideAll before).1.retouch (assign p v)).overrideAll after).1,
        (t.overrideAll before).2 ++
          (((t.overrideAll before).1.retouch (assign p v)).overrideAll after).2) := by
    rw [overrideAll_append, overrideAll_of_accepted (override_untouched hmid hstep' hv)]
  have hshort : (t.retouch (restate p v)).overrideAll (before ++ after) =
      ((((t.overrideAll before).1.retouch (restate p v)).overrideAll after).1,
        (t.overrideAll before).2 ++
          (((t.overrideAll before).1.retouch (restate p v)).overrideAll after).2) := by
    rw [overrideAll_append, overrideAll_retouch hf hbefore hstep]
  refine ⟨?_, ?_⟩
  · rw [hlong]
    exact overrideAll_keeps hafter (fun _ _ _ _ hn h => h.retouch hn) hassigned
      (holds_assign p v _)
  · rw [hshort, hlong, ← restate_assign p v, overrideAll_retouch hf hafter hassigned]

end Parameter.Table

/-! ## Top theorem -/

namespace Load

open Parameter (firstToken? isName)
open Parameter.Table

/-- Tables that are looked up and listed alike lead to the same end. -/
theorem nodes_alike {options options' : Options} {t t' : Parameter.Table} {root root' : Element}
    (hstrict : options.strict = options'.strict) (version : Version)
    (hget : ∀ name, t.get? name = t'.get? name)
    (hparameters : Assembly.parameters t = Assembly.parameters t')
    (helements : root.children.filter (fun e => e.tag ≠ "default") =
      root'.children.filter fun e => e.tag ≠ "default") :
    nodes options version t root = nodes options' version t' root' := by
  have hforest : Node.readForest t 0 root.children = Node.readForest t' 0 root'.children := by
    rw [Node.readForest_filter, helements, ← Node.readForest_filter]
    apply Node.readForest_congr
    intro e _ _ c _ a _ l
    exact resolve_congr (fun name _ => hget name) l
  simp only [nodes, Assembly.assemble, hforest, hparameters, hstrict]

/-- Tables with the same names and values lead to the same end. -/
theorem nodes_congr {options options' : Options} {t t' : Parameter.Table} {root root' : Element}
    (ht : t.InStep) (ht' : t'.InStep) (hstrict : options.strict = options'.strict) (version : Version)
    (hsettings : t.parameters.map (fun q => (q.name, q.value)) =
      t'.parameters.map fun q => (q.name, q.value))
    (helements : root.children.filter (fun e => e.tag ≠ "default") =
      root'.children.filter fun e => e.tag ≠ "default") :
    nodes options version t root = nodes options' version t' root' := by
  refine nodes_alike hstrict version (fun name => ?_) ?_ helements
  · rw [ht.get?_eq, ht'.get?_eq, hsettings]
  · rw [Assembly.parameters, Assembly.parameters, hsettings]

/-- **Overriding a default is equivalent to having written it.**  The load of a description with
an override for a default goes as the load without this override of the description in which the
default states the new value: with the same stages, warnings, and scene or problems. -/
theorem root_override_eq_withValue (root e : Element) (pre post : List Element)
    (p d v : String) (before after : List (String × String)) (strict : Bool)
    (hroot : root.children = pre ++ e :: post) (htag : e.tag = "default")
    (hname : e.attribute? "name" = some p) (hvalue : e.attribute? "value" = some d)
    (hfirst : ∀ c ∈ pre, c.tag = "default" → c.attribute? "name" ≠ some p)
    (hvalid : isName p.toList = true) (hd : firstToken? d.toList = none)
    (hv : firstToken? v.toList = none) (honce : ∀ o ∈ before ++ after, o.1 ≠ p) :
    Load.root ⟨before ++ (p, v) :: after, strict⟩ root =
      Load.root ⟨before ++ after, strict⟩
        { root with children := pre ++ e.withValue v :: post } := by
  have hstep := inStep_ofRoot root
  obtain ⟨hholds, hoverrides⟩ :=
    overrideAll_restate hstep (untouched_ofRoot hroot htag hname hvalue hfirst hvalid hd) hv
      (fun o ho => honce o (List.mem_append_left _ ho))
      (fun o ho => honce o (List.mem_append_right _ ho))
  have hdefaults := ofRoot_withValue hroot htag hname hvalue hfirst hvalid hd hv
  have helements : root.children.filter (fun c => c.tag ≠ "default") =
      (pre ++ e.withValue v :: post).filter fun c => c.tag ≠ "default" := by
    rw [hroot, List.filter_append, List.filter_append, List.filter_cons_of_neg (by simp [htag]),
      List.filter_cons_of_neg (by simp [Element.withValue, htag])]
  have hversion : readVersion { root with children := pre ++ e.withValue v :: post } =
      readVersion root := rfl
  rw [Load.root, Load.root, hversion]
  cases readVersion root with
  | error problem => rfl
  | ok version =>
    simp only [hdefaults, hoverrides]
    split
    · have hsettled := inStep_overrideAll hstep (before ++ (p, v) :: after)
      exact nodes_congr hsettled (hsettled.retouch (retouches_restate p v).name) rfl version
        (settings_restate hholds).symm helements
    · rfl

/-- The default of a sample count. -/
def sampleDefault : Element :=
  ⟨"default", [("name", "spp"), ("value", "4")], [], ⟨3, 3⟩⟩

/-- What stands before the default of the sample count: another default, and its use. -/
def beforeSampleDefault : List Element :=
  [⟨"default", [("name", "w"), ("value", "32")], [], ⟨2, 3⟩⟩,
   ⟨"sensor", [("type", "orthographic")],
    [⟨"sampler", [("type", "independent")],
      [⟨"integer", [("name", "sample_count"), ("value", "$spp")], [], ⟨2, 60⟩⟩], ⟨2, 40⟩⟩,
     ⟨"film", [("type", "hdrfilm")],
      [⟨"integer", [("name", "width"), ("value", "$w")], [], ⟨2, 80⟩⟩], ⟨2, 70⟩⟩], ⟨2, 30⟩⟩]

def afterSampleDefault : List Element :=
  [⟨"shape", [("type", "cube")], [⟨"bsdf", [("type", "conductor")], [], ⟨4, 20⟩⟩], ⟨4, 3⟩⟩]

theorem root_override_eq_withValue_sampleDefault :
    Load.root ⟨[("w", "64")] ++ ("spp", "16") :: [], true⟩
        ⟨"scene", [("version", "2.1.0")],
          beforeSampleDefault ++ sampleDefault :: afterSampleDefault, ⟨1, 1⟩⟩ =
      Load.root ⟨[("w", "64")] ++ [], true⟩
        ⟨"scene", [("version", "2.1.0")],
          beforeSampleDefault ++ sampleDefault.withValue "16" :: afterSampleDefault, ⟨1, 1⟩⟩ ∧
      ∃ scene, (Load.root ⟨[("w", "64")], true⟩
          ⟨"scene", [("version", "2.1.0")],
            beforeSampleDefault ++ sampleDefault.withValue "16" :: afterSampleDefault,
            ⟨1, 1⟩⟩).result = .ok scene ∧
        scene.sensors.map (fun s => (s.sampler.sampleCount, s.film.width)) = [(16, 64)] := by
  refine ⟨root_override_eq_withValue _ sampleDefault beforeSampleDefault afterSampleDefault "spp"
    "4" "16" [("w", "64")] [] true rfl rfl (by decide) (by decide) ?_ (by decide) (by cbv) (by cbv)
    (by decide), ?_⟩
  · intro c hc
    rcases List.mem_cons.mp hc with rfl | hc
    · decide
    · obtain rfl := List.mem_singleton.mp hc
      decide
  · have hload : (Load.root ⟨[("w", "64")], true⟩
        ⟨"scene", [("version", "2.1.0")],
          beforeSampleDefault ++ sampleDefault.withValue "16" :: afterSampleDefault,
          ⟨1, 1⟩⟩).result.toOption.any (fun scene =>
        scene.sensors.map (fun s => (s.sampler.sampleCount, s.film.width)) == [(16, 64)]) =
          true := by
      decide +kernel
    obtain ⟨scene, hscene, hholds⟩ := exists_of_any hload
    exact ⟨scene, hscene, eq_of_beq hholds⟩

end Load

end SceneGraph

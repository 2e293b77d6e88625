import SceneGraph.Proofs.Agreement
import SceneGraph.Proofs.OneParameter
import SceneGraph.Proofs.Success

/-!
# What a parameter reaches

The value of a parameter reaches a scene through the tokens that name it and through the scene's
list of parameters, and no other way.  Take a description in which no attribute outside the
defaults mentions `p`, and two lists of overrides that give `p` different values at one place:

    overrides            = the same problems, and tables that differ in `p`   (overrideAll_value)
    nodes and objects    = the same, as no token of `p` is replaced           (nodes_value)
    the load             = the same, with the other value listed for `p`      (text_value)

`text_independent` says what this means for the two loads.
-/

namespace SceneGraph

open Markup

/-- No attribute mentions `p`, except in the defaults of the root. -/
def Markup.Element.OnlyDefaultsMention (p : String) (root : Element) : Prop :=
  ∀ c ∈ root.children, c.tag ≠ "default" →
    ∀ e ∈ c.preorder, ∀ a ∈ e.attributes, ¬ Parameter.Mentions p a.2

instance (p : String) (root : Element) : Decidable (root.OnlyDefaultsMention p) :=
  inferInstanceAs (Decidable (∀ _ ∈ _, _))

/-- The scene with another value listed for a parameter. -/
def Scene.withParameter (p v : String) (s : Scene) : Scene :=
  { s with parameters := s.parameters.map fun q => if q.1 = p then (q.1, v) else q }

/-- The scenes are equal but for the value listed for `p`. -/
structure Scene.EqualBut (p : String) (s s' : Scene) : Prop where
  rest : { s with parameters := s'.parameters } = s'
  names : s.parameters.map (·.1) = s'.parameters.map (·.1)
  others : s.parameters.filter (·.1 ≠ p) = s'.parameters.filter (·.1 ≠ p)

/-- The run with its scene changed, if it has one. -/
def Run.mapScene (f : Scene → Scene) (r : Run) : Run := { r with result := r.result.map f }

/-! ## Overrides -/

namespace Parameter.Table

/-- There is a parameter of this name, and an override has named it. -/
def Overridden (p : String) (t : Table) : Prop := ∃ q, t.find? p = some q ∧ q.overridden = true

/-- A second value takes the place of the first. -/
theorem assign_assign (p v v' : String) (t : Table) :
    (t.retouch (assign p v)).retouch (assign p v') = t.retouch (assign p v') := by
  simp only [retouch, List.map_map]
  congr 1
  apply List.map_congr_left
  intro q _
  show assign p v' (assign p v q) = assign p v' q
  by_cases hq : q.name = p
  · simp [assign, hq, overrideWith]
  · simp [assign, hq]

/-- An override is refused with either value, for the same reason, or accepted with both. -/
theorem override_value {p v v' : String} (hv : firstToken? v.toList = none)
    (hv' : firstToken? v'.toList = none) {t : Table} (ht : t.InStep) :
    (∃ problem, t.override p v = .refused problem t ∧ t.override p v' = .refused problem t) ∨
      t.override p v = .accepted (t.retouch (assign p v)) ∧
        t.override p v' = .accepted (t.retouch (assign p v')) := by
  have htoken : tokenProblem? p v = none := by rw [tokenProblem?, hv, Option.map_none]
  have htoken' : tokenProblem? p v' = none := by rw [tokenProblem?, hv', Option.map_none]
  rw [ht.override_eq, ht.override_eq]
  cases t.find? p with
  | none => exact .inl ⟨_, rfl, rfl⟩
  | some q =>
    simp only [htoken, htoken']
    split
    · exact .inl ⟨_, rfl, rfl⟩
    · exact .inr ⟨rfl, rfl⟩

theorem overridden_of_override {p v : String} {t t' : Table} (ht : t.InStep)
    (h : t.override p v = .accepted t') : Overridden p t' := by
  obtain ⟨first, hfirst, -, -, rfl⟩ := ht.override_accepted h
  refine ⟨assign p v first, by rw [ht.find?_retouch, hfirst, Option.map_some], ?_⟩
  rw [assign, if_pos (ht.name_of_find? hfirst), overrideWith]

/-- A parameter stays overridden, whatever else is overridden. -/
theorem Overridden.retouch {p n w : String} {t : Table} (h : Overridden p t) (ht : t.InStep) :
    Overridden p (t.retouch (assign n w)) := by
  obtain ⟨q, hq, htaken⟩ := h
  refine ⟨assign n w q, by rw [ht.find?_retouch, hq, Option.map_some], ?_⟩
  unfold assign
  split
  · rfl
  · exact htaken

theorem Overridden.refused {p : String} {t : Table} (h : Overridden p t) (w : String) :
    t.override p w = .refused (.duplicateOverride p) t := by
  obtain ⟨q, hq, htaken⟩ := h
  exact override_overridden hq htaken w

/-- Later overrides go through another value of a parameter that is overridden. -/
theorem overrideAll_assign (p v : String) (os : List (String × String)) {t : Table}
    (hstep : t.InStep) (ht : Overridden p t) :
    (t.retouch (assign p v)).overrideAll os =
      ((t.overrideAll os).1.retouch (assign p v), (t.overrideAll os).2) := by
  refine applyAll_comm (P := fun t => t.InStep ∧ Overridden p t) atomic_override os ?_ ?_ t
    ⟨hstep, ht⟩
  · rintro o _ t t' ⟨hstep, ht⟩ h
    refine ⟨hstep.override h, ?_⟩
    obtain ⟨-, -, -, -, rfl⟩ := hstep.override_accepted h
    exact ht.retouch hstep
  · rintro o _ t ⟨hstep, ht⟩
    by_cases ho : o.1 = p
    · rw [ho, ht.refused, (ht.retouch hstep).refused]
      rfl
    · exact override_retouch (retouches_assign p v) hstep ho o.2

/-- Two lists of overrides that differ in one value report the same, and if they report nothing
leave tables that differ in this value. -/
theorem overrideAll_value {p v v' : String} (hv : firstToken? v.toList = none)
    (hv' : firstToken? v'.toList = none) (before after : List (String × String)) {t : Table}
    (ht : t.InStep) :
    (t.overrideAll (before ++ (p, v') :: after)).2 =
        (t.overrideAll (before ++ (p, v) :: after)).2 ∧
      ((t.overrideAll (before ++ (p, v) :: after)).2 = [] →
        (t.overrideAll (before ++ (p, v') :: after)).1 =
          (t.overrideAll (before ++ (p, v) :: after)).1.retouch (assign p v')) := by
  simp only [overrideAll_append]
  have hs := inStep_overrideAll ht before
  revert hs
  generalize (t.overrideAll before).1 = s
  intro hs
  rcases override_value (p := p) hv hv' hs with ⟨problem, hfirst, hsame⟩ | ⟨hfirst, hsame⟩
  · rw [overrideAll_of_refused hfirst, overrideAll_of_refused hsame]
    exact ⟨rfl, fun hnone => by simp at hnone⟩
  · have hlater := overrideAll_assign p v' after (hs.override hfirst)
      (overridden_of_override hs hfirst)
    rw [assign_assign] at hlater
    rw [overrideAll_of_accepted hfirst, overrideAll_of_accepted hsame, hlater]
    exact ⟨rfl, fun _ => rfl⟩

end Parameter.Table

/-! ## Scenes -/

open Parameter.Table

theorem Scene.equalBut_withParameter (p v : String) (s : Scene) :
    s.EqualBut p (s.withParameter p v) where
  rest := rfl
  names := by
    rw [withParameter, List.map_map]
    apply List.map_congr_left
    intro q _
    simp only [Function.comp]
    split <;> rfl
  others := by
    rw [withParameter, List.filter_map]
    have hkept : (fun q : String × String => decide (q.1 ≠ p)) ∘
        (fun q => if q.1 = p then (q.1, v) else q) = fun q => decide (q.1 ≠ p) := by
      funext q
      simp only [Function.comp]
      split <;> rfl
    rw [hkept]
    conv_lhs => rw [← List.map_id (s.parameters.filter _)]
    apply List.map_congr_left
    intro q hq
    have hname : q.1 ≠ p := by simpa using (List.mem_filter.mp hq).2
    rw [if_neg hname, id]

namespace Assembly

/-- The list of parameters of a scene, with another value for one of them. -/
theorem parameters_assign (p v : String) (t : Parameter.Table) :
    parameters (t.retouch (assign p v)) =
      (parameters t).map fun q => if q.1 = p then (q.1, v) else q := by
  have hname : ∀ q : String × String, (if q.1 = p then (q.1, v) else q).1 = q.1 := by
    intro q
    split <;> rfl
  rw [parameters, parameters, List.map_mergeSort (s := fun a b => decide (a.1 ≤ b.1))
    (fun a _ b _ => by rw [hname, hname]), retouch, List.map_map, List.map_map]
  congr 1
  apply List.map_congr_left
  intro q _
  simp only [Function.comp, assign]
  split <;> rfl

/-- Only the list of parameters depends on the parameters. -/
theorem assemble_parameters (version : Version) (t u : Parameter.Table) (inst : Instantiation) :
    assemble version u inst =
      (assemble version t inst).map fun s => { s with parameters := parameters u } := by
  unfold assemble
  dsimp only
  split
  · rfl
  · rfl

end Assembly

/-! ## Top theorem -/

namespace Load

open Parameter (firstToken?)

/-- Nodes that do not mention `p` come out the same for every value of `p`. -/
theorem nodes_value {options options' : Options} (hstrict : options.strict = options'.strict)
    (version : Version) (p v : String) {t : Parameter.Table} (ht : t.InStep) {root : Element}
    (hroot : root.OnlyDefaultsMention p) :
    nodes options' version (t.retouch (assign p v)) root =
      (nodes options version t root).mapScene (Scene.withParameter p v) := by
  have hforest : Node.readForest (t.retouch (assign p v)) 0 root.children =
      Node.readForest t 0 root.children := by
    apply Node.readForest_congr
    intro c hc hdefault e he a ha l
    apply resolve_congr
    intro name hmentions
    apply get?_retouch (retouches_assign p v) ht
    rintro rfl
    exact hroot c hc hdefault e he a ha hmentions
  have hassemble : ∀ inst, Assembly.assemble version (t.retouch (assign p v)) inst =
      (Assembly.assemble version t inst).map (Scene.withParameter p v) := by
    intro inst
    rw [Assembly.assemble_parameters version t]
    unfold Assembly.assemble
    dsimp only
    split
    · simp only [Except.map, Scene.withParameter, Assembly.parameters_assign]
    · rfl
  simp only [nodes, hforest, hassemble, ← hstrict]
  split
  · cases Assembly.assemble version t _ with
    | ok scene => rfl
    | error problems => rfl
  · rfl

/-- Another value for an override of `p` changes nothing but the value that is listed. -/
theorem root_value {p v v' : String} (hv : firstToken? v.toList = none)
    (hv' : firstToken? v'.toList = none) (before after : List (String × String)) (strict : Bool)
    {root : Element} (hroot : root.OnlyDefaultsMention p) :
    Load.root ⟨before ++ (p, v') :: after, strict⟩ root =
      (Load.root ⟨before ++ (p, v) :: after, strict⟩ root).mapScene
        (Scene.withParameter p v') := by
  have hstep := inStep_ofRoot root
  obtain ⟨hproblems, htable⟩ := overrideAll_value (p := p) hv hv' before after hstep
  unfold Load.root
  cases readVersion root with
  | error problem => rfl
  | ok version =>
    simp only [hproblems]
    split
    · next hempty =>
      obtain ⟨-, hsilent⟩ := List.append_eq_nil_iff.mp (List.isEmpty_iff.mp hempty)
      rw [htable hsilent]
      exact nodes_value rfl version p v' (inStep_overrideAll hstep _) hroot
    · rfl

theorem text_value {p v v' : String} (hv : firstToken? v.toList = none)
    (hv' : firstToken? v'.toList = none) (before after : List (String × String)) (strict : Bool)
    {source : String} (hsource : ∀ root, read source = .ok root → root.OnlyDefaultsMention p) :
    text ⟨before ++ (p, v') :: after, strict⟩ source =
      (text ⟨before ++ (p, v) :: after, strict⟩ source).mapScene (Scene.withParameter p v') := by
  cases hread : read source with
  | error f => simp only [text, hread]; rfl
  | ok root =>
    rw [text_of_read hread, text_of_read hread]
    exact root_value hv hv' before after strict (hsource root hread)

/-- **An override affects only what mentions it.**  Where no attribute outside the defaults
mentions `p`, two loads whose overrides differ in the value for `p` go through the same stages
with the same warnings, and end with the same problems or with scenes that differ at most in the
value listed for `p`. -/
theorem text_independent (source p v v' : String) (before after : List (String × String))
    (strict : Bool) (hv : firstToken? v.toList = none) (hv' : firstToken? v'.toList = none)
    (hsource : ∀ root, read source = .ok root → root.OnlyDefaultsMention p) :
    let run := text ⟨before ++ (p, v) :: after, strict⟩ source
    let run' := text ⟨before ++ (p, v') :: after, strict⟩ source
    run.stages = run'.stages ∧ run.warnings = run'.warnings ∧
      ((∃ problems, run.result = .error problems ∧ run'.result = .error problems) ∨
        ∃ scene scene', run.result = .ok scene ∧ run'.result = .ok scene' ∧
          scene.EqualBut p scene') := by
  intro run run'
  have hrun : run' = run.mapScene (Scene.withParameter p v') :=
    text_value hv hv' before after strict hsource
  rw [hrun]
  refine ⟨rfl, rfl, ?_⟩
  cases hresult : run.result with
  | error problems => exact .inl ⟨problems, rfl, by rw [Run.mapScene, hresult]; rfl⟩
  | ok scene =>
    exact .inr ⟨scene, _, rfl, by rw [Run.mapScene, hresult]; rfl,
      Scene.equalBut_withParameter p v' scene⟩

/-- A description with a parameter `sp` that is not used, and a token that starts like it. -/
def sampledCube : String :=
  "<scene version=\"2.1.0\"><default name=\"spp\" value=\"4\"/><default name=\"sp\" value=\"9\"/>" ++
    "<sensor type=\"orthographic\"><sampler type=\"independent\">" ++
    "<integer name=\"sample_count\" value=\"$spp\"/></sampler><film type=\"hdrfilm\"/></sensor>" ++
    "<shape type=\"cube\"><bsdf type=\"conductor\"/></shape></scene>"

theorem text_independent_sampledCube :
    ∃ scene scene', (text ⟨[("spp", "16"), ("sp", "1")], false⟩ sampledCube).result = .ok scene ∧
      (text ⟨[("spp", "16"), ("sp", "2")], false⟩ sampledCube).result = .ok scene' ∧
      scene.sensors.map (fun s => s.sampler.sampleCount) = [16] ∧ scene.EqualBut "sp" scene' := by
  have hload : (read sampledCube).toOption.any (fun root =>
      decide (root.OnlyDefaultsMention "sp") &&
        (Load.root ⟨[("spp", "16"), ("sp", "1")], false⟩ root).result.toOption.any fun scene =>
          scene.sensors.map (fun s => s.sampler.sampleCount) == [16]) = true := by
    decide +kernel
  obtain ⟨root, hread, hholds⟩ := exists_of_any hload
  obtain ⟨hmentions, hresult⟩ := Bool.and_eq_true_iff.mp hholds
  obtain ⟨scene, hscene, hcount⟩ := exists_of_any hresult
  rw [← text_of_read hread] at hscene
  obtain ⟨-, -, hruns⟩ := text_independent sampledCube "sp" "1" "2" [("spp", "16")] [] false
    (by cbv) (by cbv) (by
      intro root' hread'
      obtain rfl : root = root' := Except.ok.inj (hread.symm.trans hread')
      exact of_decide_eq_true hmentions)
  rcases hruns with ⟨problems, hfailed, -⟩ | ⟨scene₁, scene', hscene₁, hscene', hequal⟩
  · exact absurd (hscene.symm.trans hfailed) (by simp)
  · obtain rfl : scene = scene₁ := Except.ok.inj (hscene.symm.trans hscene₁)
    exact ⟨scene, scene', hscene, hscene', eq_of_beq hcount, hequal⟩

end Load

end SceneGraph

import SceneGraph.Proofs.Anonymity
import SceneGraph.Proofs.Completeness

/-!
# Scenes do not look at the ids of values

Samplers and films are checked and put into the scene without their ids, so roots that are equal
but for these ids make the same scene, if they make one at all (`assemble_alike`).

The ids stand in problems, though.  `Checked.Agree` therefore compares two checks by their values
and by whether there is a problem.
-/

namespace SceneGraph

namespace Checked

variable {α β γ δ : Type}

/-- The values are related, if there are any, and there is no problem where there was none. -/
structure Agree (R : α → β → Prop) (c : Checked α) (d : Checked β) : Prop where
  value : Option.Rel R c.value? d.value?
  problems : c.problems = [] → d.problems = []

theorem agree_of {R : α → β → Prop} {a : α} {b : β} (h : R a b) : Agree R (of a) (of b) :=
  ⟨.some h, fun _ => rfl⟩

theorem agree_fail (R : α → β → Prop) (p q : Problem) : Agree R (fail p) (fail q) :=
  ⟨.none, fun h => by cases h⟩

theorem agree_refl (c : Checked α) : Agree Eq c c := by
  refine ⟨?_, id⟩
  cases c.value? with
  | none => exact .none
  | some a => exact .some rfl

theorem agree_andThen {R : α → β → Prop} {Q : γ → δ → Prop} {c : Checked α} {d : Checked β}
    {f : α → Checked γ} {g : β → Checked δ} (h : Agree R c d)
    (hnext : ∀ a b, R a b → Agree Q (f a) (g b)) : Agree Q (c.andThen f) (d.andThen g) := by
  obtain ⟨c, ps⟩ := c
  obtain ⟨d, qs⟩ := d
  obtain ⟨hvalue, hproblems⟩ := h
  cases hvalue with
  | none => exact ⟨.none, hproblems⟩
  | some hab =>
    obtain ⟨hvalue', hproblems'⟩ := hnext _ _ hab
    refine ⟨hvalue', fun h => ?_⟩
    obtain ⟨hfirst, hrest⟩ := List.append_eq_nil_iff.mp h
    exact List.append_eq_nil_iff.mpr ⟨hproblems hfirst, hproblems' hrest⟩

theorem agree_both {R : α → β → Prop} {Q : γ → δ → Prop} {c : Checked α} {d : Checked β}
    {c' : Checked γ} {d' : Checked δ} (h : Agree R c d) (h' : Agree Q c' d') :
    Agree (fun x y => R x.1 y.1 ∧ Q x.2 y.2) (c.both c') (d.both d') := by
  obtain ⟨c, ps⟩ := c
  obtain ⟨d, qs⟩ := d
  obtain ⟨c', ps'⟩ := c'
  obtain ⟨d', qs'⟩ := d'
  obtain ⟨hvalue, hproblems⟩ := h
  obtain ⟨hvalue', hproblems'⟩ := h'
  constructor
  · cases hvalue with
    | none => exact .none
    | some hab =>
      cases hvalue' with
      | none => exact .none
      | some hcd => exact .some ⟨hab, hcd⟩
  · intro h
    obtain ⟨hfirst, hrest⟩ := List.append_eq_nil_iff.mp h
    exact List.append_eq_nil_iff.mpr ⟨hproblems hfirst, hproblems' hrest⟩

/-- Checks of lists that are equal in what the check looks at. -/
theorem agree_all_map {f : α → β} {g : α → Checked γ}
    (hg : ∀ a b, f a = f b → Agree Eq (g a) (g b)) : ∀ {as bs : List α}, as.map f = bs.map f →
      Agree Eq (all (as.map g)) (all (bs.map g))
  | [], [], _ => agree_of rfl
  | _ :: _, _ :: _, h => by
    obtain ⟨hfirst, hrest⟩ := List.cons.inj h
    refine agree_andThen (agree_both (hg _ _ hfirst) (agree_all_map hg hrest)) ?_
    rintro ⟨c, cs⟩ ⟨_, _⟩ ⟨rfl, rfl⟩
    exact agree_of rfl
  | [], _ :: _, h => nomatch h
  | _ :: _, [], h => nomatch h

end Checked

/-- The roots are the same node, with objects that are equal but for ids. -/
structure Instantiation.Root.Alike (r r' : Instantiation.Root) : Prop where
  node : r.node = r'.node
  object : r.object.anonymous = r'.object.anonymous

namespace Assembly

open Checked
open Instantiation (Root)

/-! ## Drafts -/

theorem agree_positiveCount (r r' : NodeRef) (property : String) (n : Int) :
    Agree Eq (positiveCount r property n) (positiveCount r' property n) := by
  unfold positiveCount
  split
  · exact agree_of rfl
  · exact agree_fail _ _ _

theorem agree_seed (r r' : NodeRef) (n : Int) : Agree Eq (seed r n) (seed r' n) := by
  unfold seed
  split
  · exact agree_of rfl
  · exact agree_fail _ _ _

theorem agree_sampler (d d' : SamplerDraft) (h : d.anonymous = d'.anonymous) :
    Agree Eq (sampler d) (sampler d') := by
  obtain ⟨node, kind, count, start⟩ := d
  obtain ⟨node', kind', count', start'⟩ := d'
  obtain ⟨-, rfl, rfl, rfl⟩ := SamplerDraft.mk.inj h
  refine agree_andThen (agree_both (agree_positiveCount _ _ _ _) (agree_seed _ _ _)) ?_
  rintro ⟨a, b⟩ ⟨a', b'⟩ ⟨rfl, rfl⟩
  exact agree_of rfl

theorem agree_film (d d' : FilmDraft) (h : d.anonymous = d'.anonymous) :
    Agree Eq (film d) (film d') := by
  obtain ⟨node, width, height, pixels, components, filter⟩ := d
  obtain ⟨node', width', height', pixels', components', filter'⟩ := d'
  obtain ⟨-, rfl, rfl, rfl, rfl, rfl⟩ := FilmDraft.mk.inj h
  refine agree_andThen (agree_both (agree_positiveCount _ _ _ _) (agree_positiveCount _ _ _ _)) ?_
  rintro ⟨a, b⟩ ⟨a', b'⟩ ⟨rfl, rfl⟩
  exact agree_of rfl

/-- Lists of the same length have a single element or not. -/
theorem agree_single {α : Type} (r : NodeRef) (rule : Nat → Violation) :
    ∀ {as bs : List α}, as.length = bs.length →
      Agree (fun _ _ => True) (single r rule as) (single r rule bs)
  | [], [], _ => agree_fail _ _ _
  | [_], [_], _ => agree_of trivial
  | _ :: _ :: _, _ :: _ :: _, _ => agree_fail _ _ _

theorem agree_sensor (d d' : SensorDraft) (h : d.anonymous = d'.anonymous) :
    Agree Eq (sensor d) (sensor d') := by
  obtain ⟨node, kind, near, far, toWorld, samplers, films⟩ := d
  obtain ⟨node', kind', near', far', toWorld', samplers', films'⟩ := d'
  simp only [SensorDraft.anonymous, SensorDraft.mk.injEq] at h
  obtain ⟨rfl, rfl, rfl, rfl, rfl, hsamplers, hfilms⟩ := h
  have hcounts := agree_both
    (agree_single node .samplerCount (by simpa using congrArg List.length hsamplers))
    (agree_single node .filmCount (by simpa using congrArg List.length hfilms))
  have hparts := agree_both (agree_all_map agree_sampler hsamplers)
    (agree_all_map agree_film hfilms)
  refine agree_andThen (agree_both hcounts hparts) ?_
  rintro ⟨_, samplers, films⟩ ⟨_, _, _⟩ ⟨-, rfl, rfl⟩
  rcases samplers with _ | ⟨a, _ | ⟨a', as⟩⟩ <;> rcases films with _ | ⟨b, _ | ⟨b', bs⟩⟩
  all_goals exact agree_refl _

/-! ## Roots -/

theorem option_eq_of_rel {α : Type} {a b : Option α} (h : Option.Rel Eq a b) : a = b := by
  cases h with
  | none => rfl
  | some hab => rw [hab]

/-- A root without a problem adds the same, whatever the ids of values in it. -/
theorem add_alike {r r' : Root} (h : r.Alike r') {parts : Parts} (hnone : (parts.add r).2 = []) :
    parts.add r' = parts.add r := by
  obtain ⟨node, o⟩ := r
  obtain ⟨node', o'⟩ := r'
  obtain ⟨rfl, hobject⟩ : node = node' ∧ o.anonymous = o'.anonymous := ⟨h.node, h.object⟩
  have hnamed : ∀ ps qs, (parts.named node ps).2 = [] → (ps = [] → qs = []) →
      parts.named node qs = parts.named node ps := by
    intro ps qs hps hqs
    unfold Parts.named at hps ⊢
    split
    · next hid =>
      rw [if_pos hid] at hps
      have hnone : ps = [] := hps
      rw [hqs hnone, hnone]
    · rfl
  rcases Object.anonymous_cases hobject with ⟨d, d', rfl, rfl, hd⟩ | ⟨d, d', rfl, rfl, hd⟩ |
    ⟨d, d', rfl, rfl, hd⟩ | rfl
  · exact hnamed _ _ hnone (agree_sampler d d' hd).problems
  · exact hnamed _ _ hnone (agree_film d d' hd).problems
  · obtain ⟨hvalue, hproblems⟩ := agree_sensor d d' hd
    have hsensor : (sensor d).problems = [] := hnone
    simp only [Parts.add, option_eq_of_rel hvalue, hsensor, hproblems hsensor]
  · rfl

theorem addAll_alike {rs rs' : List Root} (h : List.Forall₂ Root.Alike rs rs') :
    ∀ {parts : Parts}, (parts.addAll rs).2 = [] → parts.addAll rs' = parts.addAll rs := by
  induction h with
  | nil => exact fun _ => rfl
  | cons hroot _ ih =>
    intro parts hnone
    rw [Parts.addAll] at hnone
    obtain ⟨hfirst, hrest⟩ := List.append_eq_nil_iff.mp hnone
    rw [Parts.addAll, Parts.addAll, add_alike hroot hfirst]
    simp only [ih hrest]

theorem sceneProblems_alike {rs rs' : List Root} (h : List.Forall₂ Root.Alike rs rs') :
    sceneProblems rs' = sceneProblems rs := by
  have hany : ∀ k : NodeKind, rs'.any (·.object.kind = k) = rs.any (·.object.kind = k) := by
    intro k
    induction h with
    | nil => rfl
    | cons hroot _ ih => rw [List.any_cons, List.any_cons, ih, Object.kind_congr hroot.object]
  rw [sceneProblems, sceneProblems, hany, hany]

/-- What makes a scene makes the same scene with other ids of values. -/
theorem assemble_alike {version : Version} {params : Parameter.Table}
    {inst inst' : Instantiation} {scene : Scene}
    (hroots : List.Forall₂ Root.Alike inst.roots inst'.roots) (harena : inst.arena = inst'.arena)
    (h : assemble version params inst = .ok scene) :
    assemble version params inst' = .ok scene := by
  obtain ⟨⟨hfound, -⟩, -⟩ := assemble_ok h
  rw [assemble] at h ⊢
  rw [addAll_alike hroots (eq_nil_of_distinct hfound), sceneProblems_alike hroots, ← harena]
  exact h

end Assembly

end SceneGraph

import SceneGraph.Proofs.Citations
import SceneGraph.Proofs.Courses
import SceneGraph.Proofs.Positions

/-!
# Problems name elements of the document

Positions and node contexts are copied: from an element into its node, from the node into its
object, with the object along references, and from there into a problem that may be found much
later.  Yet every position that a problem names is the position of one element of the document,
and a node context is that of this element (`text_problems_traced`).

    before building       Tracing
    while building        run_traced
    the scene as a whole  assemble_error
    one element           read_onlyAt
-/

namespace SceneGraph

open Markup

namespace Load

variable {options : Options} {root : Element}

theorem preorderAll_subset (root : Element) :
    Element.preorderAll root.children ⊆ root.preorder := by
  cases root
  exact List.subset_cons_self _ _

theorem forest_from : ∀ n ∈ postorder (forest options root).value,
    n.From (parameters options root) (Element.preorderAll root.children) :=
  Node.readForest_from root.children 0

/-- Problems of reading and building nodes name elements of the description. -/
theorem nodeProblems_traced :
    ∀ p ∈ nodeProblems options root,
      p.Traced (parameters options root) (Element.preorderAll root.children) := by
  intro p hp
  rcases List.mem_append.mp hp with hp | hp
  · exact Problem.traced_of_fault (Node.readForest_faults root.children 0 p hp)
  · obtain ⟨f, hf, hproblem⟩ := List.mem_filterMap.mp hp
    have htraced := (Instantiation.run_traced forest_from).1 f hf
    cases f with
    | problem q =>
      obtain rfl := Option.some.inj hproblem
      exact htraced
    | unused u =>
      cases hstrict : options.strict with
      | false =>
        rw [hstrict] at hproblem
        cases hproblem
      | true =>
        rw [hstrict] at hproblem
        obtain rfl := Option.some.inj hproblem
        exact htraced

/-- Problems of the scene as a whole are about its roots, about nodes that these cite, or about
none. -/
theorem sceneProblems_traced {version : Version} {problems : List Problem}
    (h : Assembly.assemble version (parameters options root) (built options root).1 =
      .error problems) :
    ∀ p ∈ problems, p.Traced (parameters options root) (Element.preorderAll root.children) := by
  intro p hp
  rcases (Assembly.assemble_error h).2 p hp with ⟨r, hr, node, hnode, rule, rfl⟩ | rfl | rfl
  · obtain ⟨hobject, hroot⟩ := (Instantiation.run_traced forest_from).2 r hr
    have hnames : ∃ e ∈ Element.preorderAll root.children,
        node.Names (parameters options root) e := by
      rcases List.mem_cons.mp hnode with rfl | hcited
      · exact hroot
      · exact hobject node hcited
    exact Problem.traced_of_node hnames rfl rfl nofun
  · exact Problem.traced_of_places (List.forall_mem_nil _) rfl nofun
  · exact Problem.traced_of_places (List.forall_mem_nil _) rfl nofun

/-- Every problem of a load names elements of the document. -/
theorem text_traced {source : String} {problems : List Problem} (hread : read source = .ok root)
    (h : (text options source).result = .error problems) :
    ∀ p ∈ problems, p.Traced (parameters options root) root.preorder := by
  have hsub := preorderAll_subset root
  have hcourse := course_text options source
  generalize text options source = run at hcourse h
  cases hcourse with
  | text hread' =>
    rw [hread] at hread'
    cases hread'
  | version hread' hversion =>
    obtain rfl := Except.ok.inj (hread.symm.trans hread')
    obtain rfl := Except.error.inj h
    intro p hp
    obtain rfl := List.mem_singleton.mp hp
    exact readVersion_traced hversion
  | parameters hread' hversion hparams =>
    obtain rfl := Except.ok.inj (hread.symm.trans hread')
    obtain rfl := Except.error.inj h
    rw [parameterProblems_eq]
    exact List.forall_mem_append.mpr
      ⟨Parameter.Table.ofRoot_traced root, Parameter.Table.overrideAll_traced _ _⟩
  | nodes hread' hversion hparams hnodes =>
    obtain rfl := Except.ok.inj (hread.symm.trans hread')
    obtain rfl := Except.error.inj h
    exact fun p hp => (nodeProblems_traced p hp).mono hsub
  | scene hread' hversion hparams hnodes hscene =>
    obtain rfl := Except.ok.inj (hread.symm.trans hread')
    obtain rfl := Except.error.inj h
    exact fun p hp => (sceneProblems_traced hscene p hp).mono hsub
  | ready => cases h

/-- **Positions are those of offenders.**  However a load of a well formed document fails, every
position in every problem, the first ones of repeated declarations among them, is that of one
element of the document and of no other.  Where a problem tells the node that it is about, the
element at the node's position has the node's kind as its tag, and the node's type and id in its
attributes, with their parameters substituted. -/
theorem text_problems_traced (options : Options) (source : String) (root : Element)
    (problems : List Problem) (hread : read source = .ok root)
    (h : (text options source).result = .error problems) :
    ∀ p ∈ problems, (∀ l ∈ p.places, ∃ e, root.OnlyAt l e) ∧
      ∀ r, p.node? = some r →
        ∃ e, root.OnlyAt r.location e ∧ r.Names (parameters options root) e := by
  intro p hp
  have htraced := text_traced hread h p hp
  refine ⟨fun l hl => ?_, fun r hr => ?_⟩
  · obtain ⟨e, he, rfl⟩ := htraced.places l hl
    exact ⟨e, read_onlyAt hread he⟩
  · obtain ⟨e, he, hnames⟩ := htraced.node r hr
    refine ⟨e, ?_, hnames⟩
    rw [← hnames.location]
    exact read_onlyAt hread he

/-- A sampler that a sensor uses by reference; that it counts no samples is found with the
sensor. -/
def borrowedSampler : String :=
  "<scene version=\"2.1.0\"><default name=\"s\" value=\"a\"/>\n" ++
    "<sampler type=\"independent\" id=\"$s\"><integer name=\"sample_count\" value=\"0\"/></sampler>\n" ++
    "<sensor type=\"orthographic\"><ref id=\"a\"/><film type=\"hdrfilm\"/></sensor>\n" ++
    "<shape type=\"cube\"><bsdf type=\"conductor\"/></shape></scene>"

theorem text_problems_traced_borrowedSampler :
    ∃ root problems, read borrowedSampler = .ok root ∧
      (text ⟨[], false⟩ borrowedSampler).result = .error problems ∧
      problems = [.violation ⟨.sampler, "independent", some "a", ⟨2, 1⟩⟩
        (.notPositiveCount "sample_count" 0)] ∧
      ∀ p ∈ problems, (∀ l ∈ p.places, ∃ e, root.OnlyAt l e) ∧
        ∀ r, p.node? = some r →
          ∃ e, root.OnlyAt r.location e ∧ r.Names (parameters ⟨[], false⟩ root) e := by
  have hload : (read borrowedSampler).toOption.any (fun root =>
      (Load.root ⟨[], false⟩ root).result.casesOn (fun problems => decide (problems =
        [.violation ⟨.sampler, "independent", some "a", ⟨2, 1⟩⟩
          (.notPositiveCount "sample_count" 0)])) (fun _ => false)) = true := by
    decide +kernel
  obtain ⟨root, hread, hholds⟩ := exists_of_any hload
  obtain ⟨problems, hproblems, heq⟩ := exists_error_of_elim hholds
  rw [← text_of_read hread] at hproblems
  exact ⟨root, problems, hread, hproblems, of_decide_eq_true heq,
    text_problems_traced ⟨[], false⟩ borrowedSampler root problems hread hproblems⟩

end Load

end SceneGraph

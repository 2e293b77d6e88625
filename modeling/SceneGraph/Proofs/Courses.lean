import SceneGraph.Proofs.Success

/-!
# The courses that a load can take

A load goes on until a phase has something to report, and what it reports then comes from this
phase alone.  `Course` lists the six ways: five phases that can end a load, each with the stages
that were entered by then, and the load that comes through.  The premises exclude each other, so
the course says what a load comes to (`course_iff`).
-/

namespace SceneGraph

namespace Parameter.Table

variable {α : Type} (change : Table → α → Reply)

/-- The refusals among some changes in their order, of each in the table that the changes before it
have left. -/
def refusals (t : Table) (as : List α) : List Problem :=
  (List.range as.length).filterMap fun i =>
    as[i]?.bind fun a => (change (applyAll change t (as.take i)).1 a).problem?

theorem applyAll_cons (t : Table) (a : α) (as : List α) :
    applyAll change t (a :: as) = ((applyAll change (change t a).table as).1,
      (change t a).problem?.toList ++ (applyAll change (change t a).table as).2) := by
  rw [applyAll]
  cases change t a <;> rfl

theorem refusals_cons (t : Table) (a : α) (as : List α) :
    refusals change t (a :: as) =
      (change t a).problem?.toList ++ refusals change (change t a).table as := by
  have hrest : ((fun i => (a :: as)[i]?.bind fun b =>
      (change (applyAll change t ((a :: as).take i)).1 b).problem?) ∘ Nat.succ) =
      fun i => as[i]?.bind fun b =>
        (change (applyAll change (change t a).table (as.take i)).1 b).problem? := by
    funext i
    simp only [Function.comp, List.getElem?_cons_succ, List.take_succ_cons, applyAll_cons]
  have hfirst : ((a :: as)[0]?.bind fun b =>
      (change (applyAll change t ((a :: as).take 0)).1 b).problem?) = (change t a).problem? := rfl
  rw [refusals, refusals, List.length_cons, List.range_succ_eq_map, List.filterMap_cons, hfirst,
    List.filterMap_map, hrest]
  cases (change t a).problem? <;> rfl

theorem applyAll_problems (as : List α) :
    ∀ t, (applyAll change t as).2 = refusals change t as := by
  induction as with
  | nil => exact fun t => rfl
  | cons a as ih =>
    intro t
    rw [applyAll_cons, ih, refusals_cons]

end Parameter.Table

namespace Load

open Markup

/-- What the defaults are refused for, in document order, and then what the overrides are refused
for, in their order. -/
def parameterProblems (options : Options) (root : Element) : List Problem :=
  Parameter.Table.refusals Parameter.Table.defineElement .empty
      (root.children.filter (·.tag = "default")) ++
    Parameter.Table.refusals (fun t o => t.override o.1 o.2) (Parameter.Table.ofRoot root).1
      options.overrides

/-- What building the nodes of a description comes to. -/
def built (options : Options) (root : Element) : Instantiation × List Finding :=
  Instantiation.run (forest options root).value

/-- The problems of reading the nodes and those of building their objects. -/
def nodeProblems (options : Options) (root : Element) : List Problem :=
  (forest options root).problems ++ Finding.problems options.strict (built options root).2

def nodeWarnings (options : Options) (root : Element) : List Unused :=
  Finding.warnings options.strict (built options root).2

/-- The ways that a load can go. -/
inductive Course (options : Options) (source : String) : Run → Prop
  | text {f : Failure} (hread : read source = .error f) :
      Course options source (.fail [.readingDefaults] [] [.notWellFormed f.location f.fault])
  | version {root : Element} {p : Problem} (hread : read source = .ok root)
      (hversion : readVersion root = .error p) :
      Course options source (.fail [.readingDefaults] [] [p])
  | parameters {root : Element} {version : Version} (hread : read source = .ok root)
      (hversion : readVersion root = .ok version) (hparams : parameterProblems options root ≠ []) :
      Course options source (.fail [.readingDefaults] [] (parameterProblems options root))
  | nodes {root : Element} {version : Version} (hread : read source = .ok root)
      (hversion : readVersion root = .ok version) (hparams : parameterProblems options root = [])
      (hnodes : nodeProblems options root ≠ []) :
      Course options source (.fail [.readingDefaults, .readingNodes, .resolving]
        (nodeWarnings options root) (nodeProblems options root))
  | scene {root : Element} {version : Version} {problems : List Problem}
      (hread : read source = .ok root) (hversion : readVersion root = .ok version)
      (hparams : parameterProblems options root = []) (hnodes : nodeProblems options root = [])
      (hscene : Assembly.assemble version (parameters options root) (built options root).1 =
        .error problems) :
      Course options source (.fail [.readingDefaults, .readingNodes, .resolving, .validating]
        (nodeWarnings options root) problems)
  | ready {root : Element} {version : Version} {scene : Scene} (hread : read source = .ok root)
      (hversion : readVersion root = .ok version) (hparams : parameterProblems options root = [])
      (hnodes : nodeProblems options root = [])
      (hscene : Assembly.assemble version (parameters options root) (built options root).1 =
        .ok scene) :
      Course options source ⟨[.readingDefaults, .readingNodes, .resolving, .validating, .ready],
        nodeWarnings options root, .ok scene⟩

variable {options : Options} {source : String} {root : Element} {version : Version}

/-! ## Phases in order -/

theorem root_of_version {p : Problem} (h : readVersion root = .error p) :
    Load.root options root = .fail [.readingDefaults] [] [p] := by
  rw [Load.root, h]

theorem parameterProblems_eq :
    parameterProblems options root = (Parameter.Table.ofRoot root).2 ++
      ((Parameter.Table.ofRoot root).1.overrideAll options.overrides).2 := by
  rw [parameterProblems, ← Parameter.Table.applyAll_problems, ← Parameter.Table.applyAll_problems]
  rfl

theorem root_of_parameters (h : readVersion root = .ok version) :
    Load.root options root =
      if (parameterProblems options root).isEmpty then
        nodes options version (parameters options root) root
      else .fail [.readingDefaults] [] (parameterProblems options root) := by
  rw [Load.root, h, parameterProblems_eq]
  rfl

theorem nodes_eq :
    nodes options version (parameters options root) root =
      if (nodeProblems options root).isEmpty then
        match Assembly.assemble version (parameters options root) (built options root).1 with
        | .ok scene => ⟨[.readingDefaults, .readingNodes, .resolving, .validating, .ready],
            nodeWarnings options root, .ok scene⟩
        | .error problems => .fail [.readingDefaults, .readingNodes, .resolving, .validating]
            (nodeWarnings options root) problems
      else .fail [.readingDefaults, .readingNodes, .resolving] (nodeWarnings options root)
        (nodeProblems options root) := rfl

theorem course_text (options : Options) (source : String) :
    Course options source (text options source) := by
  cases hread : read source with
  | error f =>
    rw [Load.text, hread]
    exact .text hread
  | ok root =>
    rw [text_of_read hread]
    cases hversion : readVersion root with
    | error p =>
      rw [root_of_version hversion]
      exact .version hread hversion
    | ok version =>
      rw [root_of_parameters hversion]
      split
      · next hparams =>
        have hparams := List.isEmpty_iff.mp hparams
        rw [nodes_eq]
        split
        · next hnodes =>
          have hnodes := List.isEmpty_iff.mp hnodes
          split
          · next hscene => exact .ready hread hversion hparams hnodes hscene
          · next hscene => exact .scene hread hversion hparams hnodes hscene
        · next hnodes => exact .nodes hread hversion hparams (mt List.isEmpty_iff.mpr hnodes)
      · next hparams => exact .parameters hread hversion (mt List.isEmpty_iff.mpr hparams)

/-- A load takes one course. -/
theorem course_iff {run : Run} : Course options source run ↔ run = text options source := by
  constructor
  · intro h
    cases h with
    | text hread => rw [Load.text, hread]
    | version hread hversion => rw [text_of_read hread, root_of_version hversion]
    | parameters hread hversion hparams =>
      rw [text_of_read hread, root_of_parameters hversion, if_neg (mt List.isEmpty_iff.mp hparams)]
    | nodes hread hversion hparams hnodes =>
      rw [text_of_read hread, root_of_parameters hversion, if_pos (List.isEmpty_iff.mpr hparams),
        nodes_eq, if_neg (mt List.isEmpty_iff.mp hnodes)]
    | scene hread hversion hparams hnodes hscene =>
      rw [text_of_read hread, root_of_parameters hversion, if_pos (List.isEmpty_iff.mpr hparams),
        nodes_eq, if_pos (List.isEmpty_iff.mpr hnodes), hscene]
    | ready hread hversion hparams hnodes hscene =>
      rw [text_of_read hread, root_of_parameters hversion, if_pos (List.isEmpty_iff.mpr hparams),
        nodes_eq, if_pos (List.isEmpty_iff.mpr hnodes), hscene]
  · rintro rfl
    exact course_text options source

end Load

end SceneGraph

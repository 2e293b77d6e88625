import SceneGraph.Problem

/-!
# Results that come with problems

A checked computation lists the problems it met and may have no value. In a sequence the
first part without a value ends the computation, and problems add up in order. Having no
value and having no problem are independent: a part may report and still go on.
-/

namespace SceneGraph

structure Checked (α : Type) where
  value? : Option α
  problems : List Problem

namespace Checked

variable {α β : Type}

/-- A value and no problem. -/
def of (a : α) : Checked α := ⟨some a, []⟩

/-- One problem and no value. -/
def fail (p : Problem) : Checked α := ⟨none, [p]⟩

def ofExcept : Except Problem α → Checked α
  | .ok a => of a
  | .error p => fail p

/-- What a computation hands on to the next. -/
def andThen (c : Checked α) (f : α → Checked β) : Checked β :=
  match c.value? with
  | none => ⟨none, c.problems⟩
  | some a => ⟨(f a).value?, c.problems ++ (f a).problems⟩

instance : Monad Checked where
  pure := of
  bind := andThen

@[simp] theorem pure_eq (a : α) : (pure a : Checked α) = of a := rfl

@[simp] theorem bind_eq (c : Checked α) (f : α → Checked β) : c >>= f = c.andThen f := rfl

@[simp] theorem of_andThen (a : α) (f : α → Checked β) : (of a).andThen f = f a := rfl

@[simp] theorem fail_andThen (p : Problem) (f : α → Checked β) :
    (fail p : Checked α).andThen f = fail p := rfl

/-- Two computations of which neither waits for the other. -/
def both (c : Checked α) (d : Checked β) : Checked (α × β) :=
  ⟨c.value?.bind fun a => d.value?.map (a, ·), c.problems ++ d.problems⟩

/-- All of the computations; there is a list of values if each of them has one. -/
def all : List (Checked α) → Checked (List α)
  | [] => of []
  | c :: cs => (c.both (all cs)).andThen fun (a, as) => of (a :: as)

end Checked

end SceneGraph

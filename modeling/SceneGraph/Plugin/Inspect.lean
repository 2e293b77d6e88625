import SceneGraph.Decimal.Binary32
import SceneGraph.Node
import SceneGraph.Plugin.Object

/-!
# How a plugin looks at its node

A plugin sees the properties of its node by name only, so it cannot depend on their order. An
inspection records every name that it asks for and every problem that it finds, in order; it
never stops early, so one problem does not hide another.
-/

namespace SceneGraph

open SceneGraph.Geometry

/-- What a plugin sees of a node. -/
structure Settings where
  node : NodeRef
  property? : String → Option Property
  /-- A property of this name is there, but it could not be read. -/
  isInvalid : String → Bool

def Node.settings (n : Node) : Settings := ⟨n.ref, n.property?, fun name => n.invalid.contains name⟩

/-- What an inspection leaves behind. -/
structure Trace where
  problems : List Problem
  asked : List String

/-- A look at settings that gives a value and a trace. -/
def Inspect (α : Type) : Type := Settings → α × Trace

namespace Inspect

variable {α β : Type}

def of (a : α) : Inspect α := fun _ => (a, ⟨[], []⟩)

def andThen (m : Inspect α) (f : α → Inspect β) : Inspect β := fun s =>
  let (a, t) := m s
  let (b, u) := f a s
  (b, ⟨t.problems ++ u.problems, t.asked ++ u.asked⟩)

instance : Monad Inspect where
  pure := of
  bind := andThen

def report (p : Problem) : Inspect Unit := fun _ => ((), ⟨[p], []⟩)

/-- The property of a name, which then counts as used. -/
def ask (name : String) : Inspect (Option Property) := fun s => (s.property? name, ⟨[], [name]⟩)

/-- The node under inspection. -/
def node : Inspect NodeRef := fun s => (s.node, ⟨[], []⟩)

/-- Reports that the node breaks a rule. -/
def breaks (rule : Violation) : Inspect Unit := fun s => ((), ⟨[.violation s.node rule], []⟩)

/-- Reports that the node breaks a rule if `bad` holds. -/
def forbid (bad : Bool) (rule : Violation) : Inspect Unit := if bad then breaks rule else of ()

/-- Reports that the node lacks a property, unless it is there and could not be read. -/
def missing (name : String) : Inspect Unit := fun s =>
  ((), ⟨if s.isInvalid name then [] else [.missingProperty s.node name], []⟩)

/-- What `accept` takes of the value of a property. A value that it does not take is
reported as something else than `expected`. -/
def accepted (p : Property) (expected : Expected) (accept : Value → Option α) :
    Inspect (Option α) :=
  match accept p.value with
  | some a => of (some a)
  | none => do
    report (.typeMismatch p.location p.name expected (.kind p.value.kind))
    return none

/-- The accepted value of a property that may be absent. -/
def value? (name : String) (expected : Expected) (accept : Value → Option α) :
    Inspect (Option α) := do
  match ← ask name with
  | none => return none
  | some p => accepted p expected accept

/-- The accepted value of a property that must not be absent. -/
def required? (name : String) (expected : Expected) (accept : Value → Option α) :
    Inspect (Option α) := do
  match ← ask name with
  | none =>
    missing name
    return none
  | some p => accepted p expected accept

/-! ## Values of each kind -/

def asFloat? : Value → Option Float32
  | .float x => some x
  | .integer n => some (Decimal.Binary32.ofInt n)
  | _ => none

def asInteger? : Value → Option Int
  | .integer n => some n
  | _ => none

def asBoolean? : Value → Option Bool
  | .boolean b => some b
  | _ => none

def asText? : Value → Option String
  | .text s => some s
  | _ => none

def asRgb? : Value → Option Vec3
  | .rgb v => some v
  | _ => none

def asPoint? : Value → Option Vec3
  | .point v => some v
  | _ => none

def asVector? : Value → Option Vec3
  | .vector v => some v
  | _ => none

def asTransform? : Value → Option Mat4
  | .transform m => some m
  | _ => none

/-- A color, or one number for all three channels. -/
def asSpectrum? (v : Value) : Option Vec3 := asRgb? v <|> (asFloat? v).map Vec3.splat

/-- A number, or a name that stands for one. -/
inductive FloatOrName where
  | number (x : Float32)
  | name (s : String)

def asFloatOrName? (v : Value) : Option FloatOrName :=
  (asFloat? v).map .number <|> (asText? v).map .name

def literal (k : LiteralKind) : Expected := .kind (.literal k)

def float (name : String) (default : Float32) : Inspect Float32 := do
  return (← value? name (literal .float) asFloat?).getD default

def integer (name : String) (default : Int) : Inspect Int := do
  return (← value? name (literal .integer) asInteger?).getD default

/-- An integer of 32 bits without a sign. -/
def count (name : String) (default : Nat) : Inspect Nat := do
  match ← value? name (literal .integer) asInteger? with
  | none => return default
  | some n =>
    if 0 ≤ n && n < UInt32.size then return n.toNat
    else
      breaks (.negativeCount name n)
      return default

def boolean (name : String) (default : Bool) : Inspect Bool := do
  return (← value? name (literal .boolean) asBoolean?).getD default

def text (name : String) (default : String) : Inspect String := do
  return (← value? name (literal .text) asText?).getD default

def rgb? (name : String) : Inspect (Option Vec3) := value? name (literal .rgb) asRgb?

def rgb (name : String) (default : Vec3) : Inspect Vec3 := do
  return (← rgb? name).getD default

def spectrum (name : String) (default : Vec3) : Inspect Vec3 := do
  return (← value? name .rgbOrFloat asSpectrum?).getD default

def point (name : String) (default : Vec3) : Inspect Vec3 := do
  return (← value? name (literal .point) asPoint?).getD default

def transform (name : String) : Inspect Mat4 := do
  return (← value? name (.kind .transform) asTransform?).getD Mat4.identity

def floatOrName? (name : String) : Inspect (Option FloatOrName) :=
  value? name .floatOrText asFloatOrName?

def requiredText (name : String) (default : String) : Inspect String := do
  return (← required? name (literal .text) asText?).getD default

def requiredRgb (name : String) (default : Vec3) : Inspect Vec3 := do
  return (← required? name (literal .rgb) asRgb?).getD default

def requiredVector (name : String) (default : Vec3) : Inspect Vec3 := do
  return (← required? name (literal .vector) asVector?).getD default

end Inspect

/-- A way to build the nodes of one kind and type. -/
structure Plugin where
  kind : NodeKind
  type : String
  /-- The kinds of child that its nodes can have. -/
  accepts : List NodeKind
  build : Attached → Inspect (Option Product)

end SceneGraph

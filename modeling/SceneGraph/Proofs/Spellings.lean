import SceneGraph.Node.Reader
import SceneGraph.Proofs.Scans

/-!
# Two spellings of a vector

A vector is written as three numbers in the attribute `value`, or as one number in each of `x`, `y`
and `z`.  Both spellings are read as the same three texts: the words of the one attribute are the
other three (`words_spaced`), and the first text that is no number is what is wrong with either
(`readTriple_spaced`, `coordinates_axes`).

Points, vectors, axes of turns and offsets call for a vector in both spellings, so not even their
problems tell them apart.  A scale is read as a list of numbers in the first spelling, so that one
number may stand for three; its problems then call for a number, and for a vector in the second.
-/

namespace SceneGraph

open SceneGraph.Geometry Markup

namespace Text

/-- A word ends where a blank or the end of the text is. -/
theorem words_append {w r : List Char} (hne : w ≠ []) (hw : ∀ c ∈ w, isBlank c = false)
    (hr : ∀ c ∈ r.head?, isBlank c = true) : words (w ++ r) = w :: words r := by
  induction w with
  | nil => exact absurd rfl hne
  | cons c w ih =>
    obtain ⟨hc, hw⟩ := List.forall_mem_cons.mp hw
    cases w with
    | nil =>
      cases r with
      | nil => simp [words, hc]
      | cons d r => simp [words, hc, hr d rfl]
    | cons d w =>
      have hd := hw d List.mem_cons_self
      have hrest := ih (List.cons_ne_nil d w) hw
      rw [List.cons_append] at hrest
      simp [words.eq_def (c :: d :: _), hc, hd, hrest]

theorem words_blank {c : Char} (hc : isBlank c = true) (r : List Char) :
    words (c :: r) = words r := by
  cases r <;> simp [words, hc]

end Text

/-! ## Bare texts -/

/-- A text that is not empty and has neither blanks nor dollar signs. -/
structure Bare (s : String) : Prop where
  nonempty : s.toList ≠ []
  noBlank : ∀ c ∈ s.toList, Text.isBlank c = false
  noDollar : '$' ∉ s.toList

theorem bare_iff {s : String} : Bare s ↔
    (!s.toList.isEmpty && s.toList.all fun c => !Text.isBlank c && c != '$') = true := by
  simp only [Bool.and_eq_true, Bool.not_eq_true', List.isEmpty_eq_false_iff, List.all_eq_true,
    bne_iff_ne]
  constructor
  · rintro ⟨hne, hblank, hdollar⟩
    exact ⟨hne, fun c hc => ⟨hblank c hc, fun heq => hdollar (heq ▸ hc)⟩⟩
  · rintro ⟨hne, hall⟩
    exact ⟨hne, fun c hc => (hall c hc).1, fun hdollar => (hall _ hdollar).2 rfl⟩

instance (s : String) : Decidable (Bare s) := decidable_of_iff _ bare_iff.symm

/-- Three texts with blanks between them. -/
def spaced (a b c : String) : String := a ++ " " ++ b ++ " " ++ c

variable {a b c : String}

theorem toList_spaced (a b c : String) :
    (spaced a b c).toList = a.toList ++ ' ' :: (b.toList ++ ' ' :: c.toList) := by
  simp [spaced]

theorem words_bare (ha : Bare a) : Text.words a.toList = [a.toList] := by
  have hword := Text.words_append (r := []) ha.nonempty ha.noBlank (by simp)
  rw [List.append_nil] at hword
  rw [hword]
  rfl

theorem words_spaced (ha : Bare a) (hb : Bare b) (hc : Bare c) :
    Text.words (spaced a b c).toList = [a.toList, b.toList, c.toList] := by
  have hblank := Text.words_blank (c := ' ') (by decide)
  rw [toList_spaced, Text.words_append ha.nonempty ha.noBlank (by simp; decide), hblank,
    Text.words_append hb.nonempty hb.noBlank (by simp; decide), hblank, words_bare hc]

theorem noDollar_spaced (ha : Bare a) (hb : Bare b) (hc : Bare c) :
    '$' ∉ (spaced a b c).toList := by
  simp [toList_spaced, ha.noDollar, hb.noDollar, hc.noDollar]

/-! ## Literals -/

namespace Literal

/-- One number for each axis, up to the first text that is none. -/
def readAxes (a b c : List Char) : Except Fault Vec3 := do
  let x ← readFloat a
  let y ← readFloat b
  let z ← readFloat c
  return ⟨x, y, z⟩

theorem readFloats_bare (ha : Bare a) :
    readFloats a.toList = (fun x => [x]) <$> readFloat a.toList := by
  rw [readFloats, words_bare ha, List.mapM_cons, List.mapM_nil]
  cases readFloat a.toList <;> rfl

theorem readFloats_spaced (ha : Bare a) (hb : Bare b) (hc : Bare c) :
    readFloats (spaced a b c).toList =
      (fun v => [v.x, v.y, v.z]) <$> readAxes a.toList b.toList c.toList := by
  rw [readFloats, words_spaced ha hb hc, readAxes]
  simp only [List.mapM_cons, List.mapM_nil]
  cases readFloat a.toList <;> cases readFloat b.toList <;> cases readFloat c.toList <;> rfl

theorem readTriple_spaced (kind : LiteralKind) (ha : Bare a) (hb : Bare b) (hc : Bare c) :
    readTriple kind (spaced a b c).toList =
      (readAxes a.toList b.toList c.toList).mapError (Fault.within kind) := by
  rw [readTriple, readFloats_spaced ha hb hc]
  cases readAxes a.toList b.toList c.toList <;> rfl

/-- The same number for every axis. -/
theorem readAxes_same (a : List Char) : readAxes a a a = Vec3.splat <$> readFloat a := by
  rw [readAxes]
  cases readFloat a <;> rfl

end Literal

/-! ## Attributes -/

namespace Attribute

variable {params : Parameter.Table} {e : Element}

/-- Without dollar signs there is nothing to substitute. -/
theorem value?_of_noDollar {name raw : String} (h : e.attribute? name = some raw)
    (hraw : '$' ∉ raw.toList) : value? params e name = .of (some raw) := by
  have hplain := Parameter.not_hasToken_of_noDollar hraw
  rw [value?, h]
  simp only [params.resolve_of_not_hasToken e.location hplain]
  rfl

theorem value?_absent {name : String} (h : e.attribute? name = none) :
    value? params e name = .of none := by
  rw [value?, h]

theorem coordinate_bare {fill : Float32} {kind : LiteralKind} {property axis : String}
    (h : e.attribute? axis = some a) (ha : Bare a) :
    coordinate params e fill kind property axis =
      checkLiteral e property
        ((Literal.readFloat a.toList).mapError (Literal.Fault.within kind)) := by
  rw [coordinate, value?_of_noDollar h ha.noDollar]
  rfl

end Attribute

/-- The element writes `a`, `b` and `c` for the axes, in an attribute each. -/
structure Axes (a b c : String) (e : Element) : Prop where
  x : e.attribute? "x" = some a
  y : e.attribute? "y" = some b
  z : e.attribute? "z" = some c
  noValue : e.attribute? "value" = none

namespace Attribute

variable {params : Parameter.Table} {e : Element}

/-- The first axis with no number for it is the one that is reported. -/
theorem coordinates_axes {fill : Float32} {kind : LiteralKind} {property : String}
    (h : Axes a b c e) (ha : Bare a) (hb : Bare b) (hc : Bare c) :
    coordinates params e fill kind property = checkLiteral e property
      ((Literal.readAxes a.toList b.toList c.toList).mapError (Literal.Fault.within kind)) := by
  rw [coordinates, coordinate_bare h.x ha, coordinate_bare h.y hb, coordinate_bare h.z hc,
    Literal.readAxes]
  cases Literal.readFloat a.toList <;> cases Literal.readFloat b.toList <;>
    cases Literal.readFloat c.toList <;> rfl

theorem vector_axes {property : String} (h : Axes a b c e) (ha : Bare a) (hb : Bare b)
    (hc : Bare c) :
    vector params e "value" property = checkLiteral e property
      ((Literal.readAxes a.toList b.toList c.toList).mapError (Literal.Fault.within .vector)) := by
  rw [vector, value?_absent h.noValue]
  exact coordinates_axes h ha hb hc

theorem vector_spaced {property : String} (h : e.attribute? "value" = some (spaced a b c))
    (ha : Bare a) (hb : Bare b) (hc : Bare c) :
    vector params e "value" property = checkLiteral e property
      ((Literal.readAxes a.toList b.toList c.toList).mapError (Literal.Fault.within .vector)) := by
  rw [vector, value?_of_noDollar h (noDollar_spaced ha hb hc), 
    ← Literal.readTriple_spaced .vector ha hb hc]
  rfl

theorem checkLiteral_congr {α : Type} {e₁ e₂ : Element} (h : e₁.location = e₂.location)
    (property : String) (r : Except Literal.Fault α) :
    checkLiteral e₁ property r = checkLiteral e₂ property r := by
  cases r with
  | ok a => rfl
  | error fault => rw [checkLiteral, checkLiteral, h]

theorem required_congr_element (params : Parameter.Table) {e₁ e₂ : Element} {name : String}
    (h : e₁.location = e₂.location) (hname : e₁.attribute? name = e₂.attribute? name)
    (absent : Malformed) :
    required params e₁ name absent = required params e₂ name absent := by
  rw [required, required, value?, value?, h, hname]

theorem required_of_value? {name raw : String} (h : value? params e name = .of (some raw))
    (absent : Malformed) : required params e name absent = .of raw := by
  rw [required, h]
  rfl

end Attribute

/-! ## The same element in two spellings -/

/-- The two elements differ in that the first writes `raw` as its value, whatever it has for the
axes, and the second writes `a`, `b` and `c` for them. -/
structure Respelled (raw a b c : String) (e₁ e₂ : Element) : Prop where
  tag : e₁.tag = e₂.tag
  children : e₁.children = e₂.children
  location : e₁.location = e₂.location
  value : e₁.attribute? "value" = some raw
  axes : Axes a b c e₂
  others : ∀ name, name ∉ ["value", "x", "y", "z"] → e₁.attribute? name = e₂.attribute? name

variable {params : Parameter.Table} {raw : String} {e₁ e₂ : Element}

/-- Elements that are written in the same way but for the vector are respelled. -/
theorem Respelled.of_attributes (tag raw a b c : String) (before after : List (String × String))
    (h : ∀ p ∈ before ++ after, p.1 ∉ ["value", "x", "y", "z"]) (children : List Element)
    (l : Location) : Respelled raw a b c ⟨tag, before ++ ("value", raw) :: after, children, l⟩
      ⟨tag, before ++ ("x", a) :: ("y", b) :: ("z", c) :: after, children, l⟩ := by
  obtain ⟨hbefore, hafter⟩ := List.forall_mem_append.mp h
  have hnone : ∀ {ps : List (String × String)} (name : String),
      (∀ p ∈ ps, p.1 ∉ ["value", "x", "y", "z"]) → name ∈ ["value", "x", "y", "z"] →
      ps.find? (·.1 = name) = none := by
    intro ps name hps hname
    rw [List.find?_eq_none]
    intro p hp hkey
    exact hps p hp (of_decide_eq_true hkey ▸ hname)
  refine ⟨rfl, rfl, rfl, ?value, ⟨?x, ?y, ?z, ?absent⟩, fun name hname => ?other⟩
  all_goals simp only [Element.attribute?, List.find?_append]
  case value | x | y | z =>
    rw [hnone _ hbefore (by decide)]
    rfl
  case absent =>
    have hrest := hnone "value" hafter (by decide)
    rw [hnone _ hbefore (by decide)]
    simpa [List.find?] using hrest
  case other =>
    simp only [List.mem_cons, List.not_mem_nil, or_false, not_or] at hname
    obtain ⟨hvalue, hx, hy, hz⟩ := hname
    simp [List.find?, Ne.symm hvalue, Ne.symm hx, Ne.symm hy, Ne.symm hz]

theorem Attribute.vector_respelled (params : Parameter.Table)
    (h : Respelled (spaced a b c) a b c e₁ e₂) (ha : Bare a) (hb : Bare b) (hc : Bare c)
    (property : String) :
    vector params e₁ "value" property = vector params e₂ "value" property := by
  rw [vector_spaced h.value ha hb hc, vector_axes h.axes ha hb hc, checkLiteral_congr h.location]

namespace Node

/-- The kinds of literal that can be written axis by axis, and the values that they make. -/
inductive OfAxes : LiteralKind → (Vec3 → Value) → Prop
  | point : OfAxes .point .point
  | vector : OfAxes .vector .vector

variable {e : Element} {kind : LiteralKind} {wrap : Vec3 → Value}

theorem readLiteral_spaced (hkind : OfAxes kind wrap)
    (h : e.attribute? "value" = some (spaced a b c)) (ha : Bare a) (hb : Bare b) (hc : Bare c)
    (hchildren : e.children = []) (name : String) :
    readLiteral params kind name e = Attribute.checkLiteral e name
      (wrap <$> (Literal.readAxes a.toList b.toList c.toList).mapError
        (Literal.Fault.within kind)) := by
  have hvalue : e.hasAttribute "value" = true := by rw [Element.hasAttribute, h]; rfl
  have hread : Literal.read kind (spaced a b c) =
      wrap <$> Literal.readTriple kind (spaced a b c).toList := by cases hkind <;> rfl
  rw [readLiteral, hchildren, if_neg (by simp), if_neg (by simp [hvalue]),
    if_neg (by simp [hvalue]),
    Attribute.required_of_value? (Attribute.value?_of_noDollar h (noDollar_spaced ha hb hc)),
    ← Literal.readTriple_spaced kind ha hb hc, ← hread]
  rfl

theorem readLiteral_axes (hkind : OfAxes kind wrap) (h : Axes a b c e) (ha : Bare a)
    (hb : Bare b) (hc : Bare c) (hchildren : e.children = []) (name : String) :
    readLiteral params kind name e = Attribute.checkLiteral e name
      (wrap <$> (Literal.readAxes a.toList b.toList c.toList).mapError
        (Literal.Fault.within kind)) := by
  have hnone : e.hasAttribute "value" = false := by rw [Element.hasAttribute, h.noValue]; rfl
  rw [readLiteral, hchildren, if_neg (by simp)]
  cases hkind with
  | point =>
    rw [if_pos (by simp [hnone]), Attribute.coordinates_axes h ha hb hc]
    cases Literal.readAxes a.toList b.toList c.toList <;> rfl
  | vector =>
    rw [if_neg (by simp), if_pos (by simp [hnone]), Attribute.coordinates_axes h ha hb hc]
    cases Literal.readAxes a.toList b.toList c.toList <;> rfl

theorem readLiteral_respelled (hkind : OfAxes kind wrap)
    (h : Respelled (spaced a b c) a b c e₁ e₂) (ha : Bare a) (hb : Bare b) (hc : Bare c)
    (name : String) : readLiteral params kind name e₁ = readLiteral params kind name e₂ := by
  by_cases hchildren : e₁.children = []
  · rw [readLiteral_spaced hkind h.value ha hb hc hchildren,
      readLiteral_axes hkind h.axes ha hb hc (h.children ▸ hchildren),
      Attribute.checkLiteral_congr h.location]
  · have hrefused : ∀ {e : Element}, e.children ≠ [] →
        readLiteral params kind name e =
          .fail (.malformed e.location (.literalChildren e.tag name)) := by
      intro e he
      rw [readLiteral, if_pos (by simp [he])]
    rw [hrefused hchildren, hrefused (h.children ▸ hchildren), h.location, h.tag]

theorem readProperty_congr {parent : NodeKind} {read₁ read₂ : String → Checked Value}
    (htag : e₁.tag = e₂.tag) (hlocation : e₁.location = e₂.location)
    (hname : e₁.attribute? "name" = e₂.attribute? "name") (hread : ∀ name, read₁ name = read₂ name)
    (body : Body) : readProperty params parent e₁ read₁ body =
      readProperty params parent e₂ read₂ body := by
  rw [readProperty, readProperty, htag, hlocation, funext hread,
    Attribute.required_congr_element params hlocation hname]

theorem readEntry_respelled (h : Respelled (spaced a b c) a b c e₁ e₂) (ha : Bare a)
    (hb : Bare b) (hc : Bare c) (hkind : OfAxes kind wrap) (htag : e₁.tag = kind.name)
    (parent : NodeKind) (body : Body) :
    readEntry params parent e₁ body = readEntry params parent e₂ body := by
  have hentry : ∀ {e : Element}, e.tag = kind.name → readEntry params parent e body =
      readProperty params parent e (fun name => readLiteral params kind name e) body := by
    intro e he
    rw [readEntry, he, if_neg (by cases hkind <;> decide), if_neg (by cases hkind <;> decide),
      LiteralKind.ofTag?_name]
  rw [hentry htag, hentry (h.tag ▸ htag)]
  exact readProperty_congr h.tag h.location (h.others _ (by decide))
    (readLiteral_respelled hkind h ha hb hc) body

end Node

namespace Transform

theorem readUsable_congr (htag : e₁.tag = e₂.tag) (hlocation : e₁.location = e₂.location)
    (hop : readOperation params e₁ = readOperation params e₂) :
    readUsable params e₁ = readUsable params e₂ := by
  rw [readUsable, readUsable, htag, hlocation, hop]

theorem readOperation_respelled (params : Parameter.Table)
    (h : Respelled (spaced a b c) a b c e₁ e₂) (ha : Bare a) (hb : Bare b) (hc : Bare c)
    (htag : e₁.tag = "rotate" ∨ e₁.tag = "translate") :
    readOperation params e₁ = readOperation params e₂ := by
  have hvector := Attribute.vector_respelled params h ha hb hc
  have htags := h.tag
  rcases htag with htag | htag
  · have hangle := Attribute.required_congr_element params h.location
      (h.others "angle" (by decide)) .noAngle
    rw [readOperation, readOperation, ← htags, htag]
    simp only [readRotate, ← htags, hvector, hangle, Attribute.checkLiteral_congr h.location]
    rfl
  · rw [readOperation, readOperation, ← htags, htag, hvector]
    rfl

/-! ### Scales -/

variable {e : Element}

theorem readScale_spaced (h : e.attribute? "value" = some (spaced a b c)) (ha : Bare a)
    (hb : Bare b) (hc : Bare c) :
    readScale params e = Attribute.checkLiteral e e.tag
      (Operation.scale <$> Literal.readAxes a.toList b.toList c.toList) := by
  rw [readScale, Attribute.value?_of_noDollar h (noDollar_spaced ha hb hc)]
  simp only [Checked.bind_eq, Checked.of_andThen, Literal.readFloats_spaced ha hb hc]
  cases Literal.readAxes a.toList b.toList c.toList <;> rfl

/-- One number stands for three. -/
theorem readScale_bare (h : e.attribute? "value" = some a) (ha : Bare a) :
    readScale params e = Attribute.checkLiteral e e.tag
      (Operation.scale <$> Literal.readAxes a.toList a.toList a.toList) := by
  rw [readScale, Attribute.value?_of_noDollar h ha.noDollar, Literal.readAxes_same]
  simp only [Checked.bind_eq, Checked.of_andThen, Literal.readFloats_bare ha]
  cases Literal.readFloat a.toList <;> rfl

theorem readScale_axes (h : Axes a b c e) (ha : Bare a) (hb : Bare b) (hc : Bare c) :
    readScale params e = Attribute.checkLiteral e e.tag
      (Operation.scale <$> (Literal.readAxes a.toList b.toList c.toList).mapError
        (Literal.Fault.within .vector)) := by
  rw [readScale, Attribute.value?_absent h.noValue]
  simp only [Checked.bind_eq, Checked.of_andThen, Attribute.coordinates_axes h ha hb hc]
  cases Literal.readAxes a.toList b.toList c.toList <;> rfl

/-- The same operation, or two problems of one text: the first reader calls for a number, the
second for a vector. -/
def Alike (l : Location) (read₁ read₂ : Checked Operation) : Prop :=
  (∃ op, read₁ = .of op ∧ read₂ = .of op) ∨
    ∃ fault : Literal.Fault, read₁ = .fail (fault.problem l "scale") ∧
      read₂ = .fail ((fault.within .vector).problem l "scale")

/-- Scales that are read alike, also where an operation must be one that can be used. -/
structure SameScale (params : Parameter.Table) (e₁ e₂ : Element) : Prop where
  operation : Alike e₁.location (readOperation params e₁) (readOperation params e₂)
  usable : Alike e₁.location (readUsable params e₁) (readUsable params e₂)

theorem sameScale_of_readScale (h : Respelled raw a b c e₁ e₂) (htag : e₁.tag = "scale")
    (ha : Bare a) (hb : Bare b) (hc : Bare c)
    (hvalue : readScale params e₁ = Attribute.checkLiteral e₁ e₁.tag
      (Operation.scale <$> Literal.readAxes a.toList b.toList c.toList)) :
    SameScale params e₁ e₂ := by
  have hread : ∀ {e : Element}, e.tag = "scale" → readOperation params e = readScale params e := by
    intro e he
    rw [readOperation, he]
    rfl
  have htag₂ : e₂.tag = "scale" := h.tag ▸ htag
  have hop₁ := hread htag
  have hop₂ := hread htag₂
  rw [hvalue, htag] at hop₁
  rw [readScale_axes h.axes ha hb hc, ← Attribute.checkLiteral_congr h.location, htag₂] at hop₂
  constructor
  · rw [hop₁, hop₂]
    cases Literal.readAxes a.toList b.toList c.toList with
    | ok v => exact .inl ⟨.scale v, rfl, rfl⟩
    | error fault => exact .inr ⟨fault, rfl, rfl⟩
  · rw [readUsable, readUsable, hop₁, hop₂]
    cases Literal.readAxes a.toList b.toList c.toList with
    | ok v => exact .inl ⟨.scale v, rfl, rfl⟩
    | error fault => exact .inr ⟨fault, rfl, rfl⟩

end Transform

/-- The two spellings of a vector agree. -/
theorem spellings_agree (params : Parameter.Table) (ha : Bare a) (hb : Bare b) (hc : Bare c) :
    (∀ e₁ e₂, Respelled (spaced a b c) a b c e₁ e₂ →
      (e₁.tag = "point" ∨ e₁.tag = "vector" → ∀ parent body,
        Node.readEntry params parent e₁ body = Node.readEntry params parent e₂ body) ∧
      (e₁.tag = "rotate" ∨ e₁.tag = "translate" →
        Transform.readOperation params e₁ = Transform.readOperation params e₂ ∧
        Transform.readUsable params e₁ = Transform.readUsable params e₂) ∧
      (e₁.tag = "scale" → Transform.SameScale params e₁ e₂)) ∧
    ∀ e₁ e₂, Respelled a a a a e₁ e₂ → e₁.tag = "scale" → Transform.SameScale params e₁ e₂ := by
  refine ⟨fun e₁ e₂ h => ⟨?_, fun htag => ?_, fun htag => ?_⟩, fun e₁ e₂ h htag => ?_⟩
  · rintro (htag | htag) parent body
    · exact Node.readEntry_respelled h ha hb hc .point htag parent body
    · exact Node.readEntry_respelled h ha hb hc .vector htag parent body
  · have hop := Transform.readOperation_respelled params h ha hb hc htag
    exact ⟨hop, Transform.readUsable_congr h.tag h.location hop⟩
  · exact Transform.sameScale_of_readScale h htag ha hb hc
      (Transform.readScale_spaced h.value ha hb hc)
  · exact Transform.sameScale_of_readScale h htag ha ha ha (Transform.readScale_bare h.value ha)

/-- An element of some tag that writes a vector in one attribute. -/
def inOne (tag raw : String) : Element :=
  ⟨tag, [("name", "v"), ("value", raw), ("angle", "90")], [], Location.start⟩

/-- The same element with an attribute for each axis. -/
def inThree (tag a b c : String) : Element :=
  ⟨tag, [("name", "v"), ("x", a), ("y", b), ("z", c), ("angle", "90")], [], Location.start⟩

theorem respelled_inOne (tag raw a b c : String) :
    Respelled raw a b c (inOne tag raw) (inThree tag a b c) :=
  .of_attributes tag raw a b c [("name", "v")] [("angle", "90")] (by decide) []
    Location.start

/-- A vector whose last number is none, and a scale by one number. -/
theorem spellings_agree_written :
    (∀ parent body, Node.readEntry .empty parent (inOne "point" "1 -2.5e1 x") body =
      Node.readEntry .empty parent (inThree "point" "1" "-2.5e1" "x") body) ∧
    Transform.readOperation .empty (inOne "rotate" "1 -2.5e1 x") =
      Transform.readOperation .empty (inThree "rotate" "1" "-2.5e1" "x") ∧
    Transform.SameScale .empty (inOne "scale" "1 -2.5e1 x") (inThree "scale" "1" "-2.5e1" "x") ∧
    Transform.SameScale .empty (inOne "scale" "1") (inThree "scale" "1" "1" "1") := by
  have hagree := spellings_agree (a := "1") (b := "-2.5e1") (c := "x") .empty (by decide)
    (by decide) (by decide)
  have hwhole := fun tag => hagree.1 _ _ (respelled_inOne tag "1 -2.5e1 x" "1" "-2.5e1" "x")
  exact ⟨(hwhole "point").1 (.inl rfl), ((hwhole "rotate").2.1 (.inl rfl)).1,
    (hwhole "scale").2.2 rfl, hagree.2 _ _ (respelled_inOne "scale" "1" "1" "1" "1") rfl⟩

end SceneGraph

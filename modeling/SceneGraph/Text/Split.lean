/-!
# Cutting a text at a character

A text with `n` separators has `n + 1` parts, so it always has at least one
(`splitAt_ne_nil`).
-/

namespace SceneGraph.Text

/-- The parts between the occurrences of `sep`; parts may be empty. -/
def splitAt (sep : Char) : List Char → List (List Char)
  | [] => [[]]
  | c :: cs =>
    if c = sep then [] :: splitAt sep cs
    else
      match splitAt sep cs with
      | [] => [[c]]
      | part :: parts => (c :: part) :: parts

theorem splitAt_ne_nil (sep : Char) (cs : List Char) : splitAt sep cs ≠ [] := by
  cases cs with
  | nil => simp [splitAt]
  | cons c cs =>
    unfold splitAt
    split
    · simp
    · split <;> simp

/-- The index at which `text` first occurs in `cs`. -/
def indexOf? (text : List Char) : List Char → Option Nat
  | [] => if text.isEmpty then some 0 else none
  | c :: cs => if text.isPrefixOf (c :: cs) then some 0 else (indexOf? text cs).map (· + 1)

/-- A found text lies within the searched one. -/
theorem indexOf?_add_length_le {text cs : List Char} {i : Nat} (h : indexOf? text cs = some i) :
    i + text.length ≤ cs.length := by
  induction cs generalizing i with
  | nil =>
    simp only [indexOf?] at h
    split at h
    · next he =>
      obtain rfl : 0 = i := by simpa using h
      simp_all
    · simp at h
  | cons c cs ih =>
    simp only [indexOf?] at h
    split at h
    · next hp =>
      obtain rfl : 0 = i := by simpa using h
      have := (List.isPrefixOf_iff_prefix.mp hp).length_le
      omega
    · obtain ⟨j, hj, rfl⟩ := Option.map_eq_some_iff.mp h
      have := ih hj
      simp only [List.length_cons]
      omega

end SceneGraph.Text

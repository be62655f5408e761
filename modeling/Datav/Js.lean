import Mathlib.Data.List.Basic
import Mathlib.Data.List.Infix
import Mathlib.Data.List.Sort

/-!
# JavaScript strings as the dashboard code uses them

The loader splits and joins a selection on `VariableSplitChar`, tests for a
`${name}` placeholder with `indexOf(..) >= 0`, sorts candidate lists with the
default `sort()` and tests a selection with `isEmpty`. These are their models.

* `split_join`: splitting a join gives the components back, when none holds the
  separator. The selection repair relies on it.
* `not_mem_of_mem_split`: a component of a split never holds the separator.
-/

namespace Datav

/-- `s.split(c)`, for a one-character separator. -/
def split (s : String) (c : Char) : List String :=
  (s.toList.splitOn c).map String.mk

/-- `xs.join(c)`. -/
def join (xs : List String) (c : Char) : String :=
  String.mk ([c].intercalate (xs.map String.toList))

/-- `s.indexOf(t) >= 0`. -/
def includesText (s t : String) : Bool :=
  decide (t.toList <:+: s.toList)

/-- The text `${name}` of a placeholder. -/
def placeholder (name : String) : String :=
  "$\x7b" ++ name ++ "\x7d"

/-- Modelled from the spec: `isEmpty` of `utils/validate` is not under src/. A
selection is empty when it is undefined or the empty string. -/
def isEmpty : Option String → Bool
  | none => true
  | some s => s == ""

/-- The truthiness of a value that is `null`, `undefined` or a string. -/
def truthy : Option String → Bool
  | none => false
  | some s => s != ""

/-- The lexicographic order on texts. -/
def leChars : List Char → List Char → Bool
  | [], _ => true
  | _ :: _, [] => false
  | a :: as, b :: bs => if a = b then leChars as bs else decide (a < b)

/-- The default `Array.prototype.sort()` on strings. The order is total, so any
stable sort gives this list. (JavaScript compares UTF-16 code units and Lean code
points; the two orders agree below `U+E000`.) -/
def sortValues (xs : List String) : List String :=
  xs.insertionSort fun a b => leChars a.toList b.toList = true

/-- `s.trim() == ''`. (Lean's `Char.isWhitespace` knows the ASCII blanks only.) -/
def blank (s : String) : Bool :=
  s.toList.all Char.isWhitespace

theorem not_mem_splitOn (c : Char) :
    ∀ (l : List Char), ∀ w ∈ l.splitOn c, c ∉ w := by
  intro l
  induction l with
  | nil => simp [List.splitOn_nil]
  | cons x xs ih =>
    intro w hw
    simp only [List.splitOn, List.splitOnP_cons, beq_iff_eq] at hw ih
    split at hw
    · rcases List.mem_cons.1 hw with rfl | hw
      · simp
      · exact ih w hw
    · rename_i hx
      obtain ⟨u, us, hu⟩ := List.exists_cons_of_ne_nil (List.splitOnP_ne_nil (· == c) xs)
      rw [hu, List.modifyHead_cons] at hw
      rcases List.mem_cons.1 hw with rfl | hw
      · simp only [List.mem_cons, not_or]
        exact ⟨Ne.symm hx, ih u (by simp [hu])⟩
      · exact ih w (by simp [hu, hw])

/-- A component of a split never holds the separator. -/
theorem not_mem_of_mem_split {s w : String} {c : Char} (h : w ∈ split s c) : c ∉ w.toList := by
  obtain ⟨l, hl, rfl⟩ := List.mem_map.1 h
  exact not_mem_splitOn c _ l hl

/-- **Splitting a join gives the components back.** -/
theorem split_join {xs : List String} {c : Char} (hne : xs ≠ []) (hc : ∀ w ∈ xs, c ∉ w.toList) :
    split (join xs c) c = xs := by
  have hmap : xs.map String.toList ≠ [] := by simpa using hne
  simp only [split, join, String.toList]
  rw [List.splitOn_intercalate _ c (by simpa using hc) hmap, List.map_map]
  conv_rhs => rw [← List.map_id xs]
  rfl

end Datav

import ClassHeader.Tree.Array

/-!
# The element of an array

`TypeUse.arrayOf` looks at no more than one array inside the array that it builds. Of a normal type,
whose element is no array if it is an array itself, it makes a normal type, and so does any chain of
such steps. A type that is not normal, which only the constructor can build, stays so: the element
of the new array is the array that was the element of the old one.
-/

namespace ClassHeader.TypeUse

def isArray : TypeUse → Bool
  | .array _ _ => true
  | _ => false

/-- Whether a type is no array of arrays. -/
def IsNormal : TypeUse → Prop
  | .array element _ => element.isArray = false
  | _ => True

theorem isNormal_of_not_isArray {type : TypeUse} (notArray : type.isArray = false) :
    type.IsNormal := by
  cases type with
  | array => cases notArray
  | _ => trivial

theorem arrayOf_zero (element : TypeUse) : arrayOf element 0 = element := rfl

section

variable (element : TypeUse) {dimensions : UInt32} (positive : dimensions ≠ 0)
include positive

/-- What is built with at least one dimension: the array that was given with more dimensions, or an
array of what was given. -/
theorem arrayOf_cases :
    (∃ inner count, element = .array inner count ∧
        arrayOf element dimensions = .array inner (saturatingAdd count dimensions)) ∨
      element.isArray = false ∧ arrayOf element dimensions = .array element dimensions := by
  unfold arrayOf
  rw [if_neg positive]
  cases element with
  | array inner count => exact Or.inl ⟨inner, count, rfl, rfl⟩
  | _ => exact Or.inr ⟨rfl, rfl⟩

theorem isNormal_arrayOf_of_ne_zero :
    (arrayOf element dimensions).IsNormal ↔ element.IsNormal := by
  rcases arrayOf_cases element positive with ⟨inner, count, rfl, built⟩ | ⟨notArray, built⟩
  · -- The element of the array that was given is the element of the new one.
    rw [built]
    rfl
  · rw [built]
    exact ⟨fun _ => isNormal_of_not_isArray notArray, fun _ => notArray⟩

end

theorem isNormal_arrayOf (element : TypeUse) (dimensions : UInt32) :
    (arrayOf element dimensions).IsNormal ↔ element.IsNormal := by
  by_cases zero : dimensions = 0
  · rw [zero, arrayOf_zero]
  · exact isNormal_arrayOf_of_ne_zero element zero

/-- However often arrays of arrays are built, the normal form is kept and never brought about. -/
theorem isNormal_foldl_arrayOf (dimensions : List UInt32) (element : TypeUse) :
    (dimensions.foldl arrayOf element).IsNormal ↔ element.IsNormal := by
  induction dimensions generalizing element with
  | nil => rfl
  | cons first rest ih => rw [List.foldl_cons, ih, isNormal_arrayOf]

/-- With at least one dimension, an array is built of any element. The element of that array is no
array just if the type that it was built of is normal. -/
theorem arrayOf_element (element : TypeUse) {dimensions : UInt32} (positive : dimensions ≠ 0) :
    ∃ inner total, arrayOf element dimensions = .array inner total ∧
      (inner.isArray = false ↔ element.IsNormal) := by
  have isNormal := isNormal_arrayOf_of_ne_zero element positive
  rcases arrayOf_cases element positive with ⟨inner, count, -, built⟩ | ⟨-, built⟩
  · rw [built] at isNormal
    exact ⟨inner, _, built, isNormal⟩
  · rw [built] at isNormal
    exact ⟨element, _, built, isNormal⟩

/-- An array that is given one more dimension, and a type that the constructor alone built. -/
theorem arrayOf_element_of_arrays :
    let flat : TypeUse := .array (.primitive .int) 2
    let nested : TypeUse := .array (.array (.primitive .int) 1) 1
    (1 : UInt32) ≠ 0 ∧ flat.IsNormal ∧ ¬ nested.IsNormal ∧
      (∃ inner total, arrayOf flat 1 = .array inner total ∧ inner.isArray = false) ∧
      ∃ inner total, arrayOf nested 1 = .array inner total ∧ inner.isArray = true := by
  intro flat nested
  have positive : (1 : UInt32) ≠ 0 := by decide
  have ofFlat : flat.IsNormal := rfl
  have ofNested : ¬ nested.IsNormal := nofun
  obtain ⟨inner, total, built, isNormal⟩ := arrayOf_element flat positive
  obtain ⟨inner', total', built', isNormal'⟩ := arrayOf_element nested positive
  refine ⟨positive, ofFlat, ofNested, ⟨inner, total, built, isNormal.mpr ofFlat⟩, inner', total',
    built', ?_⟩
  rw [← Bool.not_eq_false]
  exact fun notArray => ofNested (isNormal'.mp notArray)

/-- An array of one dimension built of an array of arrays, whose element is an array. -/
theorem arrayOf_nested :
    arrayOf (.array (.array (.primitive .int) 1) 1) 1 = .array (.array (.primitive .int) 1) 2 ∧
      (TypeUse.array (.primitive .int) 1).isArray = true := by
  constructor
  · rw [arrayOf, if_neg (by decide)]
    rfl
  · rfl

end ClassHeader.TypeUse

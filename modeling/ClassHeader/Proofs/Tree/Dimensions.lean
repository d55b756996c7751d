import ClassHeader.Proofs.Tree.Array
import ClassHeader.Proofs.Tree.Folded

/-!
# Dimensions added one after the other

`TypeUse.arrayOf` adds dimensions to an array, up to the greatest number of dimensions. Adding any
numbers of dimensions one after the other is adding their sum at once, saturated at that number. As
long as nothing is cut off, the folded type of the result is that of the chain of arrays that the
constructor builds, so that both have one text (`arrayOf_chain`).
-/

namespace ClassHeader

/-! ### Saturation -/

/-- The greatest number of dimensions. -/
def mostDimensions : Nat := 0xffffffff

/-- A number of dimensions, or the greatest one if the number is greater. -/
def saturate (count : Nat) : UInt32 :=
  (min count mostDimensions).toUInt32

theorem toNat_le_mostDimensions (dimensions : UInt32) : dimensions.toNat ≤ mostDimensions :=
  Nat.le_of_lt_succ dimensions.toNat_lt

theorem toNat_saturate (count : Nat) : (saturate count).toNat = min count mostDimensions :=
  UInt32.toNat_ofNat_of_lt' (Nat.lt_succ_of_le (Nat.min_le_right count mostDimensions))

theorem toNat_saturatingAdd (left right : UInt32) :
    (saturatingAdd left right).toNat = min (left.toNat + right.toNat) mostDimensions := by
  rw [saturatingAdd]
  split
  case isTrue fits =>
    have within : left.toNat + right.toNat ≤ mostDimensions := Nat.le_of_lt_succ fits
    rw [UInt32.toNat_add, Nat.mod_eq_of_lt fits, Nat.min_eq_left within]
  case isFalse exceeds =>
    rw [Nat.min_eq_right (by rw [mostDimensions]; omega)]
    rfl

theorem saturatingAdd_saturate (left : UInt32) (count : Nat) :
    saturatingAdd left (saturate count) = saturate (left.toNat + count) := by
  apply UInt32.toNat_inj.mp
  rw [toNat_saturatingAdd, toNat_saturate, toNat_saturate]
  omega

/-- What is cut off of a sum does not depend on the order in which it is added up. -/
theorem saturatingAdd_assoc (first second third : UInt32) :
    saturatingAdd (saturatingAdd first second) third =
      saturatingAdd first (saturatingAdd second third) := by
  apply UInt32.toNat_inj.mp
  simp only [toNat_saturatingAdd]
  omega

theorem zero_saturatingAdd (dimensions : UInt32) : saturatingAdd 0 dimensions = dimensions := by
  have fits := toNat_le_mostDimensions dimensions
  apply UInt32.toNat_inj.mp
  rw [toNat_saturatingAdd, UInt32.toNat_zero, Nat.zero_add, Nat.min_eq_left fits]

theorem saturatingAdd_zero (dimensions : UInt32) : saturatingAdd dimensions 0 = dimensions := by
  have fits := toNat_le_mostDimensions dimensions
  apply UInt32.toNat_inj.mp
  rw [toNat_saturatingAdd, UInt32.toNat_zero, Nat.add_zero, Nat.min_eq_left fits]

theorem saturatingAdd_ne_zero (left : UInt32) {right : UInt32} (positive : right ≠ 0) :
    saturatingAdd left right ≠ 0 := by
  intro none
  have room : 0 < mostDimensions := by decide
  have sum := toNat_saturatingAdd left right
  rw [none, UInt32.toNat_zero] at sum
  apply positive
  apply UInt32.toNat_inj.mp
  rw [UInt32.toNat_zero]
  omega

/-- All dimensions that are asked for, as one number without a limit. -/
def totalDimensions : List UInt32 → Nat
  | [] => 0
  | dimensions :: rest => dimensions.toNat + totalDimensions rest

namespace TypeUse

/-! ### Chains -/

/-- Two steps are one step with the dimensions of both. -/
theorem arrayOf_arrayOf (element : TypeUse) (first second : UInt32) :
    arrayOf (arrayOf element first) second = arrayOf element (saturatingAdd first second) := by
  by_cases none : first = 0
  · rw [none, arrayOf_zero, zero_saturatingAdd]
  by_cases none' : second = 0
  · rw [none', arrayOf_zero, saturatingAdd_zero]
  have positive := saturatingAdd_ne_zero first none'
  -- An element that is an array takes up the dimensions, any other becomes an array.
  rcases arrayOf_cases element none with ⟨inner, count, rfl, built⟩ | ⟨notArray, built⟩
  · rw [built, arrayOf, if_neg none', arrayOf, if_neg positive, saturatingAdd_assoc]
  · rw [built, arrayOf, if_neg none']
    rcases arrayOf_cases element positive with ⟨inner, count, rfl, -⟩ | ⟨-, built'⟩
    · cases notArray
    · rw [built']

theorem foldl_arrayOf (element : TypeUse) (dimensions : List UInt32) :
    dimensions.foldl arrayOf element = arrayOf element (saturate (totalDimensions dimensions)) := by
  induction dimensions generalizing element with
  | nil => rfl
  | cons first rest ih =>
    rw [List.foldl_cons, ih, arrayOf_arrayOf, saturatingAdd_saturate, totalDimensions]

/-! ### What is printed -/

/-- The dimensions that a type brings along: those of an array, none otherwise. -/
def ownDimensions : TypeUse → Nat
  | .array _ dimensions => dimensions.toNat
  | _ => 0

theorem ownDimensions_of_not_isArray {type : TypeUse} (notArray : type.isArray = false) :
    type.ownDimensions = 0 := by
  cases type with
  | array => cases notArray
  | _ => rfl

theorem ownDimensions_le (type : TypeUse) : type.ownDimensions ≤ mostDimensions := by
  cases type with
  | array element dimensions => exact toNat_le_mostDimensions dimensions
  | _ => exact Nat.zero_le mostDimensions

/-- A step extends the folded type by the dimensions for which there is room beside its own. -/
theorem fold_arrayOf (element : TypeUse) (dimensions : UInt32) :
    (arrayOf element dimensions).fold =
      element.fold.extend (min dimensions.toNat (mostDimensions - element.ownDimensions)) := by
  have fits := toNat_le_mostDimensions dimensions
  by_cases none : dimensions = 0
  · rw [none, arrayOf_zero, UInt32.toNat_zero, Nat.zero_min, FoldedType.extend_zero]
  rcases arrayOf_cases element none with ⟨inner, count, rfl, built⟩ | ⟨notArray, built⟩
  · have bound := toNat_le_mostDimensions count
    rw [built, fold, fold, FoldedType.extend_extend, toNat_saturatingAdd, ownDimensions]
    congr 1
    omega
  · rw [built, fold, ownDimensions_of_not_isArray notArray, Nat.sub_zero, Nat.min_eq_left fits]

/-- The constructor extends the folded type by all dimensions. -/
theorem fold_foldl_array (element : TypeUse) (dimensions : List UInt32) :
    (dimensions.foldl array element).fold = element.fold.extend (totalDimensions dimensions) := by
  induction dimensions generalizing element with
  | nil => exact element.fold.extend_zero.symm
  | cons first rest ih =>
    rw [List.foldl_cons, ih, fold, FoldedType.extend_extend, totalDimensions]

theorem toList_join_brackets (count : Nat) :
    (String.join (List.replicate count "[]")).toList = bracketChars count := by
  rw [String.toList_join, List.flatMap_replicate]
  rfl

theorem join_brackets_inj {first second : Nat} :
    String.join (List.replicate first "[]") = String.join (List.replicate second "[]") ↔
      first = second := by
  refine ⟨fun same => ?_, fun same => same ▸ rfl⟩
  have chars := congrArg (fun text => text.toList.length) same
  simp only [toList_join_brackets, length_bracketChars] at chars
  omega

/-- A type whose folded type is an extension of another one is printed as the other, with a pair of
brackets after it for each dimension more. -/
theorem text_of_fold_eq_extend {type element : TypeUse} {more : Nat}
    (extended : type.fold = element.fold.extend more) :
    (Tree.type type).text =
      (Tree.type element).text ++ String.join (List.replicate more "[]") := by
  apply String.toList_inj.mp
  rw [String.toList_append, toList_text, toList_text, toList_join_brackets, ← chars_fold, extended,
    FoldedType.chars_extend, chars_fold]

/-- Dimensions that are added one after the other come to the same type as their sum added at once,
saturated at the greatest number of dimensions. The chain of arrays that the constructor makes of
them is printed as the element with a pair of brackets for each dimension, and the one array is
printed so too, just if there was room for all of them beside those of the element. -/
theorem arrayOf_chain (element : TypeUse) (dimensions : List UInt32) :
    let total := totalDimensions dimensions
    let brackets := String.join (List.replicate total "[]")
    dimensions.foldl arrayOf element = arrayOf element (saturate total) ∧
      (Tree.type (dimensions.foldl array element)).text =
        (Tree.type element).text ++ brackets ∧
      ((Tree.type (dimensions.foldl arrayOf element)).text =
        (Tree.type element).text ++ brackets ↔ element.ownDimensions + total ≤ mostDimensions) := by
  intro total brackets
  have within := element.ownDimensions_le
  -- The texts are compared by the folded forms of the chains, which count all brackets.
  have folded := fold_arrayOf element (saturate total)
  rw [toNat_saturate] at folded
  refine ⟨foldl_arrayOf element dimensions, ?_, ?_⟩
  · exact text_of_fold_eq_extend (fold_foldl_array element dimensions)
  · rw [foldl_arrayOf, text_of_fold_eq_extend folded, String.append_right_inj, join_brackets_inj]
    omega

/-- Dimensions are cut off of an array that had none. -/
example : [0xfffffffe, 0, 3].foldl arrayOf (.array .void 0) = .array .void 0xffffffff := rfl

end TypeUse

end ClassHeader

import Mathlib.Data.List.Basic

/-!
# Lines

A line is what stands before a newline and after the newline before it. A text that ends in a
newline consists of its lines, and it is known by them.
-/

namespace ClassHeader.Lines

/-- The lines of a text. What follows the last newline is none of them. -/
def ofText (text : String) : List String :=
  ((text.toList.splitOn '\n').dropLast).map String.ofList

/-- The text of some lines, each ended by a newline. -/
def text (lines : List String) : String :=
  String.join (lines.map (· ++ "\n"))

def spaces (columns : Nat) : String :=
  String.ofList (List.replicate columns ' ')

/-- A line with some spaces before it. -/
def indented (columns : Nat) (line : String) : String :=
  spaces columns ++ line

/-- Whether no newline is in any of the texts. -/
def Unbroken (texts : List String) : Prop :=
  ∀ text ∈ texts, '\n' ∉ text.toList

namespace Unbroken

variable {first : String} {left right : List String}

@[simp] theorem nil : Unbroken [] := nofun

@[simp] theorem cons_iff : Unbroken (first :: left) ↔ '\n' ∉ first.toList ∧ Unbroken left :=
  List.forall_mem_cons

@[simp] theorem append_iff : Unbroken (left ++ right) ↔ Unbroken left ∧ Unbroken right :=
  List.forall_mem_append

end Unbroken

@[simp] theorem text_nil : text [] = "" := rfl

@[simp] theorem text_cons (line : String) (lines : List String) :
    text (line :: lines) = line ++ "\n" ++ text lines := by
  rw [text, List.map_cons, String.join_cons, text]

theorem text_append (left right : List String) :
    text (left ++ right) = text left ++ text right := by
  rw [text, List.map_append, String.join_append, text, text]

/-- A text of lines ends in a newline. -/
theorem exists_text {lines : List String} (nonempty : lines ≠ []) :
    ∃ before, text lines = before ++ "\n" := by
  refine ⟨text lines.dropLast ++ lines.getLast nonempty, ?_⟩
  conv => lhs; rw [← List.dropLast_concat_getLast nonempty]
  rw [text_append, text_cons, text_nil, String.append_empty, String.append_assoc]

/-- The lines of a text of lines are those lines. -/
theorem ofText_text {lines : List String} (unbroken : Unbroken lines) :
    ofText (text lines) = lines := by
  induction lines with
  | nil => rfl
  | cons line lines ih =>
    rw [Unbroken.cons_iff] at unbroken
    -- The first newline is the one that ends the first line.
    have split : (text (line :: lines)).toList.splitOn '\n' =
        line.toList :: (text lines).toList.splitOn '\n' := by
      have newline : "\n".toList = ['\n'] := rfl
      rw [text_cons, String.toList_append, String.toList_append, List.append_assoc, newline,
        List.singleton_append, List.splitOn_append_cons_self, List.splitOn_eq_singleton unbroken.1,
        List.singleton_append]
    rw [ofText, split, List.dropLast_cons_of_ne_nil (List.splitOn_ne_nil _ _), List.map_cons,
      String.ofList_toList, ← ofText, ih unbroken.2]

theorem indented_zero (line : String) : indented 0 line = line := by
  simp [indented, spaces]

theorem indented_indented (outer inner : Nat) (line : String) :
    indented outer (indented inner line) = indented (outer + inner) line := by
  rw [indented, indented, indented, ← String.append_assoc, spaces, spaces, spaces,
    ← String.ofList_append, List.replicate_append_replicate]

end ClassHeader.Lines

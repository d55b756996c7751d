import ClassHeader.Proofs.Pool.Ledger

/-!
# Constants up to the bits of NaN

Entries and requests have a canonical form, which differs from them in the bits of a NaN only. With
references replaced by the texts they lead to, an entry is what a request asks for exactly if the
two have one canonical form.
-/

namespace ClassHeader

namespace Binary

variable {precision : Precision}

@[simp] theorem isNaN_nan : (nan : Binary precision).isNaN = true := by
  cases precision <;> decide

theorem canonical_of_isNaN {number : Binary precision} (isNaN : number.isNaN = true) :
    number.canonical = nan :=
  if_pos isNaN

theorem canonical_of_not_isNaN {number : Binary precision} (isNumber : number.isNaN = false) :
    number.canonical = number := by
  simp [canonical, isNumber]

@[simp] theorem isNaN_canonical (number : Binary precision) :
    number.canonical.isNaN = number.isNaN := by
  cases isNaN : number.isNaN
  · rw [canonical_of_not_isNaN isNaN, isNaN]
  · rw [canonical_of_isNaN isNaN, isNaN_nan]

@[simp] theorem canonical_canonical (number : Binary precision) :
    number.canonical.canonical = number.canonical := by
  cases isNaN : number.isNaN
  · rw [canonical_of_not_isNaN isNaN, canonical_of_not_isNaN isNaN]
  · rw [canonical_of_isNaN isNaN, canonical_of_isNaN isNaN_nan]

theorem eq_iff_bits_eq (left right : Binary precision) : left = right ↔ left.bits = right.bits := by
  cases left
  cases right
  simp

/-- Numbers have one canonical form exactly if they are one constant. -/
theorem canonical_eq_iff (left right : Binary precision) :
    left.canonical = right.canonical ↔ left.alike right = true := by
  by_cases same : left.isNaN = right.isNaN
  · cases isNaN : left.isNaN with
    | true =>
      rw [canonical_of_isNaN isNaN, canonical_of_isNaN (same ▸ isNaN)]
      simp [alike, isNaN, ← same]
    | false =>
      rw [canonical_of_not_isNaN isNaN, canonical_of_not_isNaN (same ▸ isNaN), eq_iff_bits_eq]
      simp [alike, isNaN]
  · constructor
    · intro equal
      -- The canonical form of a NaN is a NaN, and that of a number is none.
      have classes := congrArg Binary.isNaN equal
      rw [isNaN_canonical, isNaN_canonical] at classes
      exact absurd classes same
    · intro equal
      simp only [alike, Bool.or_eq_true, Bool.and_eq_true, beq_iff_eq, ← eq_iff_bits_eq] at equal
      rcases equal with ⟨isNaN, isNaN'⟩ | rfl
      · exact absurd (isNaN.trans isNaN'.symm) same
      · exact absurd rfl same

end Binary

/-- The entry itself, except that every NaN of one precision has the same bits. -/
def Entry.canonical : Entry → Entry
  | .float value => .float value.canonical
  | .double value => .double value.canonical
  | entry => entry

def Request.canonical : Request → Request
  | .float value => .float value.canonical
  | .double value => .double value.canonical
  | request => request

@[simp] theorem Request.kind_canonical (request : Request) :
    request.canonical.kind = request.kind := by
  cases request <;> rfl

@[simp] theorem Request.canonical_canonical (request : Request) :
    request.canonical.canonical = request.canonical := by
  cases request <;> simp [canonical]

theorem Request.reference?_entry (request : Request) (index : UInt16) :
    (request.entry index).reference? = request.text?.map fun _ => index := by
  cases request <;> rfl

theorem Request.entry_of_plain {request : Request} (plain : request.text? = none)
    (left right : UInt16) : request.entry left = request.entry right := by
  cases request <;> cases plain <;> rfl

/-- An entry that refers to a text holds no number. -/
theorem Request.canonical_entry_of_text {request : Request} {text : String} {index : UInt16}
    (refers : request.text? = some text) :
    (request.entry index).canonical = request.entry index := by
  cases request <;> cases refers <;> rfl

namespace Entry

@[simp] theorem canonical_canonical (entry : Entry) :
    entry.canonical.canonical = entry.canonical := by
  cases entry <;> simp [canonical]

@[simp] theorem kind_canonical (entry : Entry) : entry.canonical.kind = entry.kind := by
  cases entry <;> rfl

/-- The constant that an entry stands for, if the index that it refers to holds a text. -/
def resolve? (textAt? : UInt16 → Option String) : Entry → Option Request
  | .utf8 text => some (.utf8 text)
  | .classInfo index => (textAt? index).map .classInfo
  | .string index => (textAt? index).map .string
  | .integer value => some (.integer value)
  | .long value => some (.long value)
  | .float value => some (.float value.canonical)
  | .double value => some (.double value.canonical)

/-- The entry that a request asks for stands for what it asks for. -/
theorem resolve?_entry {textAt? : UInt16 → Option String} (request : Request) (index : UInt16)
    (known : ∀ text, request.text? = some text → textAt? index = some text) :
    (request.entry index).resolve? textAt? = some request.canonical := by
  cases request with
  | classInfo name => simp [Request.entry, resolve?, known name rfl, Request.canonical]
  | string text => simp [Request.entry, resolve?, known text rfl, Request.canonical]
  | _ => rfl

variable (textAt? : UInt16 → Option String)

theorem answers_iff (entry : Entry) (request : Request) :
    entry.answers textAt? request = true ↔ entry.resolve? textAt? = some request.canonical := by
  cases entry <;> cases request <;>
    simp [answers, resolve?, Request.canonical, Binary.canonical_eq_iff]

/-- The entry that a request asks for is what it asks for, if its text is where it refers to. -/
theorem answers_entry (request : Request) (index : UInt16)
    (known : ∀ text, request.text? = some text → textAt? index = some text) :
    (request.entry index).answers textAt? request = true := by
  rw [answers_iff]
  exact resolve?_entry request index known

/-- Where no text is referred to, an entry is what is asked for if it equals the entry asked for. -/
theorem answers_iff_canonical_eq (entry : Entry) {request : Request} (plain : request.text? = none)
    (index : UInt16) :
    entry.answers textAt? request = true ↔ entry.canonical = (request.entry index).canonical := by
  cases entry <;> cases request <;> cases plain <;>
    simp [answers, canonical, Request.entry, Binary.canonical_eq_iff]

/-- Where a text is referred to, an entry is what is asked for if it is of the kind asked for and
refers to that text. -/
theorem answers_iff_reference {entry : Entry} {request : Request} {text : String}
    (refers : request.text? = some text) :
    entry.answers textAt? request = true ↔
      ∃ index, entry.canonical = request.entry index ∧ textAt? index = some text := by
  cases entry <;> cases request <;> cases refers <;>
    simp [answers, canonical, Request.entry]

end Entry

end ClassHeader

import ClassHeader.Pool.Journal
import ClassHeader.Proofs.Number.Layout
import ClassHeader.Proofs.Pool.Canonical
import ClassHeader.Proofs.Text.Quoted
import Std.Data.String.ToInt

/-!
# Messages of journal records

A record is kept as text. The message of an added entry tells its index, its kind and its content:
the index ends at the first character that is no digit, the kind at the space after it, and the
content is all that is left. Nothing is lost but the bits of a NaN.
-/

namespace ClassHeader

/-! ### Contents -/

namespace Binary

variable {precision : Precision}

theorem messageText_of_isNaN {number : Binary precision} (isNaN : number.isNaN = true) :
    number.messageText = "NaN" :=
  if_pos isNaN

/-- The message text of a number without its sign. -/
def unsignedText (number : Binary precision) : List Char :=
  if number.isInfinite then ['i', 'n', 'f'] else number.magnitudeText

theorem toList_messageText {number : Binary precision} (isNumber : number.isNaN = false) :
    number.messageText.toList = (if number.negative then ['-'] else []) ++ number.unsignedText := by
  rw [messageText, isNumber, unsignedText]
  cases number.isInfinite with
  | true => cases number.negative <;> simp
  | false => simpa using number.toList_finiteText

theorem unsignedText_begins (number : Binary precision) :
    ∃ first more, number.unsignedText = first :: more ∧ (first = 'i' ∨ first.isDigit = true) := by
  rw [unsignedText]
  split
  · exact ⟨'i', _, rfl, Or.inl rfl⟩
  · obtain ⟨first, more, text, isDigit⟩ := number.magnitudeText_begins
    exact ⟨first, more, text, Or.inr isDigit⟩

theorem unsignedText_head?_ne_sign (number : Binary precision) :
    number.unsignedText.head? ≠ some '-' := by
  obtain ⟨first, more, text, begins⟩ := number.unsignedText_begins
  rw [text, List.head?_cons]
  rintro ⟨⟩
  exact absurd begins (by decide)

theorem messageText_ne_of_isNaN {number other : Binary precision} (isNaN : number.isNaN = true)
    (isNumber : other.isNaN = false) : number.messageText ≠ other.messageText := by
  intro same
  have texts := congrArg (fun text => text.toList.head?) same
  obtain ⟨first, more, text, begins⟩ := other.unsignedText_begins
  rw [messageText_of_isNaN isNaN, toList_messageText isNumber, text] at texts
  cases negative : other.negative with
  | true => simp [negative] at texts
  | false =>
    obtain rfl : 'N' = first := by simpa [negative] using texts
    exact absurd begins (by decide)

theorem canonical_ne_of_isNaN {number other : Binary precision} (isNaN : number.isNaN = true)
    (isNumber : other.isNaN = false) : number.canonical ≠ other.canonical := by
  intro same
  rw [← isNaN_canonical, ← same, isNaN_canonical, isNaN] at isNumber
  cases isNumber

/-- The unsigned text tells the bits other than the sign. -/
theorem magnitude_eq_of_unsignedText {left right : Binary precision}
    (same : left.unsignedText = right.unsignedText) : left.magnitude = right.magnitude := by
  have finite_ne {number : Binary precision} : number.magnitudeText ≠ ['i', 'n', 'f'] := by
    intro same
    obtain ⟨first, more, text, isDigit⟩ := number.magnitudeText_begins
    cases same.symm.trans text
    exact absurd isDigit (by decide)
  rw [unsignedText, unsignedText] at same
  split at same <;> split at same
  case isTrue.isTrue infinite infinite' =>
    rw [isInfinite, Bool.and_eq_true, beq_iff_eq, beq_iff_eq] at infinite infinite'
    rw [magnitude, magnitude, infinite.1, infinite.2, infinite'.1, infinite'.2]
  case isTrue.isFalse => exact absurd same.symm finite_ne
  case isFalse.isTrue => exact absurd same finite_ne
  case isFalse.isFalse => exact magnitude_eq_of_magnitudeText same

/-- Numbers have one message text exactly if they are one constant. -/
theorem messageText_eq_iff (left right : Binary precision) :
    left.messageText = right.messageText ↔ left.canonical = right.canonical := by
  cases isNaN : left.isNaN <;> cases isNaN' : right.isNaN
  · -- Numbers have their sign in front, and what follows it does not look like one.
    rw [canonical_of_not_isNaN isNaN, canonical_of_not_isNaN isNaN']
    refine ⟨fun same => ?_, congrArg messageText⟩
    have texts := congrArg String.toList same
    rw [toList_messageText isNaN, toList_messageText isNaN'] at texts
    obtain ⟨sign, text⟩ := sign_append_inj left.unsignedText_head?_ne_sign
      right.unsignedText_head?_ne_sign texts
    exact eq_of_magnitude sign (magnitude_eq_of_unsignedText text)
  · exact iff_of_false (messageText_ne_of_isNaN isNaN' isNaN).symm
      (canonical_ne_of_isNaN isNaN' isNaN).symm
  · exact iff_of_false (messageText_ne_of_isNaN isNaN isNaN') (canonical_ne_of_isNaN isNaN isNaN')
  · rw [messageText_of_isNaN isNaN, messageText_of_isNaN isNaN', canonical_of_isNaN isNaN,
      canonical_of_isNaN isNaN']
    exact iff_of_true rfl rfl

end Binary

namespace Entry

/-- An opening and a closing text can be taken off. -/
theorem enclosed_inj {opening closing text text' : String} :
    opening ++ text ++ closing = opening ++ text' ++ closing ↔ text = text' := by
  rw [String.append_left_inj, String.append_right_inj]

/-- Entries of one kind have one content exactly if they have one canonical form. -/
theorem messageText_content_eq_iff {left right : Entry} (kind : left.kind = right.kind) :
    left.content.messageText = right.content.messageText ↔ left.canonical = right.canonical := by
  cases left <;> cases right <;> try cases kind
  -- What is left is two entries of one kind, and the texts differ between the brackets only.
  all_goals
    simp only [Content.messageText, canonical, enclosed_inj, mk.injEq, true_and,
      Content.utf8.injEq, Quoted.text_injective.eq_iff, Content.index.injEq, Nat.repr_inj,
      UInt16.toNat_inj, Content.integer.injEq, Content.long.injEq, Int.repr_inj, Int32.toInt_inj,
      Int64.toInt_inj, Content.float.injEq, Content.double.injEq, Binary.messageText_eq_iff]

end Entry

namespace EntryKind

theorem name_injective : Function.Injective name := by
  intro left right same
  cases left <;> cases right <;> first | rfl | simp [name] at same

theorem isAlphanum_of_mem_name {kind : EntryKind} :
    ∀ char ∈ kind.name.toList, char.isAlphanum = true := by
  cases kind <;> simp [name]

end EntryKind

namespace Event

theorem message_added (index : UInt16) (entry : Entry) :
    (added index entry).message =
      "constant pool: #" ++ index.toNat.repr ++ " = " ++ entry.kind.name ++ " " ++
        entry.content.messageText :=
  rfl

theorem toList_message_added (index : UInt16) (entry : Entry) :
    (added index entry).message.toList =
      "constant pool: #".toList ++ (Nat.toDigits 10 index.toNat ++
        ([' ', '=', ' '] ++ (entry.kind.name.toList ++
          ([' '] ++ entry.content.messageText.toList)))) := by
  have equals : " = ".toList = [' ', '=', ' '] := by simp
  have space : " ".toList = [' '] := by simp
  simp only [message_added, String.toList_append, Nat.toList_repr, List.append_assoc, equals, space]

/-- The message of an added entry tells its index and its entry up to the bits of a NaN. -/
theorem message_added_eq_iff (index index' : UInt16) (entry entry' : Entry) :
    (added index entry).message = (added index' entry').message ↔
      index = index' ∧ entry.canonical = entry'.canonical := by
  constructor
  · intro same
    have texts := congrArg String.toList same
    rw [toList_message_added, toList_message_added] at texts
    -- Neither the index nor the kind goes on with a space.
    have afterIndex (rest : List Char) : Stops Char.isDigit ([' ', '=', ' '] ++ rest) := rfl
    have afterKind (rest : List Char) : Stops Char.isAlphanum ([' '] ++ rest) := rfl
    obtain ⟨indices, texts⟩ := word_append_inj (fun _ => isDigit_of_mem_toDigits)
      (fun _ => isDigit_of_mem_toDigits) (afterIndex _) (afterIndex _)
      (List.append_cancel_left texts)
    obtain ⟨kinds, texts⟩ := word_append_inj EntryKind.isAlphanum_of_mem_name
      EntryKind.isAlphanum_of_mem_name (afterKind _) (afterKind _) (List.append_cancel_left texts)
    have kind : entry.kind = entry'.kind :=
      EntryKind.name_injective (String.toList_injective kinds)
    refine ⟨?_, (Entry.messageText_content_eq_iff kind).mp (String.toList_injective
      (List.append_cancel_left texts))⟩
    rw [← UInt16.toNat_inj, ← natOfWord_toDigits index.toNat, indices, natOfWord_toDigits]
  · rintro ⟨rfl, same⟩
    have kind : entry.kind = entry'.kind := by
      rw [← Entry.kind_canonical, same, Entry.kind_canonical]
    rw [message_added, message_added, kind, (Entry.messageText_content_eq_iff kind).mpr same]

end Event

end ClassHeader

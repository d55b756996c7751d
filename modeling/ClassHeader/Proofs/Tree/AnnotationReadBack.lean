import ClassHeader.Proofs.Tree.Annotation

/-!
# Annotations read back

The reader finds every argument in its text, whatever the text goes on with after it
(`reads_chars`). A literal ends at its own closing quote, so that no text in it is taken for a part
of the annotation around it. So an annotation is determined by its text (`Anno.text_eq_iff_eq`).

As for arithmetic expressions, what is read is stated for each shape, with what is read of its parts
as hypotheses.
-/

namespace ClassHeader

namespace Argument

open Expression

/-! ### What follows an argument -/

theorem Ends.stops {rest : List Char} (ends : Ends rest) : Stops inName rest :=
  GoesOnWith.stops ends (by decide)

/-- What follows an argument does not make it the name of an element. -/
theorem Ends.not_assigned {rest : List Char} (ends : Ends rest) :
    [' ', '=', ' '].isPrefixOf? rest = none :=
  ends.isPrefixOf?_eq_none (by decide) _

/-- What an argument is read up to in a list is a comma or what closes the list. -/
theorem Reads.of_item {read : Reader} {text : List Char} {expr : Expression}
    (reads : Reads read text expr) {close : Char} (isClose : close ∈ [')', '\x7d']) :
    Items.Reads read close text expr := by
  intro next rest isNext
  apply reads
  rcases isNext with rfl | rfl
  · exact List.mem_cons_self
  · exact List.mem_cons_of_mem _ isClose

/-! ### Words -/

theorem ofNumber_toDigits (sign : Int) (number : Nat) :
    ofNumber sign (Nat.toDigits 10 number) =
      .literal .int (.int (Int32.ofInt (sign * number))) := by
  have notLong : (Nat.toDigits 10 number).getLast? ≠ some 'L' := by
    intro last
    have isDigit := isDigit_of_mem_toDigits (List.mem_of_getLast? last)
    cases isDigit
  rw [ofNumber, if_neg notLong, natOfWord_toDigits]

theorem ofNumber_long (sign : Int) (number : Nat) :
    ofNumber sign (Nat.toDigits 10 number ++ ['L']) =
      .literal .long (.long (Int64.ofInt (sign * number))) := by
  rw [ofNumber, if_pos List.getLast?_concat, List.dropLast_concat, natOfWord_toDigits]

theorem ofWord?_digit {first : Char} (isDigit : first.isDigit = true) (more : List Char) :
    ofWord? (first :: more) = some (ofNumber 1 (first :: more)) := by
  -- Neither truth value begins with a digit.
  have notTrue : first :: more ≠ "true".toList := by
    rintro ⟨⟩
    cases isDigit
  have notFalse : first :: more ≠ "false".toList := by
    rintro ⟨⟩
    cases isDigit
  rw [ofWord?]
  simp only [if_neg notTrue, if_neg notFalse, if_pos isDigit]

/-- A name is taken for a name unless it is one of the two truth values. -/
theorem ofWord?_name {name : QualifiedName} (isValid : name.IsValid) (notTrue : name ≠ ["true"])
    (notFalse : name ≠ ["false"]) : ofWord? name.text.toList = some (.reference name) := by
  obtain ⟨first, more, begins, notDigit⟩ := isValid.text_begins
  -- A name can be read off its text, so that only these two names have such texts.
  have other : name.text.toList ≠ "true".toList ∧ name.text.toList ≠ "false".toList := by
    constructor
    · intro same
      rw [← isValid.ofWord_text, same] at notTrue
      exact notTrue (by decide)
    · intro same
      rw [← isValid.ofWord_text, same] at notFalse
      exact notFalse (by decide)
  rw [begins, ofWord?, notDigit, ← begins]
  simp only [if_neg other.1, if_neg other.2, isValid.ofWord_text]
  rfl

section

variable {read : Reader} {word : List Char}

/-- No shape with a character of its own to begin with begins as a word does. -/
theorem readLayer?_word (nonempty : word ≠ []) (all : ∀ char ∈ word, inName char = true)
    (rest : List Char) : readLayer? read (word ++ rest) = readWord? read (word ++ rest) := by
  cases word with
  | nil => exact absurd rfl nonempty
  | cons first more =>
    have isPart := all first List.mem_cons_self
    rw [List.cons_append, readLayer?]
    -- What is left is that the first character is none of those that the other shapes begin with.
    all_goals
      intro input same
      obtain ⟨rfl, -⟩ := List.cons.inj same
      cases isPart

theorem reads_word {expr : Expression} (nonempty : word ≠ [])
    (all : ∀ char ∈ word, inName char = true) (spells : ofWord? word = some expr) :
    Reads (readLayer? read) word expr := by
  intro rest ends
  rw [readLayer?_word nonempty all, readWord?, span_word all ends.stops]
  simp only [ends.not_assigned, spells, Option.map_some]

theorem reads_boolean (value : Bool) :
    Reads (readLayer? read) (literal .boolean (.boolean value)).chars
      (.literal .boolean (.boolean value)) := by
  rw [chars_literal]
  have letters : ∀ char ∈ (Constant.boolean value).text.toList, inName char = true := by
    apply List.all_eq_true.mp
    cases value <;> decide
  cases value with
  | true => exact reads_word (by decide) letters rfl
  | false => exact reads_word (by decide) letters rfl

theorem reads_reference {name : QualifiedName} (isValid : name.IsValid) (notTrue : name ≠ ["true"])
    (notFalse : name ≠ ["false"]) :
    Reads (readLayer? read) (reference name).chars (.reference name) := by
  rw [chars_reference]
  exact reads_word isValid.text_ne_nil isValid.inName_of_mem_text
    (ofWord?_name isValid notTrue notFalse)

/-! ### Numbers -/

theorem reads_sign (all : ∀ char ∈ word, inName char = true) :
    Reads (readLayer? read) ('-' :: word) (ofNumber (-1) word) := by
  intro rest ends
  rw [List.cons_append, readLayer?, readNumber?, span_word all ends.stops]

/-- A number is read up to the end of its suffix, and its sign is told from its digits. -/
theorem exists_reads_repr (read : Reader) (value : Int) {suffix : List Char}
    (ofSuffix : ∀ char ∈ suffix, inName char = true) :
    ∃ (sign : Int) (number : Nat), value = sign * number ∧
      Reads (readLayer? read) (value.repr.toList ++ suffix)
        (ofNumber sign (Nat.toDigits 10 number ++ suffix)) := by
  have all (number : Nat) : ∀ char ∈ Nat.toDigits 10 number ++ suffix, inName char = true := by
    intro char member
    rcases List.mem_append.mp member with isDigit | inSuffix
    · exact inName_of_mem_toDigits char isDigit
    · exact ofSuffix char inSuffix
  rcases toList_repr_cases value with ⟨number, isNumber, digits⟩ | ⟨number, -, isNegation, digits⟩
  · refine ⟨1, number, by omega, ?_⟩
    rw [digits]
    -- A word that begins with a digit is a number and no name.
    apply reads_word (List.append_ne_nil_of_left_ne_nil Nat.toDigits_ne_nil suffix) (all number)
    obtain ⟨first, more, begins, isDigit⟩ := toDigits_begins number
    rw [begins]
    exact ofWord?_digit isDigit (more ++ suffix)
  · refine ⟨-1, number, by omega, ?_⟩
    rw [digits]
    exact reads_sign (all number)

theorem reads_int (value : Int32) :
    Reads (readLayer? read) (literal .int (.int value)).chars (.literal .int (.int value)) := by
  have noSuffix : ∀ char ∈ ([] : List Char), inName char = true := nofun
  obtain ⟨sign, number, product, reads⟩ := exists_reads_repr read value.toInt noSuffix
  rw [List.append_nil, List.append_nil, ofNumber_toDigits, ← product, Int32.ofInt_toInt] at reads
  rw [chars_literal, Constant.text]
  exact reads

theorem reads_long (value : Int64) :
    Reads (readLayer? read) (literal .long (.long value)).chars (.literal .long (.long value)) := by
  have ofSuffix : ∀ char ∈ ['L'], inName char = true := List.all_eq_true.mp (by decide)
  obtain ⟨sign, number, product, reads⟩ := exists_reads_repr read value.toInt ofSuffix
  rw [ofNumber_long, ← product, Int64.ofInt_toInt] at reads
  rw [chars_literal, Constant.text, String.toList_append]
  exact reads

end

/-! ### Literals in quotes -/

theorem reads_char {read : Reader} (unit : UInt16) :
    Reads (readLayer? read) (literal .char (.char unit)).chars (.literal .char (.char unit)) := by
  intro rest _
  rw [chars_literal, Constant.text, String.toList_ofList, Literal.text, List.cons_append,
    List.cons_append, List.append_assoc, readLayer?, readChar?]
  have isQuote : Literal.IsQuote '\'' := Or.inr rfl
  have units := Literal.readUnits?_text isQuote [unit] rest
  simp only [List.singleton_append, units]
  rfl

theorem reads_string {read : Reader} (value : String) :
    Reads (readLayer? read) (literal .string (.string value)).chars
      (.literal .string (.string value)) := by
  intro rest _
  rw [chars_literal, Constant.text, String.toList_ofList, Literal.text, List.cons_append,
    List.cons_append, List.append_assoc, readLayer?, readString?]
  have isQuote : Literal.IsQuote '"' := Or.inl rfl
  have units := Literal.readUnits?_text isQuote (Utf16.encode value) rest
  simp only [List.singleton_append, units]
  rw [Option.bind_eq_bind, Option.bind_some, Utf16.decode?_encode]
  rfl

/-! ### Lists -/

section

variable {bound : Nat} {close : Char} (isClose : close ∈ [')', '\x7d'])
include isClose

/-- Nothing can be read at the end of a list, which is how an empty list is told from others. -/
theorem readWithin?_close (rest : List Char) : readWithin? bound (close :: rest) = none := by
  cases bound with
  | zero => rfl
  | succ bound =>
    simp only [List.mem_cons, List.not_mem_nil, or_false] at isClose
    rcases isClose with rfl | rfl <;> rfl

theorem read?_listText {items : List Expression}
    (reads : ∀ item ∈ items, Reads (readWithin? bound) item.chars item) (rest : List Char) :
    Items.read? (readWithin? bound) close (Items.listText chars items ++ close :: rest) =
      some (items, rest) := by
  have notComma : close ≠ ',' := by
    rintro rfl
    exact absurd isClose (by decide)
  by_cases empty : items = []
  · subst empty
    exact Items.read?_close notComma (readWithin?_close isClose rest)
  · -- The items are read as themselves, so the list of what is read is the list itself.
    have ofItems := fun item member => (reads item member).of_item isClose
    have read := Items.read?_listText notComma empty ofItems rest
    rw [List.map_id''] at read
    · exact read
    · intro item
      rfl

end

theorem reads_arrayInit {bound : Nat} {elements : List Expression}
    (reads : ∀ element ∈ elements, Reads (readWithin? bound) element.chars element) :
    Reads (readWithin? (bound + 1)) (arrayInit elements).chars (.arrayInit elements) := by
  intro rest _
  rw [chars_arrayInit, List.cons_append, List.append_assoc, List.singleton_append, readWithin?,
    readLayer?, readArray?, read?_listText (by decide) reads]
  rfl

/-! ### Annotations and assignments -/

theorem reads_marker {bound : Nat} {name : QualifiedName} (isValid : name.IsValid) :
    Reads (readWithin? (bound + 1)) (anno ⟨name, []⟩).chars (.anno ⟨name, []⟩) := by
  intro rest ends
  rw [chars_marker, List.cons_append, readWithin?, readLayer?, readAnno?,
    span_word isValid.inName_of_mem_text ends.stops]
  dsimp only
  split
  · -- A parenthesis opens nothing that can follow an argument.
    next rest => exact absurd rfl (ends.ne_cons (by decide) rest)
  · rw [isValid.ofWord_text]

theorem reads_anno {bound : Nat} {name : QualifiedName} {arguments : List Expression}
    (isValid : name.IsValid) (nonempty : arguments ≠ [])
    (reads : ∀ argument ∈ arguments, Reads (readWithin? bound) argument.chars argument) :
    Reads (readWithin? (bound + 1)) (anno ⟨name, arguments⟩).chars (.anno ⟨name, arguments⟩) := by
  intro rest _
  have spans (more : List Char) :
      (name.text.toList ++ '(' :: more).span inName = (name.text.toList, '(' :: more) :=
    span_word isValid.inName_of_mem_text rfl
  rw [chars_anno nonempty, List.cons_append, List.append_assoc, List.cons_append, List.append_assoc,
    List.singleton_append, readWithin?, readLayer?, readAnno?, spans]
  simp only [read?_listText (by decide : ')' ∈ [')', '\x7d']) reads, isValid.ofWord_text]
  rfl

theorem reads_assign {bound : Nat} {name : String} {value : Expression}
    (isName : isIdentifier name = true) (reads : Reads (readWithin? bound) value.chars value) :
    Reads (readWithin? (bound + 1)) (assign name value).chars (.assign name value) := by
  intro rest ends
  obtain ⟨first, more, begins, -, parts⟩ := exists_of_isIdentifier isName
  have all : ∀ char ∈ name.toList, inName char = true :=
    fun char member => Bool.or_eq_true_iff.mpr (Or.inl (parts char member))
  have nonempty : name.toList ≠ [] := begins ▸ List.cons_ne_nil first more
  -- The word ends at the space, and what follows tells an assignment from a reference.
  have spans : (name.toList ++ ' ' :: '=' :: ' ' :: (value.chars ++ rest)).span inName =
      (name.toList, ' ' :: '=' :: ' ' :: (value.chars ++ rest)) := span_word all rfl
  have assigned : [' ', '=', ' '].isPrefixOf? (' ' :: '=' :: ' ' :: (value.chars ++ rest)) =
      some (value.chars ++ rest) := isPrefixOf?_append [' ', '=', ' '] _
  rw [chars_assign, List.append_assoc, List.cons_append, List.cons_append, List.cons_append,
    readWithin?, readLayer?_word nonempty all, readWord?, spans]
  simp only [assigned, reads rest ends, String.ofList_toList]
  rfl

/-! ### Arguments -/

/-- An argument is read from the start of any text that begins with its own and can go on after
it. -/
theorem reads_chars {expr : Expression} (isArgument : expr.IsArgument) :
    ∀ bound, expr.chars.length ≤ bound → Reads (readWithin? (bound + 1)) expr.chars expr := by
  -- By induction on the shape of the argument. Each part has fewer characters than the whole, so
  -- that a bound on the length of the text bounds the nesting as well.
  induction isArgument with
  | boolean value => exact fun _ _ => reads_boolean value
  | int value => exact fun _ _ => reads_int value
  | long value => exact fun _ _ => reads_long value
  | char unit => exact fun _ _ => reads_char unit
  | string value => exact fun _ _ => reads_string value
  | reference isValid notTrue notFalse => exact fun _ _ => reads_reference isValid notTrue notFalse
  | arrayInit _ ih =>
    intro bound enough
    simp only [chars_arrayInit, List.length_cons, List.length_append] at enough
    obtain ⟨bound, rfl⟩ := Nat.exists_eq_add_of_le' (by omega : 1 ≤ bound)
    apply reads_arrayInit
    intro element member
    apply ih element member
    have shorter := Items.length_le_listText chars _ element member
    omega
  | @anno name arguments isValid _ ih =>
    intro bound enough
    by_cases empty : arguments = []
    · subst empty
      exact reads_marker isValid
    simp only [chars_anno empty, List.length_cons, List.length_append] at enough
    obtain ⟨bound, rfl⟩ := Nat.exists_eq_add_of_le' (by omega : 1 ≤ bound)
    apply reads_anno isValid empty
    intro argument member
    apply ih argument member
    have shorter := Items.length_le_listText chars _ argument member
    omega
  | assign isName _ ih =>
    intro bound enough
    simp only [chars_assign, List.length_cons, List.length_append] at enough
    obtain ⟨bound, rfl⟩ := Nat.exists_eq_add_of_le' (by omega : 1 ≤ bound)
    apply reads_assign isName
    apply ih
    omega

/-- Reading undoes printing. -/
theorem read?_text {anno : Anno} (isRegular : anno.IsRegular) :
    read? (Tree.anno anno).text = some (.anno anno) := by
  have length : (Tree.anno anno).text.length = (Expression.anno anno).chars.length := by
    rw [← String.length_toList, Anno.toList_text]
  have reads := reads_chars isRegular.isArgument _ (Nat.le_refl _) [] trivial
  rw [List.append_nil] at reads
  rw [read?, length, Anno.toList_text, reads]

end Argument

/-- Different annotations are printed to different texts, whatever texts they hold themselves. -/
theorem Anno.text_eq_iff_eq {left right : Anno} (ofLeft : left.IsRegular)
    (ofRight : right.IsRegular) :
    (Tree.anno left).text = (Tree.anno right).text ↔ left = right := by
  constructor
  · intro same
    have read := Argument.read?_text ofLeft
    rw [same, Argument.read?_text ofRight] at read
    exact (Expression.anno.inj (Option.some.inj read)).symm
  · rintro rfl
    rfl

/-- One text that looks like two texts, and an annotation that does have two arguments. -/
theorem Anno.text_eq_iff_eq_of_quotes :
    let one : Anno := ⟨["a", "B"], [.literal .string (.string "x\", n = \\\"")]⟩
    let two : Anno := ⟨["a", "B"], [.literal .string (.string "x"), .assign "n" (.arrayInit
      [.literal .long (.long (-2)), .literal .char (.char 0x27), .anno ⟨["C"], []⟩])]⟩
    one.IsRegular ∧ two.IsRegular ∧
      (Tree.anno one).text = "@a.B(\"x\\\", n = \\\\\\\"\")" ∧
      (Tree.anno two).text = "@a.B(\"x\", n = \x7b-2L, '\\'', @C\x7d)" ∧
      (Tree.anno one).text ≠ (Tree.anno two).text := by
  intro one two
  have isValid : QualifiedName.IsValid ["a", "B"] := ⟨nofun, List.all_eq_true.mp (by decide)⟩
  have ofMarker : (Expression.anno ⟨["C"], []⟩).IsArgument :=
    .anno ⟨nofun, List.all_eq_true.mp (by decide)⟩ nofun
  have ofOne : one.IsRegular := by
    refine ⟨isValid, List.forall_mem_singleton.mpr ?_⟩
    exact .string _
  have ofTwo : two.IsRegular := by
    refine ⟨isValid, List.forall_mem_cons.mpr ⟨.string _, List.forall_mem_singleton.mpr ?_⟩⟩
    apply Expression.IsArgument.assign rfl
    apply Expression.IsArgument.arrayInit
    simp only [List.forall_mem_cons]
    exact ⟨.long _, .char _, ofMarker, nofun⟩
  refine ⟨ofOne, ofTwo, by decide, by decide, ?_⟩
  intro same
  have equal := (Anno.text_eq_iff_eq ofOne ofTwo).mp same
  exact absurd (congrArg (fun anno : Anno => anno.arguments.length) equal) (by decide)

end ClassHeader

import ClassHeader.Proofs.Tree.Reader

/-!
# Arithmetic expressions read back

The reader finds every arithmetic expression in its text, whatever follows, except that it takes the
negation of a negative literal for a decrement (`reads_chars`). So the text determines the
expression up to such negations (`text_eq_iff_joinSigns_eq`), and alone where there are none
(`eq_of_text_eq`).

What is read is stated for each shape of expression, with what is read of its parts as hypotheses.
In an open parenthesis, that takes two things: what is tried first fails, and the shape itself is
read.
-/

namespace ClassHeader.Expression

/-! ### Literals and names -/

theorem ofInt?_toInt (value : Int32) : ofInt? value.toInt = some (.literal .int (.int value)) := by
  simp only [ofInt?, Int32.ofInt_toInt, if_true]

theorem ofWord?_toDigits (number : Nat) : ofWord? (Nat.toDigits 10 number) = ofInt? number := by
  obtain ⟨first, more, digits, isDigit⟩ := toDigits_begins number
  rw [digits, ofWord?, if_pos isDigit, ← digits, natOfWord_toDigits]

theorem ofWord?_name {name : QualifiedName} (isValid : name.IsValid) :
    ofWord? name.text.toList = some (.reference name) := by
  obtain ⟨first, more, begins, notDigit⟩ := isValid.text_begins
  rw [begins, ofWord?, notDigit, ← begins, isValid.ofWord_text]
  rfl

section

variable {rest : List Char} (stops : Stops inName rest) (bound : Nat)
include stops

theorem readWithin?_word {word : List Char} (nonempty : word ≠ [])
    (all : ∀ char ∈ word, inName char = true) :
    readWithin? (bound + 1) (word ++ rest) = (ofWord? word).map (·, rest) := by
  cases word with
  | nil => exact absurd rfl nonempty
  | cons first more =>
    have isPart := all first List.mem_cons_self
    have notOpen : first ≠ '(' := ne_of_inName isPart rfl
    have notSign : first ≠ '-' := ne_of_inName isPart rfl
    -- A word opens neither a group nor a literal with a sign.
    have isAtom : readWithin? (bound + 1) (first :: more ++ rest) =
        readAtom? (first :: more ++ rest) := by
      simp [readWithin?, notOpen]
    rw [isAtom, readAtom?, span_word all stops]
    simp [notSign]

theorem readWithin?_digits (number : Nat) :
    readWithin? (bound + 1) (Nat.toDigits 10 number ++ rest) = (ofInt? number).map (·, rest) := by
  rw [readWithin?_word stops bound Nat.toDigits_ne_nil inName_of_mem_toDigits, ofWord?_toDigits]

theorem readWithin?_sign (number : Nat) :
    readWithin? (bound + 1) ('-' :: (Nat.toDigits 10 number ++ rest)) =
      (ofInt? (-number)).map (·, rest) := by
  have isAtom (input : List Char) : readWithin? (bound + 1) ('-' :: input) =
      (ofInt? (-natOfWord (input.span inName).1)).map (·, (input.span inName).2) := rfl
  rw [isAtom, span_word inName_of_mem_toDigits stops, natOfWord_toDigits]

end

theorem reads_literal (value : Int32) (bound : Nat) :
    Reads (readWithin? (bound + 1)) (literal .int (.int value)).chars
      (.literal .int (.int value)) := by
  intro rest stops
  rcases chars_int value with ⟨number, isNumber, digits⟩ | ⟨number, -, isNegation, digits⟩
  · rw [digits, readWithin?_digits stops, ← isNumber, ofInt?_toInt]
    rfl
  · rw [digits, List.cons_append, readWithin?_sign stops, ← isNegation, ofInt?_toInt]
    rfl

theorem reads_reference {name : QualifiedName} (isValid : name.IsValid) (bound : Nat) :
    Reads (readWithin? (bound + 1)) (reference name).chars (.reference name) := by
  intro rest stops
  rw [chars_reference,
    readWithin?_word stops bound isValid.text_ne_nil isValid.inName_of_mem_text,
    ofWord?_name isValid]
  rfl

/-! ### Casts -/

section

variable {read : Reader} {rest : List Char}

/-- The start of some text is no cast unless a closing parenthesis ends its first word. -/
theorem readCast?_eq_none {word : List Char} {next : Char}
    (all : ∀ char ∈ word, inName char = true) (stops : inName next = false)
    (notClosed : next ≠ ')') : readCast? read (word ++ next :: rest) = none := by
  have noParenthesis : [')', ' '].isPrefixOf? (next :: rest) = none := by
    simp [List.isPrefixOf?, notClosed.symm]
  have spans : (word ++ next :: rest).span inName = (word, next :: rest) := span_word all stops
  rw [readCast?, spans]
  dsimp only
  -- The word can still be a keyword, as a name in an operation can.
  cases ConstantKind.ofKeyword? word with
  | none => rfl
  | some kind =>
    rw [Option.bind_eq_bind, Option.bind_some, noParenthesis]
    rfl

theorem readCast?_symbol {symbol : Char} (isSymbol : inName symbol = false)
    (notClosed : symbol ≠ ')') : readCast? read (symbol :: rest) = none :=
  @readCast?_eq_none read rest [] symbol nofun isSymbol notClosed

theorem readCast?_keyword {kind : ConstantKind} {text : List Char} {operand : Expression}
    (isPrimitive : kind.isPrimitive = true) (reads : Reads read text operand)
    (stops : Stops inName rest) :
    readCast? read (kind.keyword.toList ++ ')' :: ' ' :: (text ++ rest)) =
      some (.cast (.primitive kind) operand, rest) := by
  have all : ∀ char ∈ kind.keyword.toList, inName char = true := by
    apply List.all_eq_true.mp
    cases kind <;> decide
  have spans : (kind.keyword.toList ++ ')' :: ' ' :: (text ++ rest)).span inName =
      (kind.keyword.toList, ')' :: ' ' :: (text ++ rest)) := span_word all rfl
  have parenthesis : [')', ' '].isPrefixOf? (')' :: ' ' :: (text ++ rest)) = some (text ++ rest) :=
    isPrefixOf?_append [')', ' '] _
  rw [readCast?, spans]
  simp [ConstantKind.ofKeyword?_keyword isPrimitive, parenthesis, reads rest stops]

end

theorem reads_cast {kind : ConstantKind} {operand expr : Expression} {bound : Nat}
    (isPrimitive : kind.isPrimitive = true) (reads : Reads (readWithin? bound) operand.chars expr) :
    Reads (readWithin? (bound + 1)) (cast (.primitive kind) operand).chars
      (.cast (.primitive kind) expr) := by
  intro rest stops
  have isCast := readCast?_keyword isPrimitive reads stops
  rw [chars_cast, List.cons_append, List.append_assoc, List.cons_append, List.cons_append,
    readWithin?, readGroup?, isCast]
  rfl

/-! ### Operators before an operand -/

section

variable {read : Reader} {operator : Operator}

theorem readPrefix?_eq_none {input : List Char}
    (other : operator.symbol.toList.isPrefixOf? input = none) :
    readPrefix? read operator input = none := by
  rw [readPrefix?, other]
  rfl

theorem readPrefix?_symbol {text rest : List Char} {operand : Expression}
    (reads : Reads read text operand) :
    readPrefix? read operator (operator.symbol.toList ++ (text ++ ')' :: rest)) =
      some (.unary operator operand, rest) := by
  simp [readPrefix?, isPrefixOf?_append, reads (')' :: rest) rfl, isPrefixOf?_singleton]

theorem Unsigned.isPrefixOf?_symbol {text : List Char} (unsigned : Unsigned text)
    (isPrefix : operator ∈ Operator.prefixes) :
    operator.symbol.toList.isPrefixOf? text = none := by
  cases operator with
  | preIncrement | preDecrement | plus | negate | complement | not =>
    exact unsigned.isPrefixOf?_eq_none (by decide) (by decide) _
  | _ => exact absurd isPrefix (by decide)

/-- Only a literal after the operator of negation begins with the symbol before it. -/
theorem isPrefixOf?_symbol_chars {operand : Expression} (isPrefix : operator ∈ Operator.prefixes)
    (opening : Opening operand)
    (other : ∀ value, operator = .negate → operand ≠ .literal .int (.int value))
    (rest : List Char) : operator.symbol.toList.isPrefixOf? (operand.chars ++ rest) = none := by
  cases opening with
  | word nonempty all => exact (Unsigned.of_word nonempty all).append.isPrefixOf?_symbol isPrefix
  | group inner chars =>
    have unsigned : Unsigned operand.chars := chars ▸ Or.inl rfl
    exact unsigned.append.isPrefixOf?_symbol isPrefix
  | sign value below =>
    obtain ⟨number, digits⟩ := chars_of_neg below
    rw [digits]
    cases operator with
    | negate => exact absurd rfl (other value rfl)
    | preDecrement =>
      -- The number has one sign, and digits follow it.
      exact (Unsigned.of_toDigits number).append.isPrefixOf?_eq_none (by decide) (by decide) []
    | preIncrement | plus | complement | not => rfl
    | _ => exact absurd isPrefix (by decide)

/-- A longer symbol is that of an operator and what follows it, and so cannot be read if what
follows does not begin with the symbol of the operator. -/
theorem readPrefix?_longer {longer : Operator} {text : List Char}
    (isLonger : longer = .preIncrement ∨ longer = .preDecrement)
    (isPrefix : operator ∈ Operator.prefixes)
    (clear : operator.symbol.toList.isPrefixOf? text = none) (other : operator ≠ longer) :
    readPrefix? read longer (operator.symbol.toList ++ text) = none := by
  apply readPrefix?_eq_none
  rcases isLonger with rfl | rfl
  · cases operator with
    | plus => exact clear
    | preDecrement | negate | complement | not => rfl
    | preIncrement => exact absurd rfl other
    | _ => exact absurd isPrefix (by decide)
  · cases operator with
    | negate => exact clear
    | preIncrement | plus | complement | not => rfl
    | preDecrement => exact absurd rfl other
    | _ => exact absurd isPrefix (by decide)

/-- An operator before an operand is read if no longer operator is. -/
theorem readGroup?_leading {text rest : List Char} {operand : Expression}
    (isPrefix : operator ∈ Operator.prefixes)
    (increment : operator ≠ .preIncrement →
      readPrefix? read .preIncrement (operator.symbol.toList ++ (text ++ ')' :: rest)) = none)
    (decrement : operator ≠ .preDecrement →
      readPrefix? read .preDecrement (operator.symbol.toList ++ (text ++ ')' :: rest)) = none)
    (reads : Reads read text operand) :
    readGroup? read (operator.symbol.toList ++ (text ++ ')' :: rest)) =
      some (.unary operator operand, rest) := by
  have hit : readPrefix? read operator (operator.symbol.toList ++ (text ++ ')' :: rest)) =
      some (.unary operator operand, rest) := readPrefix?_symbol reads
  have miss (other : Operator) (isOther : other.symbol.toList.isPrefixOf?
      (operator.symbol.toList ++ (text ++ ')' :: rest)) = none) :
      readPrefix? read other (operator.symbol.toList ++ (text ++ ')' :: rest)) = none :=
    readPrefix?_eq_none isOther
  -- The operators before this one in the list are tried and fail. Where they are not longer, their
  -- symbols differ in the first character.
  have found : Operator.prefixes.findSome?
      (fun other => readPrefix? read other (operator.symbol.toList ++ (text ++ ')' :: rest))) =
        some (.unary operator operand, rest) := by
    cases operator with
    | preIncrement =>
      simp only [Operator.prefixes, List.findSome?_cons, hit]
    | preDecrement =>
      simp only [Operator.prefixes, List.findSome?_cons, hit, increment nofun]
    | plus =>
      simp only [Operator.prefixes, List.findSome?_cons, hit, increment nofun, decrement nofun]
    | negate =>
      simp only [Operator.prefixes, List.findSome?_cons, hit, increment nofun, decrement nofun,
        miss .plus rfl]
    | complement =>
      simp only [Operator.prefixes, List.findSome?_cons, hit, increment nofun, decrement nofun,
        miss .plus rfl, miss .negate rfl]
    | not =>
      simp only [Operator.prefixes, List.findSome?_cons, hit, increment nofun, decrement nofun,
        miss .plus rfl, miss .negate rfl, miss .complement rfl]
    | _ => exact absurd isPrefix (by decide)
  have noCast : readCast? read (operator.symbol.toList ++ (text ++ ')' :: rest)) = none := by
    cases operator with
    | preIncrement | preDecrement | plus | negate | complement | not =>
      exact readCast?_symbol (by decide) (by decide)
    | _ => exact absurd isPrefix (by decide)
  rw [readGroup?, noCast, found]
  rfl

theorem reads_leading {operand expr : Expression} {bound : Nat}
    (isPrefix : operator ∈ Operator.prefixes)
    (clear : ∀ rest, operator.symbol.toList.isPrefixOf? (operand.chars ++ rest) = none)
    (reads : Reads (readWithin? bound) operand.chars expr) :
    Reads (readWithin? (bound + 1)) (unary operator operand).chars (.unary operator expr) := by
  intro rest _
  rw [chars_leading (Operator.precedes_of_mem_prefixes isPrefix), List.cons_append,
    List.append_assoc, List.append_assoc]
  exact readGroup?_leading isPrefix (readPrefix?_longer (Or.inl rfl) isPrefix (clear _))
    (readPrefix?_longer (Or.inr rfl) isPrefix (clear _)) reads

end

/-! ### Operators after an operand -/

section

variable {read : Reader} {operator : Operator} {first second third : Expression} {rest : List Char}

theorem readTail?_trailing (follows : operator.followsOperand = true) :
    readTail? read first (operator.symbol.toList ++ ')' :: rest) =
      some (.unary operator first, rest) := by
  cases operator with
  | postIncrement | postDecrement => rfl
  | _ => cases follows

theorem readTail?_symbol (isInfix : operator ∈ Operator.infixes) (input : List Char) :
    readTail? read first (' ' :: (operator.symbol.toList ++ ' ' :: input)) =
      readOperands? read operator first input := by
  have noSpace : ∀ char ∈ operator.symbol.toList, (char != ' ') = true := by
    apply List.all_eq_true.mp
    cases operator <;> decide
  have spans : (operator.symbol.toList ++ ' ' :: input).span (· != ' ') =
      (operator.symbol.toList, ' ' :: input) := span_word noSpace rfl
  rw [readTail?, spans]
  simp [Operator.ofSymbol?_symbol isInfix, isPrefixOf?_singleton]

theorem readOperands?_binary {text : List Char} (isBinary : operator.isBinary = true)
    (reads : Reads read text second) :
    readOperands? read operator first (text ++ ')' :: rest) =
      some (.binary operator first second, rest) := by
  have notConditional : operator ≠ .conditional := by
    rintro rfl
    cases isBinary
  simp [readOperands?, reads (')' :: rest) rfl, notConditional, isPrefixOf?_singleton]

theorem readOperands?_conditional {whenTrue whenFalse : List Char}
    (readsTrue : Reads read whenTrue second) (readsFalse : Reads read whenFalse third) :
    readOperands? read .conditional first
        (whenTrue ++ ' ' :: ':' :: ' ' :: (whenFalse ++ ')' :: rest)) =
      some (.conditional first second third, rest) := by
  have colon : [' ', ':', ' '].isPrefixOf? (' ' :: ':' :: ' ' :: (whenFalse ++ ')' :: rest)) =
      some (whenFalse ++ ')' :: rest) := isPrefixOf?_append [' ', ':', ' '] _
  have second := readsTrue (' ' :: ':' :: ' ' :: (whenFalse ++ ')' :: rest)) rfl
  simp [readOperands?, second, colon, readsFalse (')' :: rest) rfl, isPrefixOf?_singleton]

end

theorem Unsigned.findSome?_prefixes {text : List Char} (unsigned : Unsigned text) (read : Reader) :
    Operator.prefixes.findSome? (fun operator => readPrefix? read operator text) = none :=
  List.findSome?_eq_none_iff.mpr fun _ isPrefix =>
    readPrefix?_eq_none (unsigned.isPrefixOf?_symbol isPrefix)

section

variable {bound : Nat} {next : Char} (stops : inName next = false) (notClosed : next ≠ ')')
include stops notClosed

/-- A number with a sign is not taken for the negation of the number unless a parenthesis
follows. -/
theorem findSome?_prefixes_sign (number : Nat) (rest : List Char) :
    Operator.prefixes.findSome? (fun operator => readPrefix? (readWithin? (bound + 1)) operator
      ('-' :: (Nat.toDigits 10 number ++ next :: rest))) = none := by
  -- Two operators begin with the sign. The decrement lacks a second sign, the negation its end.
  have notDecrement : ['-'].isPrefixOf? (Nat.toDigits 10 number ++ next :: rest) = none :=
    (Unsigned.of_toDigits number).append.isPrefixOf?_eq_none (by decide) (by decide) []
  have notNegation : readPrefix? (readWithin? (bound + 1)) .negate
      ('-' :: (Nat.toDigits 10 number ++ next :: rest)) = none := by
    have wordStops : Stops inName (next :: rest) := stops
    simp [readPrefix?, Operator.symbol, isPrefixOf?_singleton, readWithin?_digits wordStops,
      notClosed.symm]
  have miss (other : Operator) (isOther : other.symbol.toList.isPrefixOf?
      ('-' :: (Nat.toDigits 10 number ++ next :: rest)) = none) :
      readPrefix? (readWithin? (bound + 1)) other
        ('-' :: (Nat.toDigits 10 number ++ next :: rest)) = none :=
    readPrefix?_eq_none isOther
  simp only [Operator.prefixes, List.findSome?_cons, List.findSome?_nil, notNegation,
    miss .preIncrement rfl, miss .preDecrement notDecrement, miss .plus rfl,
    miss .complement rfl, miss .not rfl]

theorem readGroup?_operation {first expr : Expression} (opening : Opening first)
    (reads : Reads (readWithin? (bound + 1)) first.chars expr) (rest : List Char) :
    readGroup? (readWithin? (bound + 1)) (first.chars ++ next :: rest) =
      readTail? (readWithin? (bound + 1)) expr (next :: rest) := by
  have operation : readOperation? (readWithin? (bound + 1)) (first.chars ++ next :: rest) =
      readTail? (readWithin? (bound + 1)) expr (next :: rest) := by
    rw [readOperation?, reads (next :: rest) stops]
    rfl
  -- A cast and the prefix operators are tried before that, and fail on how the operand opens.
  rw [readGroup?, operation]
  cases opening with
  | word nonempty all =>
    have unsigned := Unsigned.of_word nonempty all
    rw [readCast?_eq_none all stops notClosed, unsigned.append.findSome?_prefixes]
    rfl
  | sign value below =>
    obtain ⟨number, digits⟩ := chars_of_neg below
    rw [digits, List.cons_append, readCast?_symbol (by decide) (by decide),
      findSome?_prefixes_sign stops notClosed]
    rfl
  | group inner chars =>
    have unsigned : Unsigned ('(' :: (inner ++ next :: rest)) := Or.inl rfl
    rw [chars, List.cons_append, readCast?_symbol (by decide) (by decide),
      unsigned.findSome?_prefixes]
    rfl

theorem reads_operation {first expr result : Expression} {tail : List Char}
    (opening : Opening first) (reads : Reads (readWithin? (bound + 1)) first.chars expr)
    (readsTail : ∀ rest, readTail? (readWithin? (bound + 1)) expr (next :: (tail ++ rest)) =
      some (result, rest)) :
    Reads (readWithin? (bound + 2)) ('(' :: (first.chars ++ next :: tail)) result := by
  intro rest _
  rw [List.cons_append, List.append_assoc, List.cons_append, ← readsTail]
  exact readGroup?_operation stops notClosed opening reads (tail ++ rest)

end

section

variable {bound : Nat} {operand first second third : Expression} (opening : Opening operand)
  (reads : Reads (readWithin? (bound + 1)) operand.chars first)
include opening reads

theorem reads_trailing {operator : Operator} (follows : operator.followsOperand = true) :
    Reads (readWithin? (bound + 2)) (unary operator operand).chars (.unary operator first) := by
  have readsTail (rest : List Char) :
      readTail? (readWithin? (bound + 1)) first (operator.symbol.toList ++ ')' :: rest) =
        some (.unary operator first, rest) := readTail?_trailing follows
  rw [chars_trailing follows]
  cases operator with
  | postIncrement => exact reads_operation (by decide) (by decide) opening reads readsTail
  | postDecrement => exact reads_operation (by decide) (by decide) opening reads readsTail
  | _ => cases follows

theorem reads_binary {operator : Operator} {right : Expression}
    (isBinary : operator.isBinary = true)
    (readsRight : Reads (readWithin? (bound + 1)) right.chars second) :
    Reads (readWithin? (bound + 2)) (binary operator operand right).chars
      (.binary operator first second) := by
  rw [chars_binary]
  apply reads_operation (by decide) (by decide) opening reads
  intro rest
  rw [List.append_assoc, List.cons_append, List.append_assoc, List.singleton_append,
    readTail?_symbol (Operator.mem_infixes_of_isBinary isBinary),
    readOperands?_binary isBinary readsRight]

theorem reads_conditional {whenTrue whenFalse : Expression}
    (readsTrue : Reads (readWithin? (bound + 1)) whenTrue.chars second)
    (readsFalse : Reads (readWithin? (bound + 1)) whenFalse.chars third) :
    Reads (readWithin? (bound + 2)) (conditional operand whenTrue whenFalse).chars
      (.conditional first second third) := by
  rw [chars_conditional]
  apply reads_operation (by decide) (by decide) opening reads
  intro rest
  have isInfix : Operator.conditional ∈ Operator.infixes := by decide
  simp only [List.cons_append, List.append_assoc, List.nil_append]
  exact (readTail?_symbol isInfix _).trans (readOperands?_conditional readsTrue readsFalse)

end

/-! ### Negations of literals -/

/-- A sign before a number that is none of an int is read with it, as the sign of a literal. -/
theorem reads_negate_of_eq_none {value : Int32} {number : Nat} (positive : 0 < number)
    (isNegation : value.toInt = -number) (noInt : ofInt? number = none) (bound : Nat) :
    Reads (readWithin? (bound + 2)) (unary .negate (.literal .int (.int value))).chars
      (.unary .negate (.literal .int (.int value))) := by
  intro rest _
  have digits : (literal .int (.int value)).chars = '-' :: Nat.toDigits 10 number := by
    rw [chars_literal, Constant.text, isNegation, toList_repr_neg positive]
  -- Two signs are tried as a decrement first, but there is no literal after them.
  have noDecrement : readPrefix? (readWithin? (bound + 1)) .preDecrement
      ('-' :: '-' :: (Nat.toDigits 10 number ++ ')' :: rest)) = none := by
    have signs : ['-', '-'].isPrefixOf? ('-' :: '-' :: (Nat.toDigits 10 number ++ ')' :: rest)) =
        some (Nat.toDigits 10 number ++ ')' :: rest) := isPrefixOf?_append ['-', '-'] _
    have stops : Stops inName (')' :: rest) := rfl
    simp [readPrefix?, Operator.symbol, signs, readWithin?_digits stops, noInt]
  rw [chars_leading rfl, List.cons_append, List.append_assoc, List.append_assoc]
  apply readGroup?_leading (by decide) (fun _ => readPrefix?_eq_none rfl) _
    (reads_literal value bound)
  intro _
  rw [digits]
  exact noDecrement

theorem reads_negateInt (value : Int32) (bound : Nat) :
    Reads (readWithin? (bound + 2)) (unary .negate (.literal .int (.int value))).chars
      (negateInt value) := by
  by_cases joins : Int32.minValue < value ∧ value < 0
  · obtain ⟨least, below⟩ := (joins_iff value).mp joins
    have unsigned := (chars_opposite least below).2
    -- The text is that of a decrement, and is read as any decrement is.
    rw [← chars_negateInt, negateInt, if_pos joins]
    exact reads_leading (by decide) (fun _ => unsigned.append.isPrefixOf?_symbol (by decide))
      (reads_literal (-value) bound)
  · rw [negateInt, if_neg joins]
    rcases chars_int value with ⟨number, -, digits⟩ | ⟨number, positive, isNegation, -⟩
    · have unsigned : Unsigned (literal .int (.int value)).chars := digits ▸ .of_toDigits number
      exact reads_leading (by decide) (fun _ => unsigned.append.isPrefixOf?_symbol (by decide))
        (reads_literal value bound)
    · have isLeast : number = 0x80000000 := by
        have least := value.le_toInt
        rw [joins_iff] at joins
        omega
      have noInt : ofInt? number = none := by
        rw [isLeast]
        decide
      exact reads_negate_of_eq_none positive isNegation noInt bound

/-! ### Expressions -/

/-- An arithmetic expression is read from the start of any text that begins with its own. -/
theorem reads_chars {expr : Expression} (arithmetic : expr.IsArithmetic) :
    ∀ bound, expr.chars.length < bound → Reads (readWithin? bound) expr.chars expr.joinSigns := by
  -- By induction on the shape of the expression. Each part has fewer characters than the whole, so
  -- that a bound on the length of the text bounds the nesting as well.
  induction arithmetic with
  | literal value =>
    intro bound enough
    obtain ⟨bound, rfl⟩ := Nat.exists_eq_add_of_le' (Nat.one_le_of_lt enough)
    exact reads_literal value bound
  | reference isValid =>
    intro bound enough
    obtain ⟨bound, rfl⟩ := Nat.exists_eq_add_of_le' (Nat.one_le_of_lt enough)
    exact reads_reference isValid bound
  | cast isPrimitive _ ih =>
    intro bound enough
    simp only [chars_cast, List.length_cons, List.length_append] at enough
    obtain ⟨bound, rfl⟩ := Nat.exists_eq_add_of_le' (by omega : 1 ≤ bound)
    exact reads_cast isPrimitive (ih bound (by omega))
  | @unary operator operand isUnary arithmetic ih =>
    intro bound enough
    rcases joinSigns_unary operator operand with ⟨value, rfl, rfl⟩ | ⟨other, joined⟩
    · simp only [@chars_leading .negate rfl, List.length_cons, List.length_append] at enough
      obtain ⟨bound, rfl⟩ := Nat.exists_eq_add_of_le' (by omega : 2 ≤ bound)
      exact reads_negateInt value bound
    · rw [joined]
      cases follows : operator.followsOperand with
      | false =>
        simp only [chars_leading follows, List.length_cons, List.length_append] at enough
        obtain ⟨bound, rfl⟩ := Nat.exists_eq_add_of_le' (by omega : 1 ≤ bound)
        have isPrefix := Operator.mem_prefixes_of_isUnary isUnary follows
        exact reads_leading isPrefix (isPrefixOf?_symbol_chars isPrefix arithmetic.opening other)
          (ih bound (by omega))
      | true =>
        simp only [chars_trailing follows, List.length_cons, List.length_append] at enough
        obtain ⟨bound, rfl⟩ := Nat.exists_eq_add_of_le' (by omega : 2 ≤ bound)
        exact reads_trailing arithmetic.opening (ih (bound + 1) (by omega)) follows
  | binary isBinary ofLeft _ leftIH rightIH =>
    intro bound enough
    simp only [chars_binary, List.length_cons, List.length_append] at enough
    obtain ⟨bound, rfl⟩ := Nat.exists_eq_add_of_le' (by omega : 2 ≤ bound)
    exact reads_binary ofLeft.opening (leftIH (bound + 1) (by omega)) isBinary
      (rightIH (bound + 1) (by omega))
  | conditional ofCondition _ _ conditionIH trueIH falseIH =>
    intro bound enough
    simp only [chars_conditional, List.length_cons, List.length_append] at enough
    obtain ⟨bound, rfl⟩ := Nat.exists_eq_add_of_le' (by omega : 2 ≤ bound)
    exact reads_conditional ofCondition.opening (conditionIH (bound + 1) (by omega))
      (trueIH (bound + 1) (by omega)) (falseIH (bound + 1) (by omega))

/-- Reading undoes printing, except that negations of negative literals come back as decrements. -/
theorem read?_text {expr : Expression} (arithmetic : expr.IsArithmetic) :
    read? (Tree.expression expr).text = some expr.joinSigns := by
  have length : (Tree.expression expr).text.length = expr.chars.length := by
    rw [← String.length_toList, toList_text]
  have reads := reads_chars arithmetic (expr.chars.length + 1) (Nat.lt_succ_self _) [] trivial
  rw [List.append_nil] at reads
  rw [read?, length, toList_text, reads]

theorem joinSigns_eq_of_text_eq {left right : Expression} (ofLeft : left.IsArithmetic)
    (ofRight : right.IsArithmetic)
    (same : (Tree.expression left).text = (Tree.expression right).text) :
    left.joinSigns = right.joinSigns := by
  have read := read?_text ofLeft
  rw [same, read?_text ofRight] at read
  exact (Option.some.inj read).symm

/-- Arithmetic expressions are printed to the same text just if they are the same once decrements
stand in place of the negations of negative literals. -/
theorem text_eq_iff_joinSigns_eq {left right : Expression} (ofLeft : left.IsArithmetic)
    (ofRight : right.IsArithmetic) :
    (Tree.expression left).text = (Tree.expression right).text ↔
      left.joinSigns = right.joinSigns := by
  constructor
  · exact joinSigns_eq_of_text_eq ofLeft ofRight
  · intro same
    rw [← String.toList_inj, toList_text, toList_text, ← chars_joinSigns ofLeft, same,
      chars_joinSigns ofRight]

/-- Expressions that share a text inside a cast and a sum, and one that is told apart from them. -/
theorem text_eq_iff_joinSigns_eq_of_sum :
    let name : Expression := .reference ["A", "B"]
    let negation : Expression := .unary .negate (.literal .int (.int (-5)))
    let decrement : Expression := .unary .preDecrement (.literal .int (.int 5))
    let sum : Expression → Expression := fun operand =>
      .binary .add name (.cast (.primitive .long) operand)
    (sum negation).IsArithmetic ∧ (sum decrement).IsArithmetic ∧ (sum name).IsArithmetic ∧
      (Tree.expression (sum negation)).text = (Tree.expression (sum decrement)).text ∧
      (Tree.expression (sum negation)).text ≠ (Tree.expression (sum name)).text := by
  intro name negation decrement sum
  have ofName : name.IsArithmetic := .reference ⟨nofun, by
    intro segment member
    rcases List.mem_pair.mp member with rfl | rfl
    · decide
    · decide⟩
  have ofSum {operand : Expression} (ofOperand : operand.IsArithmetic) :
      (sum operand).IsArithmetic := .binary rfl ofName (.cast rfl ofOperand)
  have ofNegation : negation.IsArithmetic := .unary rfl (.literal (-5))
  have ofDecrement : decrement.IsArithmetic := .unary rfl (.literal 5)
  refine ⟨ofSum ofNegation, ofSum ofDecrement, ofSum ofName, ?_, ?_⟩
  · exact (text_eq_iff_joinSigns_eq (ofSum ofNegation) (ofSum ofDecrement)).mpr rfl
  · intro same
    exact nomatch (text_eq_iff_joinSigns_eq (ofSum ofNegation) (ofSum ofName)).mp same

/-- Different expressions with one text. -/
theorem texts_of_double_sign :
    IsArithmetic (.unary .negate (.literal .int (.int (-5)))) ∧
      IsArithmetic (.unary .preDecrement (.literal .int (.int 5))) ∧
      (Tree.expression (.unary .negate (.literal .int (.int (-5))))).text = "(--5)" ∧
      (Tree.expression (.unary .preDecrement (.literal .int (.int 5)))).text = "(--5)" ∧
      unary .negate (.literal .int (.int (-5))) ≠
        unary .preDecrement (.literal .int (.int 5)) :=
  ⟨.unary rfl (.literal (-5)), .unary rfl (.literal 5), by decide, by decide, nofun⟩

/-- Arithmetic expressions in which no negative literal is negated are told apart by their texts. -/
theorem eq_of_text_eq {left right : Expression} (ofLeft : left.IsArithmetic)
    (ofRight : right.IsArithmetic) (apart : ¬ left.JoinsSigns) (apart' : ¬ right.JoinsSigns)
    (same : (Tree.expression left).text = (Tree.expression right).text) : left = right :=
  calc left = left.joinSigns := (joinSigns_eq_self apart).symm
    _ = right.joinSigns := joinSigns_eq_of_text_eq ofLeft ofRight same
    _ = right := joinSigns_eq_self apart'

end ClassHeader.Expression

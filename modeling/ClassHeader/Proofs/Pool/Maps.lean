import ClassHeader.Proofs.Pool.Canonical

/-!
# The maps of a pool as one

The seven maps are one look-up of entries by their canonical forms. All seven ways to add a constant
are then one: look an entry up, and append it and note its index if it is not there. A class or
string constant does this twice, for its text and for itself.
-/

namespace ClassHeader.Pool

/-- The index that is noted for a canonical entry. -/
def lookup? (pool : Pool) : Entry → Option UInt16
  | .utf8 text => pool.utf8s[text]?
  | .classInfo text => pool.classInfos[text]?
  | .string text => pool.strings[text]?
  | .integer value => pool.integers[value]?
  | .long value => pool.longs[value]?
  | .float value => pool.floats[value]?
  | .double value => pool.doubles[value]?

/-- Notes the index of an entry under its canonical form. -/
def remember (entry : Entry) (index : UInt16) (pool : Pool) : Pool :=
  match entry with
  | .utf8 text => { pool with utf8s := pool.utf8s.insert text index }
  | .classInfo text => { pool with classInfos := pool.classInfos.insert text index }
  | .string text => { pool with strings := pool.strings.insert text index }
  | .integer value => { pool with integers := pool.integers.insert value index }
  | .long value => { pool with longs := pool.longs.insert value index }
  | .float value => { pool with floats := pool.floats.insert value.canonical index }
  | .double value => { pool with doubles := pool.doubles.insert value.canonical index }

/-- The pool with one more entry, for which there is room. -/
def insert (pool : Pool) (entry : Entry) : Pool :=
  remember entry pool.next
    { pool with
      entries := pool.entries.push entry
      next := (pool.next.toNat + entry.width).toUInt16 }

/-- Finds an entry, or adds it if there is room. -/
def addEntry (pool : Pool) (entry : Entry) : Outcome :=
  match pool.lookup? entry.canonical with
  | some index => pool.found index
  | none => pool.append entry (remember entry)

/-- The entries of a pool without its maps and its counter. -/
def ledger (pool : Pool) : Ledger := ⟨pool.entries.toList⟩

@[simp] theorem lookup?_empty (key : Entry) : empty.lookup? key = none := by
  cases key <;> simp [lookup?, empty]

@[simp] theorem ledger_empty : empty.ledger = .empty := rfl

/-! ### Noting and inserting -/

variable (pool : Pool)

/-- Noting an entry changes the answer for its canonical form, and no other answer. -/
theorem lookup?_remember (entry : Entry) (index : UInt16) (key : Entry) :
    (remember entry index pool).lookup? key =
      if entry.canonical = key then some index else pool.lookup? key := by
  cases entry <;> cases key <;>
    simp [remember, lookup?, Entry.canonical, Std.HashMap.getElem?_insert]

@[simp] theorem next_remember (entry : Entry) (index : UInt16) :
    (remember entry index pool).next = pool.next := by
  cases entry <;> rfl

@[simp] theorem entries_remember (entry : Entry) (index : UInt16) :
    (remember entry index pool).entries = pool.entries := by
  cases entry <;> rfl

theorem lookup?_insert (entry key : Entry) :
    (pool.insert entry).lookup? key =
      if entry.canonical = key then some pool.next else pool.lookup? key := by
  rw [insert, lookup?_remember]
  cases key <;> rfl

@[simp] theorem ledger_insert (entry : Entry) :
    (pool.insert entry).ledger = pool.ledger.append entry := by
  simp [insert, ledger, Ledger.append]

theorem toNat_next_insert (entry : Entry) (room : pool.next.toNat + entry.width ≤ 65535) :
    (pool.insert entry).next.toNat = pool.next.toNat + entry.width := by
  rw [insert, next_remember]
  -- The counter is kept in 16 bits and would wrap without the room.
  exact Nat.mod_eq_of_lt (Nat.lt_succ_of_le room)

/-! ### Adding -/

theorem nextAfter_of_room (kind : EntryKind) (others : Nat)
    (room : pool.next.toNat + kind.width + others ≤ 65535) :
    pool.nextAfter kind others = .ok (pool.next.toNat + kind.width + others).toUInt16 :=
  if_pos (Nat.lt_succ_of_le room)

theorem nextAfter_of_full (kind : EntryKind) (others : Nat)
    (full : 65535 < pool.next.toNat + kind.width + others) :
    pool.nextAfter kind others = .error ⟨kind, pool.next⟩ :=
  if_neg (Nat.not_lt_of_le full)

theorem addEntry_of_some {entry : Entry} {index : UInt16}
    (known : pool.lookup? entry.canonical = some index) :
    pool.addEntry entry = pool.found index := by
  rw [addEntry, known]

theorem addEntry_of_room {entry : Entry} (unknown : pool.lookup? entry.canonical = none)
    (room : pool.next.toNat + entry.width ≤ 65535) :
    pool.addEntry entry = ⟨pool.insert entry, .ok pool.next, [.added pool.next entry]⟩ := by
  rw [addEntry, unknown, append, nextAfter_of_room pool entry.kind 0 room]
  rfl

theorem addEntry_of_full {entry : Entry} (unknown : pool.lookup? entry.canonical = none)
    (full : 65535 < pool.next.toNat + entry.width) :
    pool.addEntry entry = ⟨pool, .error ⟨entry.kind, pool.next⟩, []⟩ := by
  rw [addEntry, unknown, append, nextAfter_of_full pool entry.kind 0 full]

/-- A constant that refers to no text is found or added as an entry. -/
theorem add_of_plain {request : Request} (plain : request.text? = none) (index : UInt16) :
    pool.add request = pool.addEntry (request.entry index) := by
  cases request <;> cases plain <;> rfl

/-- A constant that refers to a text is found or added as an entry once the text is there. -/
theorem add_of_referring {request : Request} {text : String}
    (refers : request.text? = some text) :
    pool.add request = pool.appendReferring request.kind text fun index pool =>
      pool.addEntry (request.entry index) := by
  cases request <;> cases refers <;> rfl

/-- If the text is there, only the entry that refers to it is looked up or added. -/
theorem add_of_known_text {request : Request} {text : String} {index : UInt16}
    (refers : request.text? = some text) (known : pool.lookup? (.utf8 text) = some index) :
    pool.add request = pool.addEntry (request.entry index) := by
  rw [add_of_referring pool refers, appendReferring, show pool.utf8s[text]? = some index from known]

/-- If the text is not there and there is no room for it and the entry that refers to it, nothing
is added. -/
theorem add_of_unknown_text_of_full {request : Request} {text : String}
    (refers : request.text? = some text) (unknown : pool.lookup? (.utf8 text) = none)
    (full : 65535 < pool.next.toNat + request.kind.width + 1) :
    pool.add request = ⟨pool, .error ⟨request.kind, pool.next⟩, []⟩ := by
  rw [add_of_referring pool refers, appendReferring, show pool.utf8s[text]? = none from unknown]
  dsimp only
  rw [nextAfter_of_full pool request.kind EntryKind.utf8.width full]

/-- If the text is not there and there is room, the text is added and the entry that refers to it is
looked up or added after it. -/
theorem add_of_unknown_text_of_room {request : Request} {text : String}
    (refers : request.text? = some text) (unknown : pool.lookup? (.utf8 text) = none)
    (room : pool.next.toNat + request.kind.width + 1 ≤ 65535) :
    pool.add request =
      (⟨pool.insert (.utf8 text), .ok pool.next, [.added pool.next (.utf8 text)]⟩ : Outcome).andThen
        fun index pool => pool.addEntry (request.entry index) := by
  -- Where text and entry fit together, the text alone does.
  have textRoom : pool.next.toNat + (Entry.utf8 text).width ≤ 65535 := by
    have := request.kind.width_pos
    change pool.next.toNat + 1 ≤ 65535
    omega
  have added : pool.addEntry (.utf8 text) = _ := pool.addEntry_of_room unknown textRoom
  rw [add_of_referring pool refers, appendReferring, show pool.utf8s[text]? = none from unknown,
    ← added]
  dsimp only
  rw [nextAfter_of_room pool request.kind EntryKind.utf8.width room]
  rfl

end ClassHeader.Pool

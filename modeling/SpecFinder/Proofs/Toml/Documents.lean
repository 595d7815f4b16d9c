import SpecFinder.Proofs.Toml.Scalars

/-!
# Documents read back

A written document is read as the tables of its sections, with the entries in their order.
Each line is read on its own: a header opens a new table at the end of the document, and an
entry goes to the end of the table that was opened last.  For this the names of the sections
are distinct, and so are the names within each of them.
-/

namespace SpecFinder.Toml

variable {room : Nat}

/-! ## Tables -/

namespace Table

theorem get?_append_of_absent {front : Table} {name : Text} (absent : name ∉ front.map Prod.fst)
    (back : Table) : Table.get? (front ++ back) name = Table.get? back name := by
  have misses : front.lookup name = none := by
    rw [List.lookup_eq_none_iff]
    intro entry member
    simp only [bne_iff_ne, ne_eq]
    rintro rfl
    exact absent (List.mem_map_of_mem member)
  simp [Table.get?, List.lookup_append, misses]

theorem get?_of_absent {table : Table} {name : Text} (absent : name ∉ table.map Prod.fst) :
    Table.get? table name = none := by
  simpa [Table.get?] using get?_append_of_absent absent []

theorem set_append_of_absent {front : Table} {name : Text} (absent : name ∉ front.map Prod.fst)
    (back : Table) (value : Value) :
    Table.set (front ++ back) name value = front ++ Table.set back name value := by
  induction front with
  | nil => rfl
  | cons entry front ih =>
      simp only [List.map_cons, List.mem_cons, not_or] at absent
      simp [Table.set, Ne.symm absent.1, ih absent.2]

theorem set_of_absent {table : Table} {name : Text} (absent : name ∉ table.map Prod.fst)
    (value : Value) : Table.set table name value = table ++ [(name, value)] := by
  simpa [Table.set] using set_append_of_absent absent [] value

end Table

/-! ## Bare names -/

/-- Whether a name is written without quotes. -/
def IsBareName (name : Text) : Prop := name ≠ [] ∧ ∀ char ∈ name, isBare char = true

theorem isBareName_of_all {name : Text} (checked : (!name.isEmpty && name.all isBare) = true) :
    IsBareName name := by
  simp only [Bool.and_eq_true, Bool.not_eq_true', List.isEmpty_eq_false_iff,
    List.all_eq_true] at checked
  exact checked

theorem ne_of_isBare {char mark : Char} (bare : isBare char = true)
    (notBare : isBare mark = false) : char ≠ mark := by
  rintro rfl
  simp [bare] at notBare

theorem isSpace_of_isBare {char : Char} (bare : isBare char = true) : isSpace char = false := by
  have notSpace : char ≠ ' ' := ne_of_isBare bare (by decide)
  have notTab : char ≠ '\t' := ne_of_isBare bare (by decide)
  simp [isSpace, notSpace, notTab]

namespace IsBareName

variable {name : Text}

/-- A bare name begins with a character that is neither white nor a mark. -/
theorem exists_cons (bare : IsBareName name) :
    ∃ first more, name = first :: more ∧ isBare first = true := by
  rcases bare with ⟨notEmpty, areBare⟩
  cases name with
  | nil => exact absurd rfl notEmpty
  | cons first more => exact ⟨first, more, rfl, areBare first (by simp)⟩

theorem dropSpaces_append (bare : IsBareName name) (rest : Text) :
    dropSpaces (name ++ rest) = name ++ rest := by
  rcases bare.exists_cons with ⟨first, more, rfl, isBare⟩
  simp [dropSpaces, isSpace_of_isBare isBare]

/-- A bare name is read up to the first character that is not bare. -/
theorem readName_append (bare : IsBareName name) {mark : Char} (notBare : isBare mark = false)
    (rest : Text) : readName (name ++ mark :: rest) = .ok (name, mark :: rest) := by
  have taken : (name ++ mark :: rest).takeWhile isBare = name := by
    rw [List.takeWhile_append_of_pos bare.2]
    simp [notBare]
  rcases bare.exists_cons with ⟨first, more, rfl, isBare⟩
  rw [List.cons_append] at taken ⊢
  rw [readName]
  · simp [taken]
  · intro _ begins
    exact ne_of_isBare isBare (by decide) (List.cons.inj begins).1
  · intro _ begins
    exact ne_of_isBare isBare (by decide) (List.cons.inj begins).1

/-- A bare name without a dot behind it is a whole key. -/
theorem readKey_append (bare : IsBareName name) {mark : Char} (notBare : isBare mark = false)
    {rest : Text} (noDot : (dropSpaces (mark :: rest)).head? ≠ some '.') (steps : Nat) :
    readKey (steps + 1) (name ++ mark :: rest) = .ok ([name], dropSpaces (mark :: rest)) := by
  have read := bare.readName_append notBare rest
  rw [readKey, read]
  simp only [bind, Except.bind]
  cases behind : dropSpaces (mark :: rest) with
  | nil => rfl
  | cons next rest =>
      have notDot : next ≠ '.' := by simpa [behind] using noDot
      simp [notDot, pure, Except.pure]

end IsBareName

/-! ## Lines -/

/-- A written scalar does not begin with white space. -/
theorem dropSpaces_write (scalar : Scalar) (rest : Text) :
    dropSpaces (scalar.write ++ rest) = scalar.write ++ rest := by
  cases scalar with
  | string text => rfl
  | bool value => cases value <;> rfl
  | int value =>
      cases value with
      | negSucc count => rfl
      | ofNat count =>
          cases written : Text.ofNat count with
          | nil => exact absurd written Nat.toDigits_ne_nil
          | cons digit digits =>
              have isDigit : digit.isDigit = true := isDigit_of_mem_ofNat (by rw [written]; simp)
              have notSpace : digit ≠ ' ' := ne_of_isDigit isDigit (by decide)
              have notTab : digit ≠ '\t' := ne_of_isDigit isDigit (by decide)
              simp [Scalar.write, Text.ofInt, written, dropSpaces, isSpace, notSpace, notTab]

namespace Document

@[simp] theorem readLines_nil (room steps : Nat) (document : Document) :
    readLines room steps document [] = .ok document := by
  cases steps <;> rfl

/-- A line that is read up to its end leads on to the next one. -/
theorem readLines_of_readStatement {document next : Document} {text rest : Text}
    (read : document.readStatement room (dropSpaces text) = .ok (next, '\n' :: rest))
    (steps : Nat) :
    readLines room (steps + 1) document text = readLines room steps next rest := by
  have noSpace : dropSpaces ('\n' :: rest) = '\n' :: rest := rfl
  have noComment : dropComment ('\n' :: rest) = .ok ('\n' :: rest) := rfl
  simp only [readLines, read, bind, Except.bind, noSpace, noComment]

theorem readLines_blank (steps : Nat) (document : Document) (rest : Text) :
    readLines room (steps + 1) document ('\n' :: rest) = readLines room steps document rest := by
  apply readLines_of_readStatement
  rfl

/-- A header opens its table. -/
theorem readLines_header {document next : Document} {name : Text} (bare : IsBareName name)
    (opened : document.settle.openTable [name] = .ok next) (steps : Nat) (rest : Text) :
    readLines room (steps + 1) document ('[' :: name ++ "]\n".toList ++ rest) =
      readLines room steps next rest := by
  apply readLines_of_readStatement
  have whole : '[' :: name ++ "]\n".toList ++ rest = '[' :: (name ++ ']' :: '\n' :: rest) := by
    simp
  have key (steps : Nat) : readKey (steps + 1) (name ++ ']' :: '\n' :: rest) =
      .ok ([name], ']' :: '\n' :: rest) :=
    bare.readKey_append (by decide) (by simp [dropSpaces, isSpace]) steps
  have line : document.readHeader (name ++ ']' :: '\n' :: rest) = .ok (next, '\n' :: rest) := by
    have trimmed := bare.dropSpaces_append (']' :: '\n' :: rest)
    rcases bare.exists_cons with ⟨first, more, rfl, isBare⟩
    rw [List.cons_append] at trimmed key ⊢
    rw [readHeader]
    · simp [trimmed, key, opened, bind, Except.bind, pure, Except.pure]
    · intro _ begins
      exact ne_of_isBare isBare (by decide) (List.cons.inj begins).1
  rw [whole]
  exact line

/-- An entry is set in the table that is open. -/
theorem readLines_entry {document next : Document} {name : Text} (bare : IsBareName name)
    {scalar : Scalar} (short : scalar.IsShort)
    (set : document.set [name] scalar.value = .ok next) (room steps : Nat) (rest : Text) :
    readLines room (steps + 1) document (name ++ " = ".toList ++ scalar.write ++ ['\n'] ++ rest) =
      readLines room steps next rest := by
  apply readLines_of_readStatement
  have whole : name ++ " = ".toList ++ scalar.write ++ ['\n'] ++ rest =
      name ++ ' ' :: '=' :: ' ' :: (scalar.write ++ '\n' :: rest) := by
    simp
  have key (steps : Nat) :
      readKey (steps + 1) (name ++ ' ' :: '=' :: ' ' :: (scalar.write ++ '\n' :: rest)) =
        .ok ([name], '=' :: ' ' :: (scalar.write ++ '\n' :: rest)) :=
    bare.readKey_append (by decide) (by simp [dropSpaces, isSpace]) steps
  have value : dropSpaces (' ' :: (scalar.write ++ '\n' :: rest)) = scalar.write ++ '\n' :: rest :=
    dropSpaces_write scalar ('\n' :: rest)
  have trimmed := bare.dropSpaces_append (' ' :: '=' :: ' ' :: (scalar.write ++ '\n' :: rest))
  rw [whole, trimmed]
  have entry : document.readEntry room
      (name ++ ' ' :: '=' :: ' ' :: (scalar.write ++ '\n' :: rest)) =
        .ok (next, '\n' :: rest) := by
    rw [readEntry, key]
    simp [bind, Except.bind, value, readValue_write short, set, pure, Except.pure]
  rcases bare.exists_cons with ⟨first, more, rfl, isBare⟩
  have noBreak : first ≠ '\n' := ne_of_isBare isBare (by decide)
  have noComment : first ≠ '#' := ne_of_isBare isBare (by decide)
  rw [List.cons_append] at entry ⊢
  rw [readStatement]
  · simp [noBreak, noComment, entry]
  · exact ne_of_isBare isBare (by decide)

/-! ## Sections -/

/-- A document whose tables were all opened by headers: it has declared no others, no value
in it is closed, and no entry has made a table. -/
structure IsPlain (document : Document) : Prop where
  closed : document.closed = []
  pending : document.pending = []
  declared : ∀ key ∈ document.declared, ∃ name ∈ document.table.map Prod.fst, key = [name]

/-- A new header puts an empty table at the end. -/
theorem openTable_of_absent {document : Document} (plain : document.IsPlain) {name : Text}
    (absent : name ∉ document.table.map Prod.fst) :
    document.settle.openTable [name] = .ok { document with
      table := document.table ++ [(name, .table [])]
      header := [name]
      declared := [name] :: document.declared } := by
  have unknown : [name] ∉ document.declared := by
    intro declared
    rcases plain.declared _ declared with ⟨known, member, same⟩
    rw [List.singleton_inj.mp same] at absent
    exact absent member
  have settled : document.settle = document := by
    cases document
    have pending := plain.pending
    simp only at pending
    simp [settle, pending]
  rw [settled, openTable]
  simp [unknown, isClosed, plain.closed, changeAt, Table.get?_of_absent absent,
    Table.set_of_absent absent]

theorem IsPlain.openTable {document : Document} (plain : document.IsPlain) (name : Text) :
    IsPlain { document with
      table := document.table ++ [(name, .table [])]
      header := [name]
      declared := [name] :: document.declared } where
  closed := plain.closed
  pending := plain.pending
  declared := by
    intro key declared
    rcases List.mem_cons.mp declared with rfl | before
    · exact ⟨name, by simp, rfl⟩
    · rcases plain.declared key before with ⟨known, member, same⟩
      exact ⟨known, by simp [member], same⟩

/-- A document whose last table is open and holds some entries. -/
structure IsAt (document : Document) (front : Table) (name : Text) (entries : Table) : Prop where
  plain : document.IsPlain
  table : document.table = front ++ [(name, .table entries)]
  header : document.header = [name]
  absent : name ∉ front.map Prod.fst

/-- A new entry goes to the end of the open table. -/
theorem IsAt.set {document : Document} {front entries : Table} {header name : Text}
    (isAt : document.IsAt front header entries) (absent : name ∉ entries.map Prod.fst)
    (scalar : Scalar) :
    ∃ next, document.set [name] scalar.value = .ok next ∧
      next.IsAt front header (entries ++ [(name, scalar.value)]) := by
  have isOpen : scalar.value.isClosed = false := by cases scalar <;> rfl
  have found : Table.get? document.table header = some (.table entries) := by
    rw [isAt.table, Table.get?_append_of_absent isAt.absent]
    simp [Table.get?]
  have changed (inner : Value) :
      Table.set document.table header inner = front ++ [(header, inner)] := by
    rw [isAt.table, Table.set_append_of_absent isAt.absent]
    simp [Table.set]
  refine ⟨{ document with
      table := front ++ [(header, .table (entries ++ [(name, scalar.value)]))] },
    ?_, ⟨⟨isAt.plain.closed, isAt.plain.pending, ?_⟩, rfl, isAt.header, isAt.absent⟩⟩
  · rw [Document.set]
    simp [tablesOn, isAt.header, isClosed, isAt.plain.closed, changeAt, found, setNew,
      Table.get?_of_absent absent, Table.set_of_absent absent, changed, isOpen]
  · have sameNames := isAt.plain.declared
    simpa [isAt.table] using sameNames

end Document

/-- A section all of whose names are bare and distinct, and whose integers are not too long
to be read. -/
structure Section.IsWritable (part : Section) : Prop where
  bareName : IsBareName part.name
  bareNames : ∀ entry ∈ part.entries, IsBareName entry.1
  distinct : (part.entries.map Prod.fst).Nodup
  short : ∀ entry ∈ part.entries, entry.2.IsShort

theorem Section.isWritable_of_all {part : Section}
    (checked : ((part.name :: part.entries.map Prod.fst).all fun name =>
      !name.isEmpty && name.all isBare) = true)
    (distinct : (part.entries.map Prod.fst).Nodup)
    (short : ∀ entry ∈ part.entries, entry.2.IsShort) : part.IsWritable := by
  have bareName {name : Text} (member : name ∈ part.name :: part.entries.map Prod.fst) :
      IsBareName name := isBareName_of_all (List.all_eq_true.mp checked name member)
  refine ⟨bareName (by simp), fun entry member => bareName ?_, distinct, short⟩
  exact List.mem_cons_of_mem _ (List.mem_map_of_mem member)

/-- The table that a section is read as. -/
def Section.table (part : Section) : Table :=
  part.entries.map fun (name, scalar) => (name, scalar.value)

/-- The table that a document of some sections is read as. -/
def tableOf (sections : List Section) : Table :=
  sections.map fun part => (part.name, .table part.table)

namespace Document

/-- The entries of a section go to the end of its table one after the other. -/
theorem readLines_entries {entries : List (Text × Scalar)}
    (bare : ∀ entry ∈ entries, IsBareName entry.1) (short : ∀ entry ∈ entries, entry.2.IsShort)
    {document : Document} {front before : Table} {header : Text}
    (isAt : document.IsAt front header before)
    (distinct : (before.map Prod.fst ++ entries.map Prod.fst).Nodup) (steps : Nat) (rest : Text) :
    ∃ next : Document,
      readLines room (entries.length + steps) document
          ((entries.flatMap fun (name, value) =>
            name ++ " = ".toList ++ value.write ++ ['\n']) ++ rest) =
        readLines room steps next rest ∧
      next.IsAt front header
        (before ++ entries.map fun (name, scalar) => (name, scalar.value)) := by
  -- Each entry leaves the table open for the next one, with itself at the end.
  induction entries generalizing document before with
  | nil => exact ⟨document, by simp, by simpa using isAt⟩
  | cons entry entries ih =>
      rcases entry with ⟨name, scalar⟩
      have absent : name ∉ before.map Prod.fst := by
        intro member
        exact (List.nodup_append.mp distinct).2.2 name member name (by simp) rfl
      rcases isAt.set absent scalar with ⟨next, set, isNext⟩
      rcases ih (fun entry member => bare entry (by simp [member]))
          (fun entry member => short entry (by simp [member])) isNext
          (by simpa [List.append_assoc] using distinct) with ⟨last, read, isLast⟩
      refine ⟨last, ?_, by simpa [List.append_assoc] using isLast⟩
      have line := readLines_entry (bare (name, scalar) (by simp)) (short (name, scalar) (by simp))
        set room (entries.length + steps)
      have count : ((name, scalar) :: entries).length + steps = entries.length + steps + 1 := by
        simp only [List.length_cons]
        omega
      rw [count, List.flatMap_cons, List.append_assoc, line, read]

/-- A written section adds its table to the document. -/
theorem readLines_section {part : Section} (writable : part.IsWritable) {document : Document}
    (plain : document.IsPlain) (absent : part.name ∉ document.table.map Prod.fst) (steps : Nat)
    (rest : Text) :
    ∃ next : Document,
      readLines room (part.entries.length + 1 + steps) document (part.write ++ rest) =
        readLines room steps next rest ∧
      next.IsPlain ∧ next.table = document.table ++ [(part.name, .table part.table)] := by
  have opened : IsAt { document with
      table := document.table ++ [(part.name, .table [])]
      header := [part.name]
      declared := [part.name] :: document.declared } document.table part.name [] :=
    ⟨plain.openTable part.name, rfl, rfl, absent⟩
  rcases readLines_entries writable.bareNames writable.short opened
      (by simpa using writable.distinct) steps rest with ⟨next, read, isNext⟩
  refine ⟨next, ?_, isNext.plain, by simpa [Section.table] using isNext.table⟩
  have count : part.entries.length + 1 + steps = part.entries.length + steps + 1 := by omega
  rw [count, Section.write, List.append_assoc,
    readLines_header writable.bareName (openTable_of_absent plain absent), read]

end Document

/-- A section has at least as many characters as lines. -/
theorem Section.lines_le_length_write (part : Section) :
    part.entries.length + 1 ≤ part.write.length := by
  have entries : part.entries.length ≤
      (part.entries.flatMap fun (name, value) =>
        name ++ " = ".toList ++ value.write ++ ['\n']).length := by
    induction part.entries with
    | nil => simp
    | cons entry entries ih =>
        rw [List.flatMap_cons, List.length_append]
        simp only [List.length_append, List.length_cons, List.length_nil] at ih ⊢
        omega
  have header : 1 ≤ ('[' :: part.name ++ "]\n".toList).length := by simp
  rw [Section.write, List.length_append, Nat.add_comm]
  exact Nat.add_le_add header entries

namespace Document

/-- A written document adds the tables of its sections, with a blank line between two. -/
theorem readLines_write {sections : List Section}
    (writable : ∀ part ∈ sections, part.IsWritable) {document : Document}
    (plain : document.IsPlain)
    (distinct : (document.table.map Prod.fst ++ sections.map Section.name).Nodup) {steps : Nat}
    (enough : (write sections).length < steps) :
    ∃ next, readLines room steps document (write sections) = .ok next ∧
      next.table = document.table ++ tableOf sections := by
  induction sections generalizing document steps with
  | nil => exact ⟨document, by simp [write, Text.join], by simp [tableOf]⟩
  | cons part sections ih =>
      have absent : part.name ∉ document.table.map Prod.fst := by
        intro member
        exact (List.nodup_append.mp distinct).2.2 part.name member part.name (by simp) rfl
      have lines := part.lines_le_length_write
      have isWritable := writable part (by simp)
      cases sections with
      | nil =>
          have whole : write [part] = part.write := rfl
          rw [whole] at enough ⊢
          rcases Nat.exists_eq_add_of_le (by omega : part.entries.length + 1 ≤ steps) with
            ⟨more, rfl⟩
          rcases readLines_section isWritable plain absent more [] with ⟨next, read, _, table⟩
          exact ⟨next, by simpa using read, by simpa [tableOf] using table⟩
      | cons other sections =>
          have whole : write (part :: other :: sections) =
              part.write ++ '\n' :: write (other :: sections) := by
            simp [write, Text.join]
          rw [whole, List.length_append, List.length_cons] at enough
          rcases Nat.exists_eq_add_of_le (by omega : part.entries.length + 1 ≤ steps) with
            ⟨more, rfl⟩
          rcases Nat.exists_eq_succ_of_ne_zero (by omega : more ≠ 0) with ⟨more, rfl⟩
          rcases readLines_section isWritable plain absent (more + 1)
              ('\n' :: write (other :: sections)) with ⟨next, read, isPlain, table⟩
          have behind :
              (next.table.map Prod.fst ++ (other :: sections).map Section.name).Nodup := by
            simpa [table, List.append_assoc] using distinct
          rcases ih (fun part member => writable part (by simp [member])) isPlain behind
              (by omega : (write (other :: sections)).length < more) with ⟨last, readLast, tables⟩
          refine ⟨last, ?_, by simp [tables, table, tableOf]⟩
          rw [whole, read, readLines_blank, readLast]

end Document

/-! ## Documents -/

/-- A text without carriage returns has only one kind of line break. -/
theorem unifyBreaks_of_not_mem {text : Text} (absent : '\r' ∉ text) : unifyBreaks text = text := by
  induction text with
  | nil => rfl
  | cons char text ih =>
      simp only [List.mem_cons, not_or] at absent
      rw [unifyBreaks]
      · rw [ih absent.2]
      · rintro _ rfl
        exact absurd rfl absent.1

theorem isHexDigit_of_mem_hexPair {value : Nat} (small : value < 256) {digit : Char}
    (member : digit ∈ hexPair value) : isHexDigit digit = true :=
  List.all_eq_true.mp (hexPair_of_lt small).2.1 digit member

/-- No carriage return is written for a character of a string. -/
theorem not_mem_writeChar (char : Char) : '\r' ∉ writeChar char := by
  intro member
  rw [writeChar] at member
  split at member
  next isMark =>
    have isChar : char = '\r' := by simpa [eq_comm] using member
    subst isChar
    exact absurd isMark (by decide)
  split at member
  next => exact absurd member (by decide)
  split at member
  next => exact absurd member (by decide)
  split at member
  next => exact absurd member (by decide)
  split at member
  next => exact absurd member (by decide)
  next notReturn =>
    split at member
    next control =>
      have small : char.toNat < 256 := by
        simp only [isControl, Bool.or_eq_true, Bool.and_eq_true, decide_eq_true_eq,
          beq_iff_eq] at control
        omega
      rcases List.mem_append.mp member with front | digits
      · exact absurd front (by decide)
      · exact absurd (isHexDigit_of_mem_hexPair small digits) (by decide)
    next =>
      have isChar : char = '\r' := (List.mem_singleton.mp member).symm
      simp [isChar] at notReturn

theorem IsBareName.not_mem {name : Text} (bare : IsBareName name) : '\r' ∉ name := fun member =>
  absurd (bare.2 '\r' member) (by decide)

theorem Scalar.not_mem_write (scalar : Scalar) : '\r' ∉ scalar.write := by
  cases scalar with
  | string text =>
      simp [Scalar.write, writeString, not_mem_writeChar]
  | bool value => cases value <;> decide
  | int value =>
      intro member
      have noDigit : '\r' ∉ Text.ofNat value.natAbs := fun digits =>
        absurd (isDigit_of_mem_ofNat digits) (by decide)
      cases value with
      | ofNat count => exact noDigit member
      | negSucc count =>
          rcases List.mem_cons.mp member with isSign | digits
          · exact absurd isSign (by decide)
          · exact noDigit digits

theorem Section.not_mem_write {part : Section} (writable : part.IsWritable) :
    '\r' ∉ part.write := by
  intro member
  simp only [Section.write, List.mem_append, List.mem_cons, List.mem_flatMap] at member
  rcases member with ((isBracket | inName) | inBracket) | ⟨entry, isEntry, inEntry⟩
  · exact absurd isBracket (by decide)
  · exact writable.bareName.not_mem inName
  · exact absurd inBracket (by decide)
  · rcases inEntry with ((inName | inMark) | inScalar) | isBreak
    · exact (writable.bareNames entry isEntry).not_mem inName
    · exact absurd inMark (by decide)
    · exact entry.2.not_mem_write inScalar
    · exact absurd isBreak (by decide)

theorem not_mem_write {sections : List Section} (writable : ∀ part ∈ sections, part.IsWritable) :
    '\r' ∉ write sections := by
  induction sections with
  | nil => simp [write, Text.join]
  | cons part sections ih =>
      have first := Section.not_mem_write (writable part (by simp))
      have behind := ih fun part member => writable part (by simp [member])
      cases sections with
      | nil => exact first
      | cons other sections =>
          have whole : write (part :: other :: sections) =
              part.write ++ '\n' :: write (other :: sections) := by
            simp [write, Text.join]
          rw [whole]
          simp [first, behind]

/-- Sections that can be written are written whole. -/
theorem cut_of_all_isShort {sections : List Section}
    (isShort : sections.all Section.isShort = true) : cut sections = sections := by
  induction sections with
  | nil => rfl
  | cons part sections ih =>
      rw [List.all_cons, Bool.and_eq_true] at isShort
      rw [cut, if_pos isShort.1, ih isShort.2]

/-- A written document is read as the tables of its sections. -/
theorem read_write {sections : List Section} (writable : ∀ part ∈ sections, part.IsWritable)
    (distinct : (sections.map Section.name).Nodup) :
    read room (write sections) = .ok (tableOf sections) := by
  have plain : Document.IsPlain {} := ⟨rfl, rfl, by simp⟩
  rcases Document.readLines_write writable plain (by simpa using distinct)
      (Nat.lt_succ_self (write sections).length) with ⟨last, read, table⟩
  rw [Toml.read, unifyBreaks_of_not_mem (not_mem_write writable), read]
  simp [bind, Except.bind, pure, Except.pure, table]

/-- A single entry without a header is a document too. -/
theorem read_entry {name : Text} (bare : IsBareName name) {scalar : Scalar}
    (short : scalar.IsShort) :
    read room (name ++ " = ".toList ++ scalar.write ++ ['\n']) = .ok [(name, scalar.value)] := by
  have set : Document.set {} [name] scalar.value = .ok { table := [(name, scalar.value)] } := by
    cases scalar <;> rfl
  have noReturn : '\r' ∉ name ++ " = ".toList ++ scalar.write ++ ['\n'] := by
    simp [bare.not_mem, scalar.not_mem_write]
  have line (steps : Nat) := Document.readLines_entry bare short set room steps []
  simp only [List.append_nil, Document.readLines_nil] at line
  rw [read, unifyBreaks_of_not_mem noReturn, Nat.succ_eq_add_one, line]
  rfl

end SpecFinder.Toml

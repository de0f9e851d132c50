import WrapperSynthesis.Proofs.Toml.QuotedText
import WrapperSynthesis.Toml.Parser

/-! Documents of sections with truth values and strings, and with blank lines anywhere between their
lines. They are read back as the tables of these sections (`parse_of_lines`). -/

namespace WrapperSynthesis.Toml

/-! ### Documents -/

inductive Scalar where
  | bool (b : Bool)
  | string (s : String)
deriving DecidableEq, Repr

def Scalar.text : Scalar → List Char
  | bool b => (if b then "true" else "false").toList
  | string s => quoted s.toList

def Scalar.value : Scalar → Value
  | bool b => .bool b
  | string s => .string s

/-- A line of a document. The line of a setting goes on up to the closing quotes of its string. -/
inductive Line where
  | blank
  | header (name : String)
  | setting (name : String) (value : Scalar)
deriving DecidableEq, Repr

namespace Line

def text : Line → List Char
  | blank => ['\n']
  | header name => '[' :: (name.toList ++ [']', '\n'])
  | setting name value => name.toList ++ ' ' :: '=' :: ' ' :: (value.text ++ ['\n'])

def isBlank : Line → Bool
  | blank => true
  | _ => false

def statement? : Line → Option Statement
  | blank => none
  | header name => some (.header [] name)
  | setting name value => some (.assignment [] name value.value)

theorem eq_blank {line : Line} (blank : line.isBlank = true) : line = .blank := by
  cases line with
  | blank => rfl
  | header | setting => cases blank

theorem exists_statement {line : Line} (full : line.isBlank = false) :
    ∃ statement, line.statement? = some statement := by
  cases line with
  | blank => cases full
  | header name => exact ⟨_, rfl⟩
  | setting name value => exact ⟨_, rfl⟩

end Line

/-- A table of a document with its header. -/
structure Section where
  name : String
  entries : List (String × Scalar)
deriving DecidableEq, Repr

namespace Section

def lines (s : Section) : List Line := .header s.name :: s.entries.map fun e => .setting e.1 e.2

def value (s : Section) : String × Value :=
  (s.name, .table (s.entries.map fun e => (e.1, e.2.value)))

end Section

/-! ### Statements -/

/-- A name that is written without quotes. -/
def Bare (name : String) : Prop := name.toList ≠ [] ∧ ∀ c ∈ name.toList, isBareChar c = true

instance (name : String) : Decidable (Bare name) :=
  have := List.decidableBAll (isBareChar · = true) name.toList
  inferInstanceAs (Decidable (name.toList ≠ [] ∧ ∀ c ∈ name.toList, isBareChar c = true))

/-- The names of a line are written without quotes. -/
def Line.Bare : Line → Prop
  | blank => True
  | header name | setting name _ => Toml.Bare name

variable {name : String} {rest more : List Char}

theorem skipBlanks_cons {c : Char} (solid : isBlank c = false) :
    skipBlanks (c :: rest) = c :: rest := by
  simp [skipBlanks, solid]

theorem isBlank_of_isBareChar {c : Char} (bare : isBareChar c = true) : isBlank c = false := by
  cases blank : isBlank c with
  | false => rfl
  | true =>
    simp only [isBlank, Bool.or_eq_true, decide_eq_true_eq] at blank
    rcases blank with rfl | rfl <;> exact absurd bare (by decide)

/-- A character of a bare name is no other character. -/
theorem ne_of_isBareChar {c d : Char} (bare : isBareChar c = true) (other : isBareChar d = false) :
    c ≠ d := by
  rintro rfl
  exact absurd bare (by simp [other])

theorem exists_cons_of_bare (bare : Bare name) :
    ∃ c more, name.toList = c :: more ∧ isBareChar c = true := by
  rcases chars : name.toList with _ | ⟨c, more⟩
  · exact absurd chars bare.1
  · exact ⟨c, more, rfl, bare.2 c (by rw [chars]; exact List.mem_cons_self)⟩

/-- A bare name ends where a character is no part of one. -/
theorem scanPart_bare (bare : Bare name) {c : Char} (ends : isBareChar c = false) :
    scanPart (name.toList ++ c :: rest) = some (name, c :: rest) := by
  obtain ⟨first, more, chars, inside⟩ := exists_cons_of_bare bare
  have double : first ≠ '"' := ne_of_isBareChar inside (by decide)
  have single : first ≠ '\'' := ne_of_isBareChar inside (by decide)
  have taken : (name.toList ++ c :: rest).takeWhile isBareChar = name.toList := by
    rw [List.takeWhile_append_of_pos bare.2, List.takeWhile_cons_of_neg (by simp [ends]),
      List.append_nil]
  have left : (name.toList ++ c :: rest).dropWhile isBareChar = c :: rest := by
    rw [List.dropWhile_append_of_pos bare.2, List.dropWhile_cons_of_neg (by simp [ends])]
  rw [chars, List.cons_append] at taken left ⊢
  have spelled : String.ofList (first :: more) = name := by rw [← chars, String.ofList_toList]
  simp [scanPart, double, single, inside, taken, left, spelled]

/-- The name of a header or of a setting, up to its bracket or its equals sign. -/
theorem scanName_bare (bare : Bare name) {c : Char} (ends : isBareChar c = false) {d : Char}
    (next : skipBlanks (c :: rest) = d :: more) (undotted : d ≠ '.') :
    scanName (name.toList ++ c :: rest) = some ([], name, d :: more) := by
  obtain ⟨first, more', chars, inside⟩ := exists_cons_of_bare bare
  have solid := isBlank_of_isBareChar inside
  have same : skipBlanks (name.toList ++ c :: rest) = name.toList ++ c :: rest := by
    rw [chars, List.cons_append, skipBlanks_cons solid]
  rw [scanName, partLimit, scanParts, same, scanPart_bare bare ends]
  simp only [bind, Option.bind, next]
  split
  · rename_i dot
    exact absurd (List.cons.inj dot).1 undotted
  · rfl

theorem scanValue_text (value : Scalar) (fuel : Nat) :
    scanValue (fuel + 1) 0 (value.text ++ '\n' :: rest) = some (value.value, '\n' :: rest) := by
  cases value with
  | bool b => cases b <;> rfl
  | string s =>
    have ends : ('\n' :: rest).head? ≠ some '"' := by simp
    have ends' : ('\n' :: rest).head? ≠ some '\'' := by simp
    have read := scanQuoted_quoted s.toList ends ends'
    obtain ⟨c, more, first, quote⟩ := exists_cons_quoted s.toList
    rw [Scalar.text]
    rw [first, List.cons_append] at read ⊢
    rw [scanValue, if_pos (by simpa using quote), read]
    simp [Scalar.value]

theorem exists_cons_scalar (value : Scalar) :
    ∃ c more, value.text = c :: more ∧ isBlank c = false := by
  cases value with
  | bool b => cases b <;> exact ⟨_, _, rfl, by decide⟩
  | string s =>
    obtain ⟨c, more, first, quote⟩ := exists_cons_quoted s.toList
    refine ⟨c, more, first, ?_⟩
    rcases quote with rfl | rfl <;> decide

/-- A line is read as its statement. -/
theorem scanStatement_text {line : Line} (bare : line.Bare) {statement : Statement}
    (stated : line.statement? = some statement) (fuel : Nat) :
    scanStatement (fuel + 1) (line.text ++ rest) = some (statement, '\n' :: rest) := by
  cases line with
  | blank => cases stated
  | header name =>
    cases stated
    have read :
        scanName (name.toList ++ ']' :: '\n' :: rest) = some ([], name, ']' :: '\n' :: rest) :=
      scanName_bare bare (by decide) rfl (by decide)
    obtain ⟨c, more, chars, inside⟩ := exists_cons_of_bare bare
    -- A second bracket would open an array header.
    have single : c ≠ '[' := ne_of_isBareChar inside (by decide)
    rw [Line.text, List.cons_append, List.append_assoc, List.cons_append, List.cons_append,
      List.nil_append]
    rw [chars, List.cons_append] at read ⊢
    simp [scanStatement, single, read]
  | setting name value =>
    cases stated
    obtain ⟨c, more, first, solid⟩ := exists_cons_scalar value
    have read : scanName (name.toList ++ ' ' :: '=' :: ' ' :: (value.text ++ '\n' :: rest)) =
        some ([], name, '=' :: ' ' :: (value.text ++ '\n' :: rest)) :=
      scanName_bare bare (by decide) rfl (by decide)
    have next : skipBlanks (' ' :: (value.text ++ '\n' :: rest)) = value.text ++ '\n' :: rest := by
      rw [first, List.cons_append]
      exact skipBlanks_cons solid
    obtain ⟨d, more, chars, inside⟩ := exists_cons_of_bare bare
    have single : d ≠ '[' := ne_of_isBareChar inside (by decide)
    simp only [Line.text, List.append_assoc, List.cons_append, List.nil_append]
    rw [chars, List.cons_append] at read ⊢
    simp [scanStatement, single, read, next, scanValue_text]

theorem skipEnd_newline : skipEnd ('\n' :: rest) = some rest := rfl

/-- A line other than a blank one begins with what begins its statement. -/
theorem exists_cons_text {line : Line} (bare : line.Bare) (full : line.isBlank = false) :
    ∃ c more, line.text = c :: more ∧ isBlank c = false ∧ c ≠ '#' ∧ c ≠ '\n' ∧ c ≠ '\r' := by
  cases line with
  | blank => exact absurd full (by decide)
  | header name => exact ⟨'[', _, rfl, by decide⟩
  | setting name value =>
    obtain ⟨c, more, chars, inside⟩ := exists_cons_of_bare bare
    refine ⟨c, _, by rw [Line.text, chars]; rfl, isBlank_of_isBareChar inside, ?_, ?_, ?_⟩ <;>
      exact ne_of_isBareChar inside (by decide)

theorem skipSpace_text {line : Line} (bare : line.Bare) (full : line.isBlank = false) (fuel : Nat) :
    skipSpace (fuel + 1) (line.text ++ rest) = some (line.text ++ rest) := by
  obtain ⟨c, more, chars, solid, comment, line, carriage⟩ := exists_cons_text bare full
  rw [chars, List.cons_append]
  have same : skipComment (skipBlanks (c :: (more ++ rest))) = some (c :: (more ++ rest)) := by
    rw [skipBlanks_cons solid]
    simp [skipComment, comment]
  simp [skipSpace, same, line, carriage]

/-- Blank lines are skipped. -/
theorem skipSpace_lines {lines : List Line} (bare : ∀ line ∈ lines, line.Bare) {fuel : Nat}
    (enough : lines.length < fuel) :
    skipSpace fuel (lines.flatMap Line.text) =
      some ((lines.dropWhile Line.isBlank).flatMap Line.text) := by
  induction lines generalizing fuel with
  | nil =>
    obtain ⟨fuel, rfl⟩ : ∃ k, fuel = k + 1 := ⟨fuel - 1, by simp at enough; omega⟩
    rfl
  | cons line lines ih =>
    obtain ⟨fuel, rfl⟩ : ∃ k, fuel = k + 1 := ⟨fuel - 1, by omega⟩
    rw [List.length_cons] at enough
    rw [List.flatMap_cons]
    cases full : line.isBlank with
    | false =>
      rw [skipSpace_text (bare line List.mem_cons_self) full,
        List.dropWhile_cons_of_neg (by simp [full]), List.flatMap_cons]
    | true =>
      have later := ih (fun l hl => bare l (List.mem_cons_of_mem line hl)) (show _ < fuel by omega)
      rw [List.dropWhile_cons_of_pos full, ← later, Line.eq_blank full]
      rfl

theorem filterMap_filter_isBlank (lines : List Line) :
    (lines.filter fun line => !line.isBlank).filterMap Line.statement? =
      lines.filterMap Line.statement? := by
  induction lines with
  | nil => rfl
  | cons line lines ih =>
    cases line with
    | blank => exact ih
    | header name => exact congrArg (Statement.header [] name :: ·) ih
    | setting name value => exact congrArg (Statement.assignment [] name value.value :: ·) ih

theorem filterMap_dropWhile_isBlank (lines : List Line) :
    (lines.dropWhile Line.isBlank).filterMap Line.statement? = lines.filterMap Line.statement? := by
  induction lines with
  | nil => rfl
  | cons line lines ih =>
    cases full : line.isBlank with
    | false => rw [List.dropWhile_cons_of_neg (by simp [full])]
    | true =>
      rw [List.dropWhile_cons_of_pos full, ih, Line.eq_blank full]
      rfl

/-- A document is read line by line. -/
theorem scanStatements_lines {lines : List Line} (bare : ∀ line ∈ lines, line.Bare) {fuel : Nat}
    (enough : lines.length < fuel) :
    scanStatements fuel (lines.flatMap Line.text) = some (lines.filterMap Line.statement?) := by
  induction fuel generalizing lines with
  | zero => exact absurd enough (Nat.not_lt_zero _)
  | succ fuel ih =>
    rw [scanStatements, skipSpace_lines bare enough, ← filterMap_dropWhile_isBlank]
    have sublist := List.dropWhile_sublist (l := lines) Line.isBlank
    have short := sublist.length_le
    -- Blank lines are skipped, so the first line that is left states something.
    rcases left : lines.dropWhile Line.isBlank with _ | ⟨line, rest⟩
    · rfl
    · have full : line.isBlank = false := by
        have first := List.head?_dropWhile_not Line.isBlank lines
        rwa [left] at first
      rw [left, List.length_cons] at short
      have named (l : Line) (hl : l ∈ line :: rest) : l.Bare := bare l (sublist.subset (left ▸ hl))
      have later := ih (fun l hl => named l (List.mem_cons_of_mem line hl)) (show _ < fuel by omega)
      obtain ⟨statement, stated⟩ := Line.exists_statement full
      obtain ⟨c, more, chars, -⟩ := exists_cons_text (named line List.mem_cons_self) full
      have read : scanStatement (fuel + 1) (line.text ++ rest.flatMap Line.text) =
          some (statement, '\n' :: rest.flatMap Line.text) :=
        scanStatement_text (named line List.mem_cons_self) stated fuel
      rw [List.flatMap_cons, List.filterMap_cons_some stated]
      rw [chars, List.cons_append] at read ⊢
      simp [read, skipEnd_newline, later]

/-! ### Tables -/

theorem lookup_eq_none {α : Type} {entries : List (String × α)}
    (new : name ∉ entries.map Prod.fst) : entries.lookup name = none := by
  rw [List.lookup_eq_none_iff]
  intro entry he
  rw [bne_iff_ne]
  rintro rfl
  exact new (List.mem_map_of_mem he)

theorem lookup_of_mem {α : Type} {entries : List (String × α)}
    (distinct : (entries.map Prod.fst).Nodup) {entry : String × α} (held : entry ∈ entries) :
    entries.lookup entry.1 = some entry.2 := by
  induction entries with
  | nil => cases held
  | cons first entries ih =>
    rw [List.map_cons, List.nodup_cons] at distinct
    rcases List.mem_cons.mp held with rfl | held
    · exact List.lookup_cons_self
    · have other : entry.1 ≠ first.1 := fun same =>
        distinct.1 (by rw [← same]; exact List.mem_map_of_mem held)
      have skipped : (entry.1 == first.1) = false := by rwa [beq_eq_false_iff_ne]
      rw [List.lookup_cons, skipped]
      exact ih distinct.2 held

theorem lookup_append_self {α : Type} {entries : List (String × α)}
    (new : name ∉ entries.map Prod.fst) (a : α) :
    (entries ++ [(name, a)]).lookup name = some a := by
  rw [List.lookup_append, lookup_eq_none new, Option.none_or, List.lookup_cons_self]

namespace Entries

theorem set_append {entries : Entries} (new : name ∉ entries.map Prod.fst) (item item' : Item) :
    set name item (entries ++ [(name, item')]) = entries ++ [(name, item)] := by
  induction entries with
  | nil => simp [set]
  | cons entry entries ih =>
    rw [List.map_cons, List.mem_cons, not_or] at new
    rw [List.cons_append, set, if_neg (Ne.symm new.1), ih new.2]
    rfl

end Entries

variable {root inner : Entries} {key : String} {statements : List Statement}

theorem build_header (new : name ∉ root.map Prod.fst) (current : List String) :
    build current root (.header [] name :: statements) =
      build [name] (root ++ [(name, .table .opened [])]) statements := by
  simp [build, Entries.descend, Entries.openTable, lookup_eq_none new]

theorem build_assignment (new : name ∉ root.map Prod.fst) (fresh : key ∉ inner.map Prod.fst)
    (value : Value) :
    build [name] (root ++ [(name, .table .opened inner)]) (.assignment [] key value :: statements) =
      build [name] (root ++ [(name, .table .opened (inner ++ [(key, .value value)]))])
        statements := by
  simp [build, Entries.descend, Entries.assign, Entries.insertValue, lookup_append_self new,
    lookup_eq_none fresh, Entries.set_append new]

/-- The entries of a section go to the table that its header has opened. -/
theorem build_entries (new : name ∉ root.map Prod.fst) {entries : List (String × Scalar)}
    (distinct : (inner.map Prod.fst ++ entries.map Prod.fst).Nodup) :
    build [name] (root ++ [(name, .table .opened inner)])
        (entries.map (fun e => .assignment [] e.1 e.2.value) ++ statements) =
      build [name]
        (root ++ [(name, .table .opened (inner ++ entries.map fun e => (e.1, .value e.2.value)))])
        statements := by
  induction entries generalizing inner with
  | nil => simp
  | cons e entries ih =>
    have fresh : e.1 ∉ inner.map Prod.fst := fun held =>
      (List.nodup_append.mp distinct).2.2 _ held _ List.mem_cons_self rfl
    rw [List.map_cons, List.cons_append, build_assignment new fresh, ih]
    · simp
    · simpa using distinct

/-- A section as it is under construction. -/
def Section.item (s : Section) : String × Item :=
  (s.name, .table .opened (s.entries.map fun e => (e.1, .value e.2.value)))

theorem build_sections {sections : List Section} (current : List String)
    (names : (root.map Prod.fst ++ sections.map Section.name).Nodup)
    (keys : ∀ s ∈ sections, (s.entries.map Prod.fst).Nodup) :
    build current root ((sections.flatMap Section.lines).filterMap Line.statement?) =
      some (root ++ sections.map Section.item) := by
  induction sections generalizing root current with
  | nil => simp [build]
  | cons s sections ih =>
    have new : s.name ∉ root.map Prod.fst := fun held =>
      (List.nodup_append.mp names).2.2 _ held _ List.mem_cons_self rfl
    have own : s.lines.filterMap Line.statement? =
        .header [] s.name :: s.entries.map fun e => .assignment [] e.1 e.2.value := by
      simp [Section.lines, Line.statement?, List.filterMap_map, Function.comp_def]
    have distinct := keys s List.mem_cons_self
    rw [List.flatMap_cons, List.filterMap_append, own, List.cons_append, build_header new,
      build_entries new (by simpa using distinct), ih]
    · simp [Section.item]
    · simpa using names
    · exact fun s' hs' => keys s' (List.mem_cons_of_mem s hs')

theorem sealEntries_sections (sections : List Section) :
    sealEntries (sections.map Section.item) = sections.map Section.value := by
  have entries (l : List (String × Scalar)) :
      sealEntries (l.map fun e => (e.1, .value e.2.value)) = l.map fun e => (e.1, e.2.value) := by
    induction l with
    | nil => rw [List.map_nil, List.map_nil, sealEntries]
    | cons e l ih => rw [List.map_cons, List.map_cons, sealEntries, ih, sealItem]
  induction sections with
  | nil => rw [List.map_nil, List.map_nil, sealEntries]
  | cons s sections ih =>
    rw [List.map_cons, List.map_cons, Section.item, sealEntries, ih, sealItem, entries]
    rfl

/-- Truth values, strings and tables of these are read by any reader of numbers. -/
theorem entriesHeld_of_forall {entries : List (String × Value)}
    (held : ∀ entry ∈ entries, entry.2.held = true) : Value.entriesHeld entries = true := by
  induction entries with
  | nil => rw [Value.entriesHeld]
  | cons entry entries ih =>
    rw [List.forall_mem_cons] at held
    rw [Value.entriesHeld, held.1, ih held.2]
    rfl

theorem Scalar.held_value (value : Scalar) : value.value.held = true := by
  cases value <;> rw [Scalar.value, Value.held]

theorem Section.held_value (s : Section) : s.value.2.held = true := by
  rw [Section.value, Value.held]
  refine entriesHeld_of_forall fun entry he => ?_
  obtain ⟨e, -, rfl⟩ := List.mem_map.mp he
  exact e.2.held_value

/-! ### Reading a document -/

/-- The names in a section are written without quotes, and no two of its entries have one name. -/
structure Section.Plain (s : Section) : Prop where
  name : Bare s.name
  keys : ∀ key ∈ s.entries.map Prod.fst, Bare key
  distinct : (s.entries.map Prod.fst).Nodup

theorem Section.Plain.bare {s : Section} (plain : s.Plain) : ∀ line ∈ s.lines, line.Bare := by
  intro line hl
  rw [Section.lines, List.mem_cons, List.mem_map] at hl
  rcases hl with rfl | ⟨e, he, rfl⟩
  · exact plain.name
  · exact plain.keys e.1 (List.mem_map_of_mem he)

theorem length_le_flatMap_text (lines : List Line) :
    lines.length ≤ (lines.flatMap Line.text).length := by
  induction lines with
  | nil => exact Nat.le_refl 0
  | cons line lines ih =>
    have : 0 < line.text.length := by
      cases line <;> simp only [Line.text, List.length_append, List.length_cons] <;> omega
    rw [List.flatMap_cons, List.length_append, List.length_cons]
    omega

theorem ne_byteOrderMark {lines : List Line} (bare : ∀ line ∈ lines, line.Bare) {c : Char}
    (first : lines.flatMap Line.text = c :: rest) : c ≠ byteOrderMark := by
  cases lines with
  | nil => cases first
  | cons line lines =>
    cases line with
    | blank =>
      cases first
      decide
    | header name =>
      cases first
      decide
    | setting name value =>
      obtain ⟨d, more, chars, inside⟩ := exists_cons_of_bare (bare _ List.mem_cons_self)
      rw [List.flatMap_cons, Line.text, chars] at first
      cases first
      exact ne_of_isBareChar inside (by decide)

/-- A line is blank or belongs to a section. -/
theorem bare_of_mem {lines : List Line} {sections : List Section}
    (full : lines.filter (fun line => !line.isBlank) = sections.flatMap Section.lines)
    (plain : ∀ s ∈ sections, s.Plain) {line : Line} (hl : line ∈ lines) : line.Bare := by
  cases blank : line.isBlank with
  | true =>
    rw [Line.eq_blank blank]
    trivial
  | false =>
    have held : line ∈ sections.flatMap Section.lines := by
      rw [← full, List.mem_filter]
      exact ⟨hl, by simp [blank]⟩
    obtain ⟨s, hs, hl⟩ := List.mem_flatMap.mp held
    exact (plain s hs).bare line hl

/-- Sections are read from any text of their lines with blank lines between them. -/
theorem parse_of_lines {lines : List Line} {sections : List Section}
    (full : lines.filter (fun line => !line.isBlank) = sections.flatMap Section.lines)
    (plain : ∀ s ∈ sections, s.Plain) (names : (sections.map Section.name).Nodup) :
    parse (String.ofList (lines.flatMap Line.text)) = some (sections.map Section.value) := by
  have bare (line : Line) (hl : line ∈ lines) : line.Bare := bare_of_mem full plain hl
  have statements : lines.filterMap Line.statement? =
      (sections.flatMap Section.lines).filterMap Line.statement? := by
    rw [← full, filterMap_filter_isBlank]
  have built : build [] [] ((sections.flatMap Section.lines).filterMap Line.statement?) =
      some (sections.map Section.item) :=
    build_sections [] (by simpa using names) fun s hs => (plain s hs).distinct
  have enough := length_le_flatMap_text lines
  have read := scanStatements_lines bare
    (show _ < 2 * (lines.flatMap Line.text).length + 2 by omega)
  rw [statements] at read
  rcases chars : lines.flatMap Line.text with _ | ⟨c, rest⟩
  · rw [chars] at read
    simp only [parse, String.toList_ofList, bind, Option.bind, read, built, sealEntries_sections]
    rfl
  · have unmarked := ne_byteOrderMark bare chars
    rw [chars] at read
    simp only [parse, String.toList_ofList, if_neg unmarked, bind, Option.bind, read, built,
      sealEntries_sections]
    rfl

end WrapperSynthesis.Toml

import Mathlib.Data.List.Forall2
import WrapperSynthesis.Proofs.Json.Codec

/-! The objects that show one record. An object may show the members of a record in any order, leave
out members whose values are those of absent ones, and hold members that the record does not have.
Whatever object shows a record is read as that record (`Record.Fits.reads`), and so is one that also
holds the tag of a variant, wherever it stands (`TaggedUnion.reads`). -/

namespace WrapperSynthesis.Json

/-! ### Objects -/

/-- A member that a record has, and how an object may show it. -/
structure Field where
  name : String
  /-- The values that show it. -/
  shown : Value → Prop
  /-- Whether it may be left out. -/
  omissible : Prop

namespace Field

def needed (name : String) (shown : Value → Prop) : Field := ⟨name, shown, False⟩

/-- A member that may be left out while it has its default. -/
def defaulted (name : String) (shown : Value → Prop) (hasDefault : Prop) : Field :=
  ⟨name, shown, hasDefault⟩

/-- A member that may be left out or `null` while there is no value. -/
def optional {α : Type} (name : String) (shown : α → Value → Prop) (found : Option α) : Field :=
  ⟨name, fun v => found.elim (v = .null) (shown · v), found = none⟩

end Field

/-- The members show the fields in order, but for some fields that may be left out. -/
inductive Kept : List Field → List (String × Value) → Prop
  | nil : Kept [] []
  | keep {field : Field} {fields : List Field} {v : Value} {members : List (String × Value)} :
    field.shown v → Kept fields members → Kept (field :: fields) ((field.name, v) :: members)
  | drop {field : Field} {fields : List Field} {members : List (String × Value)} :
    field.omissible → Kept fields members → Kept (field :: fields) members

/-- The members show the fields in any order, among scalars with names that no field has. -/
def Arranged (fields : List Field) (members : List (String × Value)) : Prop :=
  ∃ shown unknown, members.Perm (shown ++ unknown) ∧ Kept fields shown ∧
    ∀ member ∈ unknown, member.1 ∉ fields.map Field.name ∧ member.2.Storable 0

/-- The value is an object that shows the fields. -/
def Presented (fields : List Field) (v : Value) : Prop :=
  ∃ members, v = .object members ∧ Arranged fields members

/-- The value is an array whose elements show the elements of the list. -/
def Listed {α : Type} (shown : α → Value → Prop) (as : List α) (v : Value) : Prop :=
  ∃ vs, v = .array vs ∧ List.Forall₂ shown as vs

namespace Kept

variable {fields : List Field} {members : List (String × Value)}

theorem sublist (kept : Kept fields members) :
    (members.map Prod.fst).Sublist (fields.map Field.name) := by
  induction kept with
  | nil => exact .slnil
  | keep _ _ ih => exact ih.cons_cons _
  | drop _ _ ih => exact ih.cons _

theorem exists_field (kept : Kept fields members) {member : String × Value} (h : member ∈ members) :
    ∃ field ∈ fields, field.name = member.1 ∧ field.shown member.2 := by
  induction kept with
  | nil => cases h
  | keep shown _ ih =>
    rcases List.mem_cons.mp h with rfl | h
    · exact ⟨_, List.mem_cons_self, rfl, shown⟩
    · obtain ⟨field, mem, found⟩ := ih h
      exact ⟨field, List.mem_cons_of_mem _ mem, found⟩
  | drop _ _ ih =>
    obtain ⟨field, mem, found⟩ := ih h
    exact ⟨field, List.mem_cons_of_mem _ mem, found⟩

theorem omissible_or_mem (kept : Kept fields members) {field : Field} (h : field ∈ fields) :
    field.omissible ∨ field.name ∈ members.map Prod.fst := by
  induction kept with
  | nil => cases h
  | keep _ _ ih =>
    rcases List.mem_cons.mp h with rfl | h
    · exact .inr List.mem_cons_self
    · exact (ih h).imp_right (List.mem_cons_of_mem _)
  | drop omissible _ ih =>
    rcases List.mem_cons.mp h with rfl | h
    · exact .inl omissible
    · exact ih h

end Kept

namespace Arranged

variable {fields : List Field} {members : List (String × Value)}

theorem of_kept (kept : Kept fields members) : Arranged fields members :=
  ⟨members, [], by simp, kept, by simp⟩

theorem known_or_unknown (arranged : Arranged fields members) {member : String × Value}
    (h : member ∈ members) : (∃ field ∈ fields, field.name = member.1 ∧ field.shown member.2) ∨
      member.1 ∉ fields.map Field.name ∧ member.2.Storable 0 := by
  obtain ⟨shown, unknown, perm, kept, others⟩ := arranged
  rcases List.mem_append.mp (perm.mem_iff.mp h) with h | h
  · exact .inl (kept.exists_field h)
  · exact .inr (others member h)

theorem omissible_or_mem (arranged : Arranged fields members) {field : Field} (h : field ∈ fields) :
    field.omissible ∨ field.name ∈ members.map Prod.fst := by
  obtain ⟨shown, unknown, perm, kept, -⟩ := arranged
  refine (kept.omissible_or_mem h).imp_right ?_
  intro present
  rw [(perm.map Prod.fst).mem_iff, List.map_append]
  exact List.mem_append_left _ present

/-- Only unknown names stand there twice. -/
theorem once (arranged : Arranged fields members) (distinct : (fields.map Field.name).Nodup) :
    members.Pairwise fun member other => member.1 = other.1 → member.1 ∉ fields.map Field.name := by
  obtain ⟨shown, unknown, perm, kept, others⟩ := arranged
  have symm : ∀ {member other : String × Value},
      (member.1 = other.1 → member.1 ∉ fields.map Field.name) →
        other.1 = member.1 → other.1 ∉ fields.map Field.name := by
    intro member other h same
    exact same ▸ h same.symm
  rw [perm.pairwise_iff symm, List.pairwise_append]
  refine ⟨?_, ?_, ?_⟩
  · have alone := List.pairwise_map.mp (distinct.sublist kept.sublist)
    exact alone.imp fun differs same => absurd same differs
  · exact List.pairwise_of_forall_mem_list fun member h _ _ _ => (others member h).1
  · intro member _ other h same
    exact same ▸ (others other h).1

end Arranged

theorem Presented.of_kept {fields : List Field} {members : List (String × Value)}
    (kept : Kept fields members) : Presented fields (.object members) :=
      ⟨members, rfl, .of_kept kept⟩

theorem Presented.ne_null {fields : List Field} {v : Value} (presented : Presented fields v) :
    v.asDraft ≠ .null := by
  obtain ⟨members, rfl, -⟩ := presented
  nofun

theorem Listed.of_map {α : Type} {shown : α → Value → Prop} {write : α → Value}
    (shows : ∀ a, shown a (write a)) (as : List α) : Listed shown as (.array (as.map write)) := by
  refine ⟨_, rfl, ?_⟩
  rw [List.forall₂_map_right_iff, List.forall₂_same]
  exact fun a _ => shows a

/-- Of the other members, none has the name of a needed one. -/
theorem Arranged.exists_needed {fields : List Field} {members : List (String × Value)}
    {name : String} {shown : Value → Prop}
    (arranged : Arranged (.needed name shown :: fields) members)
    (other : name ∉ fields.map Field.name) :
    ∃ front v back, members = front ++ (name, v) :: back ∧ shown v ∧
      Arranged fields (front ++ back) ∧ ∀ member ∈ front ++ back, member.1 ≠ name := by
  obtain ⟨shown, unknown, perm, kept, others⟩ := arranged
  cases kept with
  | drop missing => exact missing.elim
  | @keep _ _ v rest hv kept =>
    obtain ⟨front, back, rfl⟩ := List.append_of_mem (perm.mem_iff.mpr List.mem_cons_self)
    -- The needed member stands first among the shown ones, and somewhere among all of them.
    have same := (List.perm_middle.symm.trans perm).cons_inv
    refine ⟨front, v, back, rfl, hv, ⟨rest, unknown, same, kept, ?_⟩, ?_⟩
    · intro member h
      have new := (others member h).1
      exact ⟨fun known => new (List.mem_cons_of_mem _ known), (others member h).2⟩
    · rintro member h rfl
      rcases List.mem_append.mp (same.mem_iff.mp h) with h | h
      · exact other (kept.sublist.subset (List.mem_map_of_mem h))
      · exact (others member h).1 List.mem_cons_self

/-! ### Readers -/

/-- What shows `a` can be kept, and it is read as `a`. -/
structure Reads {α : Type} (read : Reader α) (a : α) (shown : Value → Prop) (height : Nat) :
    Prop where
  storable : ∀ v, shown v → v.Storable height
  back : ∀ v, shown v → ∀ place : Place, place.depth + height ≤ Draft.depthLimit →
    read place v.asDraft = .ok a

namespace Reads

variable {α β : Type} {read : Reader α} {a : α} {shown : Value → Prop} {height height' : Nat}

theorem mono (reads : Reads read a shown height) (le : height ≤ height') :
    Reads read a shown height' where
  storable v hv := (reads.storable v hv).mono le
  back v hv place shallow := reads.back v hv place (by omega)

/-- What a codec writes is read back. -/
theorem of_codec {write : α → Value} {P : α → Prop} (codec : Codec read write P height) (ha : P a) :
    Reads read a (· = write a) height where
  storable _ := by
    rintro rfl
    exact codec.storable a ha
  back _ := by
    rintro rfl
    exact codec.inverts a ha

theorem string {s : String} : Reads Reader.string s (· = .string s) height :=
  of_codec .string trivial

theorem bool {b : Bool} : Reads Reader.bool b (· = .bool b) height := of_codec .bool trivial

theorem map (reads : Reads read a shown height) (make : α → β) :
    Reads (fun place d => (read place d).map make) (make a) shown height where
  storable := reads.storable
  back v hv place shallow := by
    simp only [reads.back v hv place shallow]
    rfl

theorem items {shown : α → Value → Prop} {as : List α} {vs : List Value}
    (reads : ∀ a ∈ as, Reads read a (shown a) height) (listed : List.Forall₂ shown as vs)
    {place : Place} (shallow : place.depth + height ≤ Draft.depthLimit) :
    Reader.items read place (Value.asDrafts vs) = .ok as := by
  induction listed with
  | nil => rfl
  | cons first _ ih =>
    have head := (reads _ List.mem_cons_self).back _ first place shallow
    have tail := ih fun a ha => reads a (List.mem_cons_of_mem _ ha)
    simp only [Value.asDrafts, Reader.items, head, tail]
    rfl

theorem storable_items {shown : α → Value → Prop} {as : List α} {vs : List Value}
    (reads : ∀ a ∈ as, Reads read a (shown a) height) (listed : List.Forall₂ shown as vs) :
    ∀ v ∈ vs, v.Storable height := by
  induction listed with
  | nil => simp
  | cons first _ ih =>
    have head := (reads _ List.mem_cons_self).storable _ first
    exact List.forall_mem_cons.mpr ⟨head, ih fun a ha => reads a (List.mem_cons_of_mem _ ha)⟩

theorem list {shown : α → Value → Prop} {as : List α}
    (reads : ∀ a ∈ as, Reads read a (shown a) height) :
    Reads (Reader.list read) as (Listed shown as) (height + 1) where
  storable _ := by
    rintro ⟨vs, rfl, listed⟩
    rw [Value.Storable]
    exact storable_items reads listed
  back _ := by
    rintro ⟨vs, rfl, listed⟩ place shallow
    simp only [Value.asDraft, Reader.list, items reads listed (Place.shallow_inner shallow)]
    rfl

end Reads

/-! ### Members -/

/-- The member reads what shows the field, and takes its value when the field is left out. -/
structure Member.Fits {α : Type} (member : Member α) (a : α) (field : Field) (height : Nat) :
    Prop where
  name : member.name = field.name
  reads : Reads member.read a field.shown height
  absent : field.omissible → member.absent = some a

namespace Member.Fits

variable {α : Type} {name : String} {read : Reader α} {write : α → Value} {a : α}
  {shown : Value → Prop} {height : Nat}

theorem needed (reads : Reads read a shown height) :
    (Member.of name read write).Fits a (.needed name shown) height :=
  ⟨rfl, reads, False.elim⟩

theorem defaulted {default : α} (reads : Reads read a shown height) :
    (Member.of name read write (some default)).Fits a (.defaulted name shown (a = default))
      height where
  name := rfl
  reads := reads
  absent := by
    rintro rfl
    rfl

theorem optional {shown : α → Value → Prop} {found : Option α}
    (reads : ∀ a, found = some a → Reads read a (shown a) height)
    (present : ∀ a v, shown a v → v.asDraft ≠ .null) :
    (Member.optional name read write).Fits found (.optional name shown found) height where
  name := rfl
  reads := by
    cases found with
    | none =>
      refine ⟨?_, ?_⟩
      · rintro _ rfl
        simp [Value.Storable]
      · rintro _ rfl place -
        rfl
    | some a =>
      have whole := reads a rfl
      refine ⟨whole.storable, ?_⟩
      intro v hv place shallow
      show Reader.option read place v.asDraft = _
      rw [Reader.option.eq_2 _ _ _ (present a v hv), whole.back v hv place shallow]
      rfl
  absent := by
    rintro rfl
    rfl

end Member.Fits

namespace Members

variable {αs : List Type} {height : Nat} {fields : List Field} {done : List String} {place : Place}

/-- Every member fits its field. -/
inductive Fits (height : Nat) : {αs : List Type} → Members αs → Row αs → List Field → Prop
  | nil : Fits height .nil () []
  | cons {α : Type} {αs : List Type} {member : Member α} {rest : Members αs} {a : α} {row : Row αs}
      {field : Field} {fields : List Field} :
    member.Fits a field height → Fits height rest row fields →
      Fits height (.cons member rest) (a, row) (field :: fields)

/-- An optional member is written when there is a value. -/
theorem kept_optional {α : Type} {name : String} {read : Reader α} {write : α → Value}
    {shown : α → Value → Prop} {found : Option α} (shows : ∀ a, shown a (write a))
    {rest : Members αs} {row : Row αs} (kept : Kept fields (rest.write row)) :
    Kept (.optional name shown found :: fields)
      ((cons (.optional name read write) rest).write (found, row)) := by
  cases found with
  | none => exact .drop rfl kept
  | some a => exact .keep (shows a) kept

/-- The slots of a row when only the members with the given names have been read. -/
def mark (done : List String) : {αs : List Type} → Members αs → Row αs → Slots αs
  | _, nil, _ => ()
  | _, cons member rest, (a, row) =>
    (if member.name ∈ done then some a else none, rest.mark done row)

theorem mark_nil (members : Members αs) (row : Row αs) : members.mark [] row = members.blank := by
  induction members with
  | nil => rfl
  | cons member rest ih =>
    obtain ⟨a, row⟩ := row
    simp only [mark, blank, List.not_mem_nil, if_false, ih]
    rfl

theorem mark_cons_of_notMem {members : Members αs} {row : Row αs}
    (fits : members.Fits height row fields) {name : String} (new : name ∉ fields.map Field.name) :
    members.mark (name :: done) row = members.mark done row := by
  induction fits with
  | nil => rfl
  | @cons _ _ member _ _ _ _ _ first _ ih =>
    obtain ⟨differs, new⟩ := List.ne_and_not_mem_of_not_mem_cons new
    have differs : member.name ≠ name := first.name ▸ differs.symm
    simp only [mark, List.mem_cons, differs, false_or, ih new]
    rfl

/-- A member is read into the slot of its name. -/
theorem accept_mark {members : Members αs} {row : Row αs} (fits : members.Fits height row fields)
    (distinct : (fields.map Field.name).Nodup) {field : Field} (known : field ∈ fields)
    (new : field.name ∉ done) {v : Value} (shown : field.shown v)
    (shallow : place.depth + height ≤ Draft.depthLimit) :
    members.accept field.name place v.asDraft (members.mark done row) =
      .ok (some (members.mark (field.name :: done) row)) := by
  induction fits with
  | nil => cases known
  | @cons _ _ member _ _ _ _ _ first others ih =>
    obtain ⟨alone, distinct⟩ := List.nodup_cons.mp distinct
    rcases List.mem_cons.mp known with rfl | known
    · have back := first.reads.back v shown place shallow
      simp only [accept, mark, first.name, new, if_true, if_false, List.mem_cons_self, back,
        mark_cons_of_notMem others alone]
      rfl
    · have differs : member.name ≠ field.name := by
        rw [first.name]
        exact fun same => alone (same ▸ List.mem_map_of_mem known)
      simp only [accept, mark, differs, if_false, ih distinct known, List.mem_cons, false_or]
      rfl

/-- No slot takes a member with an unknown name. -/
theorem accept_of_notMem {members : Members αs} {row : Row αs}
    (fits : members.Fits height row fields) {name : String}
    (unknown : name ∉ fields.map Field.name) (place : Place) (d : Draft) (slots : Slots αs) :
    members.accept name place d slots = .ok none := by
  induction fits with
  | nil => rfl
  | @cons _ _ member _ _ _ _ _ first _ ih =>
    obtain ⟨slot, slots⟩ := slots
    obtain ⟨differs, unknown⟩ := List.ne_and_not_mem_of_not_mem_cons unknown
    have differs : member.name ≠ name := first.name ▸ differs.symm
    simp only [accept, differs, if_false, ih unknown]
    rfl

theorem storable_of_shown {members : Members αs} {row : Row αs}
    (fits : members.Fits height row fields) {field : Field} (known : field ∈ fields) {v : Value}
    (shown : field.shown v) : v.Storable height := by
  induction fits with
  | nil => cases known
  | cons first _ ih =>
    rcases List.mem_cons.mp known with rfl | known
    · exact first.reads.storable v shown
    · exact ih known

/-- The fields that are left out have the values of absent members. -/
theorem complete_mark {members : Members αs} {row : Row αs} (fits : members.Fits height row fields)
    (enough : ∀ field ∈ fields, field.omissible ∨ field.name ∈ done) :
    members.complete (members.mark done row) = .ok row := by
  induction fits with
  | nil => rfl
  | @cons _ _ member _ a _ field _ first _ ih =>
    have tail := ih fun f hf => enough f (List.mem_cons_of_mem _ hf)
    have head : ((if member.name ∈ done then some a else none) <|> member.absent) = some a := by
      rw [first.name]
      split
      · rfl
      · rename_i missing
        rcases enough field List.mem_cons_self with omissible | present
        · exact first.absent omissible
        · exact absurd present missing
    simp only [complete, mark, head, tail]
    rfl

/-- Members are read into the slots of their names, whatever their order. The induction is on the
members, and `done` holds the names of those that have been read. -/
theorem acceptAll_mark {members : Members αs} {row : Row αs} (fits : members.Fits height row fields)
    (distinct : (fields.map Field.name).Nodup) {entries : List (String × Value)}
    (known_or_unknown : ∀ entry ∈ entries,
      (∃ field ∈ fields, field.name = entry.1 ∧ field.shown entry.2) ∨
        entry.1 ∉ fields.map Field.name ∧ entry.2.Storable 0)
    (once : entries.Pairwise fun entry other =>
      entry.1 = other.1 → entry.1 ∉ fields.map Field.name)
    (new : ∀ entry ∈ entries, entry.1 ∈ done → entry.1 ∉ fields.map Field.name)
    (shallow : place.depth + height ≤ Draft.depthLimit) :
    members.acceptAll place (members.mark done row) (Value.asMembers entries) =
      .ok (members.mark ((entries.map Prod.fst).reverse ++ done) row) := by
  induction entries generalizing done with
  | nil => rfl
  | cons entry entries ih =>
    obtain ⟨name, v⟩ := entry
    obtain ⟨alone, once⟩ := List.pairwise_cons.mp once
    have later : ∀ entry ∈ entries, entry.1 ∈ name :: done → entry.1 ∉ fields.map Field.name := by
      intro entry h read
      rcases List.mem_cons.mp read with same | read
      · exact same ▸ alone entry h same.symm
      · exact new entry (List.mem_cons_of_mem _ h) read
    have tail := ih (fun entry h => known_or_unknown entry (List.mem_cons_of_mem _ h)) once later
    rw [List.map_cons, List.reverse_cons, List.append_assoc, List.singleton_append, ← tail]
    -- A member of a field finds its slot empty; any other member is skipped.
    rcases known_or_unknown _ List.mem_cons_self with ⟨field, known, rfl, shown⟩ | ⟨unknown, scalar⟩
    · have fresh : field.name ∉ done := fun read =>
        new _ List.mem_cons_self read (List.mem_map_of_mem known)
      have read := accept_mark fits distinct known fresh shown shallow
      simp only [Value.asMembers, acceptAll, read]
      rfl
    · -- An unknown name marks no slot, so it may count as read.
      have skipped := skipped_asDraft scalar
      have read := accept_of_notMem fits unknown place v.asDraft (members.mark done row)
      rw [mark_cons_of_notMem fits unknown]
      simp only [Value.asMembers, acceptAll, read, skipped]
      rfl

end Members

/-! ### Records -/

/-- The fields are those of the record, told apart by their names. -/
structure Record.Fits {α : Type} (r : Record α) (a : α) (fields : List Field) (height : Nat) :
    Prop where
  members : r.members.Fits height (r.row a) fields
  distinct : (fields.map Field.name).Nodup
  make_row : r.make (r.row a) = a

namespace Record

variable {α : Type} {r : Record α} {a : α} {fields : List Field} {height : Nat}
  {members : List (String × Value)}

theorem Fits.storable (fits : r.Fits a fields height) (arranged : Arranged fields members) :
    ∀ member ∈ members, member.2.Storable height := by
  intro member h
  rcases arranged.known_or_unknown h with ⟨field, known, -, shown⟩ | ⟨-, scalar⟩
  · exact Members.storable_of_shown fits.members known shown
  · exact scalar.mono (Nat.zero_le _)

theorem Fits.read_object (fits : r.Fits a fields height) (arranged : Arranged fields members)
    {place : Place} (shallow : place.depth + (height + 1) ≤ Draft.depthLimit) :
    r.read place (.object (Value.asMembers members) .closed) = .ok a := by
  have slots := Members.acceptAll_mark fits.members fits.distinct
    (fun _ => arranged.known_or_unknown) (arranged.once fits.distinct)
    (fun _ _ => List.not_mem_nil.elim) (Place.shallow_inner shallow)
  rw [Members.mark_nil, List.append_nil] at slots
  have row := Members.complete_mark fits.members fun field known =>
    (arranged.omissible_or_mem known).imp_right List.mem_reverse.mpr
  simp only [read, slots, Close.kept, orDamaged, bind, Except.bind, row, pure, Except.pure,
    fits.make_row]

/-- Every object that shows a record is read as this record. -/
theorem Fits.reads (fits : r.Fits a fields height) :
    Reads r.read a (Presented fields) (height + 1) where
  storable _ := by
    rintro ⟨members, rfl, arranged⟩
    rw [Value.Storable]
    exact fits.storable arranged
  back _ := by
    rintro ⟨members, rfl, arranged⟩ place shallow
    exact fits.read_object arranged shallow

end Record

/-! ### Tagged unions -/

namespace TaggedUnion

variable {α : Type} {u : TaggedUnion α}

/-- Members before the tag, or behind it, are kept when they can be. -/
theorem splitTag_append {place : Place} {height : Nat} (found : Option (Variant α))
    {entries : List (String × Value)} (more : List (String × Value))
    (other : ∀ entry ∈ entries, entry.1 ≠ u.tag)
    (storable : ∀ entry ∈ entries, entry.2.Storable height)
    (shallow : place.depth + height ≤ Draft.depthLimit) :
    u.splitTag place found (Value.asMembers (entries ++ more)) =
      (u.splitTag place found (Value.asMembers more)).map fun (found, others) =>
        (found, Value.asMembers entries ++ others) := by
  induction entries with
  | nil =>
    rw [List.nil_append]
    cases u.splitTag place found (Value.asMembers more) <;> rfl
  | cons entry entries ih =>
    obtain ⟨key, v⟩ := entry
    have differs : key ≠ u.tag := other (key, v) List.mem_cons_self
    have kept := kept_asDraft (storable (key, v) List.mem_cons_self) shallow
    have later := ih (fun e he => other e (List.mem_cons_of_mem _ he))
      fun e he => storable e (List.mem_cons_of_mem _ he)
    simp only [List.cons_append, Value.asMembers, splitTag, differs, ite_false, kept, later]
    cases u.splitTag place found (Value.asMembers more) <;> rfl

/-- The tag is found in the middle of the members, and picks the variant. -/
theorem splitTag_middle {place : Place} {height : Nat} {label : String} {variant : Variant α}
    (picks : u.variants.find? (fun variant => variant.label = label) = some variant)
    {front back : List (String × Value)} (other : ∀ entry ∈ front ++ back, entry.1 ≠ u.tag)
    (storable : ∀ entry ∈ front ++ back, entry.2.Storable height)
    (shallow : place.depth + height ≤ Draft.depthLimit) :
    u.splitTag place none (Value.asMembers (front ++ (u.tag, .string label) :: back)) =
      .ok (some variant, Value.asMembers (front ++ back)) := by
  obtain ⟨otherFront, otherBack⟩ := List.forall_mem_append.mp other
  obtain ⟨storableFront, storableBack⟩ := List.forall_mem_append.mp storable
  have tag : u.readTag place (.string label) = .ok variant := by
    simp only [readTag, Reader.variant, picks]
  have behind := splitTag_append (some variant) [] otherBack storableBack shallow
  rw [List.append_nil] at behind
  rw [splitTag_append none _ otherFront storableFront shallow, Value.asMembers_append]
  simp only [Value.asMembers, Value.asDraft, splitTag, ite_true, tag, bind, Except.bind, behind,
    Except.map, List.append_nil]

variable {β : Type} {r : Record β} {b : β} {make : β → α} {label : String} {fields : List Field}
  {height : Nat}

/-- Every object that shows a variant and holds its tag somewhere is read as this variant. -/
theorem reads (fits : r.Fits b fields height)
    (picks : u.variants.find? (fun variant => variant.label = label) =
      some (.ofRecord label r make))
    (untagged : u.tag ∉ fields.map Field.name) :
    Reads u.read (make b) (Presented (.needed u.tag (· = .string label) :: fields))
      (height + 1) where
  storable _ := by
    rintro ⟨members, rfl, arranged⟩
    obtain ⟨front, _, back, rfl, rfl, others, -⟩ := arranged.exists_needed untagged
    rw [Value.Storable]
    intro member h
    rcases List.mem_append.mp h with h | h
    · exact fits.storable others member (List.mem_append_left _ h)
    · rcases List.mem_cons.mp h with rfl | h
      · simp [Value.Storable]
      · exact fits.storable others member (List.mem_append_right _ h)
  back _ := by
    rintro ⟨members, rfl, arranged⟩ place shallow
    obtain ⟨front, _, back, rfl, rfl, others, ne⟩ := arranged.exists_needed untagged
    have split := splitTag_middle picks ne (fits.storable others) (Place.shallow_inner shallow)
    have read := fits.read_object others
      (show (Place.mk place.depth true).depth + _ ≤ _ from shallow)
    simp only [Value.asDraft, TaggedUnion.read, split, bind, Except.bind, Close.kept, orDamaged]
    simp only [Variant.ofRecord, read, Except.map]

end TaggedUnion

end WrapperSynthesis.Json

import WrapperSynthesis.Proofs.Json.Presentation

/-! Codecs of records and of tagged unions, from the codecs of their members. What is written is one
of the objects that show a record (`Members.kept_write`), so it is read back as they all are. -/

namespace WrapperSynthesis.Json

namespace Members

variable {α : Type} {αs : List Type} {height : Nat}

/-- Every member has a codec for its condition. -/
def Codec (height : Nat) : {αs : List Type} → Members αs → Conditions αs → Prop
  | _, nil, _ => True
  | _, cons member rest, (P, Ps) => member.Codec P height ∧ rest.Codec height Ps

def names : {αs : List Type} → Members αs → List String
  | _, nil => []
  | _, cons member rest => member.name :: rest.names

/-- The fields of a row, each shown as it is written. -/
def written : {αs : List Type} → Members αs → Row αs → List Field
  | _, nil, _ => []
  | _, cons member rest, (a, row) =>
    ⟨member.name, (member.write a = some ·), member.write a = none⟩ :: rest.written row

theorem name_written (members : Members αs) (row : Row αs) :
    (members.written row).map Field.name = members.names := by
  induction members with
  | nil => rfl
  | cons member rest ih => exact congrArg (member.name :: ·) (ih row.2)

theorem kept_write (members : Members αs) (row : Row αs) :
    Kept (members.written row) (members.write row) := by
  induction members with
  | nil => exact .nil
  | cons member rest ih =>
    obtain ⟨a, row⟩ := row
    cases h : member.write a with
    | none =>
      rw [write, h]
      exact .drop h (ih row)
    | some v =>
      rw [write, h]
      exact .keep h (ih row)

theorem fits_written {members : Members αs} {Ps : Conditions αs} (codec : members.Codec height Ps)
    {row : Row αs} (hrow : Ps.row row) : members.Fits height row (members.written row) := by
  induction members with
  | nil => exact .nil
  | cons member rest ih =>
    obtain ⟨a, row⟩ := row
    obtain ⟨P, Ps⟩ := Ps
    obtain ⟨first, others⟩ := codec
    obtain ⟨ha, hrow⟩ := hrow
    exact .cons ⟨rfl, ⟨fun v => first.storable a v ha, fun v => first.inverts a v ha⟩,
        first.skips a ha⟩
      (ih others hrow)

/-! ### What is read -/

theorem slots_blank (members : Members αs) (Ps : Conditions αs) : Ps.slots members.blank := by
  induction members with
  | nil => trivial
  | cons member rest ih => exact ⟨by simp, ih Ps.2⟩

theorem slots_of_accept {members : Members αs} {Ps : Conditions αs}
    (codec : members.Codec height Ps) {name : String} {place : Place} {d : Draft}
    {slots slots' : Slots αs} (hslots : Ps.slots slots)
    (ok : members.accept name place d slots = .ok (some slots')) : Ps.slots slots' := by
  induction members with
  | nil => cases ok
  | cons member rest ih =>
    obtain ⟨P, Ps⟩ := Ps
    obtain ⟨slot, slots⟩ := slots
    obtain ⟨first, others⟩ := codec
    obtain ⟨hslot, hslots⟩ := hslots
    simp only [accept] at ok
    split at ok
    · cases slot with
      | some a => cases ok
      | none =>
        obtain ⟨a, read, same⟩ := bind_eq_ok_iff.mp ok
        cases same
        refine ⟨?_, hslots⟩
        intro b hb
        cases hb
        exact first.yields place d _ read
    · obtain ⟨found, read, same⟩ := bind_eq_ok_iff.mp ok
      cases found with
      | none => cases same
      | some accepted =>
        cases same
        exact ⟨hslot, ih others hslots read⟩

theorem slots_of_acceptAll {members : Members αs} {Ps : Conditions αs}
    (codec : members.Codec height Ps) {place : Place} {entries : List (Key × Draft)}
    {slots slots' : Slots αs} (hslots : Ps.slots slots)
    (ok : members.acceptAll place slots entries = .ok slots') : Ps.slots slots' := by
  induction entries generalizing slots with
  | nil =>
    cases ok
    exact hslots
  | cons entry entries ih =>
    obtain ⟨key, d⟩ := entry
    cases key with
    | unpaired => cases ok
    | name name =>
      rw [acceptAll] at ok
      obtain ⟨found, read, more⟩ := bind_eq_ok_iff.mp ok
      cases found with
      | some accepted => exact ih (slots_of_accept codec hslots read) more
      | none =>
        obtain ⟨_, _, later⟩ := bind_eq_ok_iff.mp more
        exact ih hslots later

theorem row_of_complete {members : Members αs} {Ps : Conditions αs}
    (codec : members.Codec height Ps) {slots : Slots αs} {row : Row αs} (hslots : Ps.slots slots)
    (ok : members.complete slots = .ok row) : Ps.row row := by
  induction members with
  | nil => trivial
  | cons member rest ih =>
    obtain ⟨P, Ps⟩ := Ps
    obtain ⟨slot, slots⟩ := slots
    obtain ⟨first, others⟩ := codec
    obtain ⟨hslot, hslots⟩ := hslots
    rw [complete] at ok
    split at ok
    · cases ok
    · rename_i a ha
      obtain ⟨row, completed, same⟩ := bind_eq_ok_iff.mp ok
      cases same
      refine ⟨?_, ih others hslots completed⟩
      cases slot with
      | some b => exact hslot a ha
      | none => exact first.assumes a ha

theorem row_of_ofItems {members : Members αs} {Ps : Conditions αs}
    (codec : members.Codec height Ps) {expected : String} {place : Place} {close : Close}
    {index : Nat} {items extra : List Draft} {row : Row αs}
    (ok : members.ofItems expected place close index items = .ok (row, extra)) : Ps.row row := by
  induction members generalizing index items with
  | nil => trivial
  | cons member rest ih =>
    obtain ⟨P, Ps⟩ := Ps
    obtain ⟨first, others⟩ := codec
    cases items with
    | nil =>
      rw [ofItems] at ok
      obtain ⟨_, _, more⟩ := bind_eq_ok_iff.mp ok
      split at more
      · cases more
      · rename_i a ha
        obtain ⟨found, later, same⟩ := bind_eq_ok_iff.mp more
        cases same
        exact ⟨first.assumes a ha, ih others later⟩
    | cons d items =>
      rw [ofItems] at ok
      obtain ⟨a, read, more⟩ := bind_eq_ok_iff.mp ok
      obtain ⟨found, later, same⟩ := bind_eq_ok_iff.mp more
      cases same
      exact ⟨first.yields place d a read, ih others later⟩

end Members

/-! ### Records -/

namespace Record

variable {α : Type} {r : Record α} {Ps : Conditions r.types} {height : Nat}

/-- The rows of the record are its values, and its members can be told apart and have codecs. -/
structure Lawful (r : Record α) (Ps : Conditions r.types) (height : Nat) : Prop where
  members : r.members.Codec height Ps
  distinct : r.members.names.Nodup
  make_row : ∀ a, r.make (r.row a) = a
  row_make : ∀ row, r.row (r.make row) = row

theorem Lawful.fits (lawful : r.Lawful Ps height) {a : α} (ha : Ps.row (r.row a)) :
    r.Fits a (r.members.written (r.row a)) height where
  members := Members.fits_written lawful.members ha
  distinct := by
    rw [Members.name_written]
    exact lawful.distinct
  make_row := lawful.make_row a

theorem Lawful.yields (lawful : r.Lawful Ps height) {place : Place} {d : Draft} {a : α}
    (ok : r.read place d = .ok a) : Ps.row (r.row a) := by
  unfold read at ok
  split at ok
  · obtain ⟨slots, accepted, more⟩ := bind_eq_ok_iff.mp ok
    obtain ⟨_, _, more⟩ := bind_eq_ok_iff.mp more
    obtain ⟨row, completed, same⟩ := bind_eq_ok_iff.mp more
    cases same
    rw [lawful.row_make]
    exact Members.row_of_complete lawful.members
      (Members.slots_of_acceptAll lawful.members (Members.slots_blank _ _) accepted) completed
  · obtain ⟨found, items, more⟩ := bind_eq_ok_iff.mp ok
    obtain ⟨_, _, same⟩ := bind_eq_ok_iff.mp more
    cases same
    rw [lawful.row_make]
    exact Members.row_of_ofItems lawful.members items
  · exact (mismatch_ne_ok ok).elim

theorem presented_write (r : Record α) (a : α) :
    Presented (r.members.written (r.row a)) (r.write a) :=
  ⟨_, rfl, .of_kept (Members.kept_write _ _)⟩

theorem Lawful.codec (lawful : r.Lawful Ps height) {P : α → Prop}
    (same : ∀ a, Ps.row (r.row a) ↔ P a) : Codec r.read r.write P (height + 1) where
  storable a ha := (lawful.fits ((same a).mpr ha)).reads.storable _ (presented_write r a)
  inverts a ha := (lawful.fits ((same a).mpr ha)).reads.back _ (presented_write r a)
  yields _ _ a ok := (same a).mp (lawful.yields ok)

end Record

/-! ### Tagged unions -/

namespace TaggedUnion

variable {α : Type} {u : TaggedUnion α}

section Variants

variable {β : Type} {r : Record β} {Ps : Conditions r.types} {height : Nat} {make : β → α}
  {label : String}

/-- A written variant is read back when its label picks it out among the variants. -/
theorem reads_write (lawful : r.Lawful Ps height)
    (picks : u.variants.find? (fun variant => variant.label = label) =
      some (.ofRecord label r make))
    (untagged : u.tag ∉ r.members.names) {b : β} (hb : Ps.row (r.row b)) :
    Reads u.read (make b) (· = u.write label (r.entries b)) (height + 1) := by
  have all := reads (lawful.fits hb) picks (by rwa [Members.name_written])
  have shown : Presented (.needed u.tag (· = .string label) :: r.members.written (r.row b))
      (u.write label (r.entries b)) :=
    ⟨_, rfl, .of_kept (.keep rfl (Members.kept_write _ _))⟩
  refine ⟨?_, ?_⟩ <;> rintro _ rfl
  · exact all.storable _ shown
  · exact all.back _ shown

/-- What a variant adds to a codec of its union. -/
structure Branch (u : TaggedUnion α) (label : String) (r : Record β) (make : β → α) (P : α → Prop)
    (height : Nat) : Prop where
  storable : ∀ b, P (make b) → (u.write label (r.entries b)).Storable height
  inverts : ∀ b, P (make b) → ∀ place : Place, place.depth + height ≤ Draft.depthLimit →
    u.read place (u.write label (r.entries b)).asDraft = .ok (make b)
  yields : ∀ place d a, (Variant.ofRecord label r make).read place d = .ok a → P a

theorem branch (lawful : r.Lawful Ps height) {P : α → Prop}
    (picks : u.variants.find? (fun variant => variant.label = label) =
      some (.ofRecord label r make))
    (untagged : u.tag ∉ r.members.names) (same : ∀ b, Ps.row (r.row b) ↔ P (make b)) {limit : Nat}
    (le : height + 1 ≤ limit) : u.Branch label r make P limit where
  storable b hb := ((reads_write lawful picks untagged ((same b).mpr hb)).mono le).storable _ rfl
  inverts b hb := ((reads_write lawful picks untagged ((same b).mpr hb)).mono le).back _ rfl
  yields place d a ok := by
    obtain ⟨b, read, rfl⟩ := map_eq_ok_iff.mp ok
    exact (same b).mp (lawful.yields read)

end Variants

theorem mem_of_readTag {place : Place} {d : Draft} {variant : Variant α}
    (ok : u.readTag place d = .ok variant) : variant ∈ u.variants := by
  unfold readTag Reader.variant at ok
  split at ok
  · split at ok
    · rename_i found
      cases ok
      exact List.mem_of_find?_eq_some found
    · cases ok
  · exact (mismatch_ne_ok ok).elim

theorem mem_of_splitTag {place : Place} {found : Option (Variant α)} {entries : List (Key × Draft)}
    {variant : Variant α} {others : List (Key × Draft)}
    (known : ∀ v, found = some v → v ∈ u.variants)
    (ok : u.splitTag place found entries = .ok (some variant, others)) :
    variant ∈ u.variants := by
  induction entries generalizing found others with
  | nil =>
    cases ok
    exact known variant rfl
  | cons entry entries ih =>
    obtain ⟨key, d⟩ := entry
    cases key with
    | unpaired => cases ok
    | name name =>
      simp only [splitTag] at ok
      -- The tag is taken out of the members, and it may stand among them only once.
      split at ok
      · cases found with
        | some v => cases ok
        | none =>
          obtain ⟨v, tag, more⟩ := bind_eq_ok_iff.mp ok
          refine ih ?_ more
          rintro _ ⟨⟩
          exact mem_of_readTag tag
      · obtain ⟨_, _, more⟩ := bind_eq_ok_iff.mp ok
        obtain ⟨⟨found', others'⟩, later, same⟩ := bind_eq_ok_iff.mp more
        cases same
        exact ih known later

/-- What a union reads is read by one of its variants. -/
theorem exists_of_read {place : Place} {d : Draft} {a : α} (ok : u.read place d = .ok a) :
    ∃ variant ∈ u.variants, ∃ place d, variant.read place d = .ok a := by
  unfold read at ok
  split at ok
  · obtain ⟨⟨found, others⟩, split, more⟩ := bind_eq_ok_iff.mp ok
    obtain ⟨_, _, more⟩ := bind_eq_ok_iff.mp more
    cases found with
    | none => cases more
    | some variant => exact ⟨variant, mem_of_splitTag (by simp) split, _, _, more⟩
  · obtain ⟨_, _, more⟩ := bind_eq_ok_iff.mp ok
    cases more
  · obtain ⟨variant, tag, more⟩ := bind_eq_ok_iff.mp ok
    obtain ⟨_, _, more⟩ := bind_eq_ok_iff.mp more
    obtain ⟨_, _, more⟩ := bind_eq_ok_iff.mp more
    exact ⟨variant, mem_of_readTag tag, _, _, more⟩
  · exact (mismatch_ne_ok ok).elim

end TaggedUnion

end WrapperSynthesis.Json

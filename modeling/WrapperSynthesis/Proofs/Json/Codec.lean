import WrapperSynthesis.Json.TaggedUnion
import WrapperSynthesis.Proofs.Json.Printing
import WrapperSynthesis.Proofs.Result

/-! Readers that take back what a writer gave. A `Codec` is proved once for each way to build
readers and writers: scalars, lists, records and tagged unions. It also says of which values there
is a text (`inverts`), and that no others are read (`yields`). A union keeps its members before they
are read, so values have to be shallow enough and their numbers small enough to be kept
(`Value.Storable`). -/

namespace WrapperSynthesis.Json

theorem mismatch_ne_ok {α : Type} {expected : String} {d : Draft} {a : α} :
    mismatch expected d ≠ .ok a := by
  rw [mismatch]
  cases d.found <;> simp

/-! ### Values that can be kept -/

/-- The value has at most `height` brackets within each other, and its numbers fit 64 bits. -/
def Value.Storable : (height : Nat) → Value → Prop
  | _, null | _, bool _ | _, string _ => True
  | _, number n => n < Numeral.wordBound
  | 0, array _ | 0, object _ => False
  | height + 1, array items => ∀ v ∈ items, v.Storable height
  | height + 1, object members => ∀ member ∈ members, member.2.Storable height

theorem Value.Storable.mono {height height' : Nat} {v : Value} (h : v.Storable height)
    (le : height ≤ height') : v.Storable height' := by
  induction height generalizing v height' with
  | zero =>
    cases v with
    | array | object => simp [Storable] at h
    | null | bool | string => simp [Storable]
    | number n => simpa [Storable] using h
  | succ height ih =>
    obtain ⟨height', rfl⟩ : ∃ k, height' = k + 1 := ⟨height' - 1, by omega⟩
    cases v with
    | null | bool | string => simp [Storable]
    | number n => simpa [Storable] using h
    | array items =>
      simp only [Storable] at h ⊢
      exact fun v hv => ih (h v hv) (by omega)
    | object members =>
      simp only [Storable] at h ⊢
      exact fun member hm => ih (h member hm) (by omega)

theorem keptItems_asDrafts {depth : Nat} {items : List Value}
    (kept : ∀ v ∈ items, v.asDraft.kept depth = .ok ()) :
    Draft.keptItems depth (Value.asDrafts items) = .ok () := by
  induction items with
  | nil => rfl
  | cons v items ih =>
    simp only [Value.asDrafts, Draft.keptItems, kept v List.mem_cons_self,
      ih fun w hw => kept w (List.mem_cons_of_mem v hw)]
    rfl

theorem keptMembers_asMembers {depth : Nat} {members : List (String × Value)}
    (kept : ∀ member ∈ members, member.2.asDraft.kept depth = .ok ()) :
    Draft.keptMembers depth (Value.asMembers members) = .ok () := by
  induction members with
  | nil => rfl
  | cons member members ih =>
    obtain ⟨key, v⟩ := member
    simp only [Value.asMembers, Draft.keptMembers, kept (key, v) List.mem_cons_self,
      ih fun w hw => kept w (List.mem_cons_of_mem _ hw)]
    rfl

theorem kept_asDraft {height depth : Nat} {v : Value} (h : v.Storable height)
    (shallow : depth + height ≤ Draft.depthLimit) : v.asDraft.kept depth = .ok () := by
  induction height generalizing v depth with
  | zero =>
    cases v with
    | array | object => simp [Value.Storable] at h
    | null | bool | string => rfl
    | number n =>
      have fits : n < Numeral.wordBound := by simpa [Value.Storable] using h
      simp [Value.asDraft, Draft.kept, Numeral.value?_ofNat fits]
  | succ height ih =>
    have deeper : depth < Draft.depthLimit := by omega
    cases v with
    | null | bool | string => rfl
    | number n =>
      have fits : n < Numeral.wordBound := by simpa [Value.Storable] using h
      simp [Value.asDraft, Draft.kept, Numeral.value?_ofNat fits]
    | array items =>
      simp only [Value.Storable] at h
      have inner : Draft.keptItems (depth + 1) (Value.asDrafts items) = .ok () :=
        keptItems_asDrafts fun v hv => ih (h v hv) (by omega)
      simp only [Value.asDraft, Draft.kept, deeper, inner, ite_true]
      rfl
    | object members =>
      simp only [Value.Storable] at h
      have inner : Draft.keptMembers (depth + 1) (Value.asMembers members) = .ok () :=
        keptMembers_asMembers fun m hm => ih (h m hm) (by omega)
      simp only [Value.asDraft, Draft.kept, deeper, inner, ite_true]
      rfl

theorem skipped_asDraft {v : Value} (h : v.Storable 0) : v.asDraft.skipped = .ok () := by
  cases v with
  | array | object => simp [Value.Storable] at h
  | null | bool | number | string => rfl

theorem Place.shallow_inner {place : Place} {height : Nat}
    (shallow : place.depth + (height + 1) ≤ Draft.depthLimit) :
    place.inner.depth + height ≤ Draft.depthLimit := by
  show place.depth + 1 + height ≤ Draft.depthLimit
  omega

/-! ### Codecs -/

/-- The reader reads back each written value of which `P` holds, and `P` holds of all that it
reads. -/
structure Codec {α : Type} (read : Reader α) (write : α → Value) (P : α → Prop) (height : Nat) :
    Prop where
  storable : ∀ a, P a → (write a).Storable height
  inverts : ∀ a, P a → ∀ place : Place, place.depth + height ≤ Draft.depthLimit →
    read place (write a).asDraft = .ok a
  yields : ∀ place d a, read place d = .ok a → P a

namespace Codec

variable {α : Type} {read : Reader α} {write : α → Value} {P P' : α → Prop} {height height' : Nat}

theorem mono (codec : Codec read write P height) (le : height ≤ height') :
    Codec read write P height' where
  storable a ha := (codec.storable a ha).mono le
  inverts a ha place shallow := codec.inverts a ha place (by omega)
  yields := codec.yields

theorem congr (codec : Codec read write P height) (same : ∀ a, P a ↔ P' a) :
    Codec read write P' height where
  storable a ha := codec.storable a ((same a).mpr ha)
  inverts a ha := codec.inverts a ((same a).mpr ha)
  yields place d a ok := (same a).mp (codec.yields place d a ok)

theorem string : Codec Reader.string .string (fun _ => True) height where
  storable _ _ := by simp [Value.Storable]
  inverts _ _ _ _ := rfl
  yields _ _ _ _ := trivial

theorem bool : Codec Reader.bool .bool (fun _ => True) height where
  storable _ _ := by simp [Value.Storable]
  inverts _ _ _ _ := rfl
  yields _ _ _ _ := trivial

theorem natBelow {bound : Nat} {expected : String} (narrow : bound ≤ Numeral.wordBound) :
    Codec (Reader.natBelow bound expected) .number (· < bound) height where
  storable n hn := by
    simp only [Value.Storable]
    exact Nat.lt_of_lt_of_le hn narrow
  inverts n hn place shallow := by
    have value := Numeral.value?_ofNat (Nat.lt_of_lt_of_le hn narrow)
    simp [Value.asDraft, Reader.natBelow, value, hn]
  yields place d n ok := by
    unfold Reader.natBelow at ok
    split at ok
    · split at ok
      · cases ok
      · cases ok
      · split at ok
        · rename_i inside
          cases ok
          simp only [Bool.and_eq_true, decide_eq_true_eq] at inside
          omega
        · cases ok
    · exact (mismatch_ne_ok ok).elim

/-- A codec of values that stand for others one to one. -/
theorem map {β : Type} (codec : Codec read write P height) {make : α → β} {part : β → α}
    (make_part : ∀ b, make (part b) = b) (part_make : ∀ a, part (make a) = a) :
    Codec (fun place d => (read place d).map make) (fun b => write (part b)) (fun b => P (part b))
      height where
  storable b hb := codec.storable (part b) hb
  inverts b hb place shallow := by
    simp only [codec.inverts (part b) hb place shallow, Except.map, make_part]
  yields place d b ok := by
    obtain ⟨a, read, rfl⟩ := map_eq_ok_iff.mp ok
    rw [part_make]
    exact codec.yields place d a read

theorem items_asDrafts (codec : Codec read write P height) {as : List α} (has : ∀ a ∈ as, P a)
    {place : Place} (shallow : place.depth + height ≤ Draft.depthLimit) :
    Reader.items read place (Value.asDrafts (as.map write)) = .ok as := by
  induction as with
  | nil => rfl
  | cons a as ih =>
    simp only [List.map_cons, Value.asDrafts, Reader.items,
      codec.inverts a (has a List.mem_cons_self) place shallow,
      ih fun b hb => has b (List.mem_cons_of_mem a hb)]
    rfl

theorem of_mem_items (codec : Codec read write P height) {place : Place} {ds : List Draft}
    {as : List α} (ok : Reader.items read place ds = .ok as) : ∀ a ∈ as, P a := by
  induction ds generalizing as with
  | nil =>
    cases ok
    simp
  | cons d ds ih =>
    obtain ⟨a, first, more⟩ := bind_eq_ok_iff.mp ok
    obtain ⟨rest, others, same⟩ := bind_eq_ok_iff.mp more
    cases same
    intro b hb
    rcases List.mem_cons.mp hb with rfl | hb
    · exact codec.yields place d b first
    · exact ih others b hb

theorem list (codec : Codec read write P height) :
    Codec (Reader.list read) (fun as => .array (as.map write)) (fun as => ∀ a ∈ as, P a)
      (height + 1) where
  storable as has := by
    simp only [Value.Storable, List.mem_map]
    rintro v ⟨a, ha, rfl⟩
    exact codec.storable a (has a ha)
  inverts as has place shallow := by
    simp only [Value.asDraft, Reader.list, codec.items_asDrafts has (Place.shallow_inner shallow)]
    rfl
  yields place d as ok := by
    unfold Reader.list at ok
    split at ok
    · obtain ⟨found, items, more⟩ := bind_eq_ok_iff.mp ok
      obtain ⟨_, _, same⟩ := bind_eq_ok_iff.mp more
      cases same
      exact codec.of_mem_items items
    · exact (mismatch_ne_ok ok).elim

end Codec

/-! ### Members of a record -/

/-- What is asked of each member of a row. -/
def Conditions : List Type → Type
  | [] => Unit
  | α :: αs => (α → Prop) × Conditions αs

namespace Conditions

def row : {αs : List Type} → Conditions αs → Row αs → Prop
  | [], _, _ => True
  | _ :: _, (P, Ps), (a, row) => P a ∧ Ps.row row

/-- The conditions of the slots that have been filled. -/
def slots : {αs : List Type} → Conditions αs → Slots αs → Prop
  | [], _, _ => True
  | _ :: _, (P, Ps), (slot, slots) => (∀ a, slot = some a → P a) ∧ Ps.slots slots

end Conditions

/-- A member is read back when it is written, and otherwise has the value of an absent one. -/
structure Member.Codec {α : Type} (member : Member α) (P : α → Prop) (height : Nat) : Prop where
  storable : ∀ a v, P a → member.write a = some v → v.Storable height
  inverts : ∀ a v, P a → member.write a = some v → ∀ place : Place,
    place.depth + height ≤ Draft.depthLimit → member.read place v.asDraft = .ok a
  skips : ∀ a, P a → member.write a = none → member.absent = some a
  yields : ∀ place d a, member.read place d = .ok a → P a
  assumes : ∀ a, member.absent = some a → P a

namespace Member

variable {α : Type} {read : Reader α} {write : α → Value} {P : α → Prop} {height : Nat}

theorem Codec.of (name : String) (codec : Json.Codec read write P height) {absent : Option α}
    (assumes : ∀ a, absent = some a → P a := by simp) :
    (Member.of name read write absent).Codec P height where
  storable a v ha hv := by
    cases hv
    exact codec.storable a ha
  inverts a v ha hv place shallow := by
    cases hv
    exact codec.inverts a ha place shallow
  skips a ha hv := nomatch hv
  yields := codec.yields
  assumes := assumes

theorem Codec.optional (name : String) (codec : Json.Codec read write P height)
    (present : ∀ a, (write a).asDraft ≠ .null) :
    (Member.optional name read write).Codec (fun found => ∀ a, found = some a → P a) height where
  storable found v hfound hv := by
    obtain ⟨a, rfl, rfl⟩ := Option.map_eq_some_iff.mp hv
    exact codec.storable a (hfound a rfl)
  inverts found v hfound hv place shallow := by
    obtain ⟨a, rfl, rfl⟩ := Option.map_eq_some_iff.mp hv
    have back := codec.inverts a (hfound a rfl) place shallow
    show Reader.option read place (write a).asDraft = _
    rw [Reader.option.eq_2 _ _ _ (present a), back]
    rfl
  skips found _ hv := by
    rw [Option.map_eq_none_iff.mp hv]
    rfl
  yields place d found ok := by
    rintro a rfl
    by_cases none : d = .null
    · subst none
      cases ok
    · change Reader.option read place d = _ at ok
      rw [Reader.option.eq_2 _ _ _ none] at ok
      obtain ⟨a', ok', same⟩ := map_eq_ok_iff.mp ok
      cases same
      exact codec.yields place d a ok'
  assumes found none := by
    cases none
    simp

end Member

end WrapperSynthesis.Json

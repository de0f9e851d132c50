import WrapperSynthesis.Proofs.Json.Length
import WrapperSynthesis.Proofs.Service.FileFormat

/-! A service has no more methods and types than the text from which it was read has characters, two
for each (`size_le_length`). What a record holds is measured member by member, like its codec. -/

namespace WrapperSynthesis.Json

/-- A size for each member of a row. -/
def Sizes : List Type → Type
  | [] => Unit
  | α :: αs => (α → Nat) × Sizes αs

namespace Sizes

def row : {αs : List Type} → Sizes αs → Row αs → Nat
  | [], _, _ => 0
  | _ :: _, (size, sizes), (a, row) => size a + sizes.row row

/-- The size of the slots that have been filled. -/
def slots : {αs : List Type} → Sizes αs → Slots αs → Nat
  | [], _, _ => 0
  | _ :: _, (size, sizes), (slot, slots) => slot.elim 0 size + sizes.slots slots

end Sizes

/-- What the member reads is no larger than its value, and nothing is assumed that has a size. -/
structure Member.Measured {α : Type} (member : Member α) (size : α → Nat) : Prop where
  read_le : ∀ place d a, member.read place d = .ok a → size a ≤ d.weight
  absent_eq : ∀ a, member.absent = some a → size a = 0

namespace Members

variable {αs : List Type}

/-- Every member is measured by its size. -/
def Measured : {αs : List Type} → Members αs → Sizes αs → Prop
  | _, nil, _ => True
  | _, cons member rest, (size, sizes) => member.Measured size ∧ rest.Measured sizes

theorem slots_blank_eq (members : Members αs) (sizes : Sizes αs) :
    sizes.slots members.blank = 0 := by
  induction members with
  | nil => rfl
  | cons member rest ih => exact (Nat.zero_add _).trans (ih sizes.2)

theorem slots_le_of_accept {members : Members αs} {sizes : Sizes αs}
    (measured : members.Measured sizes) {name : String} {place : Place} {d : Draft}
    {slots slots' : Slots αs} (ok : members.accept name place d slots = .ok (some slots')) :
    sizes.slots slots' ≤ sizes.slots slots + d.weight := by
  induction members with
  | nil => cases ok
  | cons member rest ih =>
    obtain ⟨size, sizes⟩ := sizes
    obtain ⟨slot, slots⟩ := slots
    obtain ⟨first, others⟩ := measured
    simp only [accept] at ok
    -- The member is for the first slot, which is empty, or for a later one.
    split at ok
    · cases slot with
      | some a => cases ok
      | none =>
        obtain ⟨a, read, same⟩ := bind_eq_ok_iff.mp ok
        cases same
        have := first.read_le place d a read
        simp only [Sizes.slots, Option.elim]
        omega
    · obtain ⟨found, read, same⟩ := bind_eq_ok_iff.mp ok
      cases found with
      | none => cases same
      | some accepted =>
        cases same
        have := ih others read
        simp only [Sizes.slots]
        omega

theorem slots_le_of_acceptAll {members : Members αs} {sizes : Sizes αs}
    (measured : members.Measured sizes) {place : Place} {entries : List (Key × Draft)}
    {slots slots' : Slots αs} (ok : members.acceptAll place slots entries = .ok slots') :
    sizes.slots slots' ≤ sizes.slots slots + Draft.weightMembers entries := by
  induction entries generalizing slots with
  | nil =>
    cases ok
    exact Nat.le_add_right _ _
  | cons entry entries ih =>
    obtain ⟨key, d⟩ := entry
    cases key with
    | unpaired => cases ok
    | name name =>
      rw [acceptAll] at ok
      obtain ⟨found, read, more⟩ := bind_eq_ok_iff.mp ok
      simp only [Draft.weightMembers]
      -- A member that no field takes is skipped, so it only adds to the weight.
      cases found with
      | some accepted =>
        have := slots_le_of_accept measured read
        have := ih more
        omega
      | none =>
        obtain ⟨_, _, later⟩ := bind_eq_ok_iff.mp more
        have := ih later
        omega

theorem row_le_of_complete {members : Members αs} {sizes : Sizes αs}
    (measured : members.Measured sizes) {slots : Slots αs} {row : Row αs}
    (ok : members.complete slots = .ok row) : sizes.row row ≤ sizes.slots slots := by
  induction members with
  | nil => exact Nat.le_refl _
  | cons member rest ih =>
    obtain ⟨size, sizes⟩ := sizes
    obtain ⟨slot, slots⟩ := slots
    obtain ⟨first, others⟩ := measured
    rw [complete] at ok
    split at ok
    · cases ok
    · rename_i a ha
      obtain ⟨row, completed, same⟩ := bind_eq_ok_iff.mp ok
      cases same
      have later := ih others completed
      simp only [Sizes.row, Sizes.slots]
      cases slot with
      | some b =>
        cases ha
        exact Nat.add_le_add_left later _
      | none =>
        -- What stands in for an absent member has no size.
        have none := first.absent_eq a ha
        omega

theorem row_le_of_ofItems {members : Members αs} {sizes : Sizes αs}
    (measured : members.Measured sizes) {expected : String} {place : Place} {close : Close}
    {index : Nat} {items extra : List Draft} {row : Row αs}
    (ok : members.ofItems expected place close index items = .ok (row, extra)) :
    sizes.row row ≤ Draft.weightItems items := by
  induction members generalizing index items with
  | nil => exact Nat.zero_le _
  | cons member rest ih =>
    obtain ⟨size, sizes⟩ := sizes
    obtain ⟨first, others⟩ := measured
    cases items with
    | nil =>
      rw [ofItems] at ok
      obtain ⟨_, _, more⟩ := bind_eq_ok_iff.mp ok
      split at more
      · cases more
      · rename_i a ha
        obtain ⟨found, later, same⟩ := bind_eq_ok_iff.mp more
        cases same
        have := ih others later
        have none := first.absent_eq a ha
        simp only [Sizes.row]
        omega
    | cons d items =>
      rw [ofItems] at ok
      obtain ⟨a, read, more⟩ := bind_eq_ok_iff.mp ok
      obtain ⟨found, later, same⟩ := bind_eq_ok_iff.mp more
      cases same
      have := first.read_le place d a read
      have := ih others later
      simp only [Sizes.row, Draft.weightItems]
      omega

end Members

theorem close_of_orDamaged {close : Close} (ok : orDamaged close.kept = .ok ()) :
    close = .closed := by
  cases close with
  | closed => rfl
  | cut => cases ok

/-- A record that was read was not cut off, and it holds no more than its value. -/
theorem Record.row_le_of_read {α : Type} {r : Record α} {sizes : Sizes r.types}
    (measured : r.members.Measured sizes) (row_make : ∀ row, r.row (r.make row) = row)
    {place : Place} {d : Draft} {a : α} (ok : r.read place d = .ok a) :
    d.Ends ∧ sizes.row (r.row a) ≤ d.weight := by
  unfold read at ok
  split at ok
  · obtain ⟨slots, accepted, more⟩ := bind_eq_ok_iff.mp ok
    obtain ⟨_, closed, more⟩ := bind_eq_ok_iff.mp more
    obtain ⟨row, completed, same⟩ := bind_eq_ok_iff.mp more
    cases same
    have filled := Members.slots_le_of_acceptAll measured accepted
    have held := Members.row_le_of_complete measured completed
    rw [Members.slots_blank_eq] at filled
    refine ⟨close_of_orDamaged closed, ?_⟩
    rw [row_make]
    simp only [Draft.weight]
    omega
  · obtain ⟨⟨row, extra⟩, items, more⟩ := bind_eq_ok_iff.mp ok
    obtain ⟨_, closed, same⟩ := bind_eq_ok_iff.mp more
    cases same
    constructor
    · unfold noMore at closed
      split at closed
      · exact close_of_orDamaged closed
      · split at closed <;> cases closed
    · rw [row_make]
      exact Members.row_le_of_ofItems measured items
  · exact (mismatch_ne_ok ok).elim

theorem Reader.length_le_of_list {α : Type} {read : Reader α} {place : Place} {d : Draft}
    {as : List α} (ok : Reader.list read place d = .ok as) : 2 * as.length ≤ d.weight := by
  unfold Reader.list at ok
  split at ok
  · rename_i items _
    obtain ⟨found, read, more⟩ := bind_eq_ok_iff.mp ok
    obtain ⟨_, _, same⟩ := bind_eq_ok_iff.mp more
    cases same
    have all : as.length = items.length := by
      clear more ok
      induction items generalizing as with
      | nil =>
        cases read
        rfl
      | cons d items ih =>
        obtain ⟨a, _, more⟩ := bind_eq_ok_iff.mp read
        obtain ⟨rest, others, same⟩ := bind_eq_ok_iff.mp more
        cases same
        simp [ih others]
    rw [all]
    exact Draft.length_le_weightItems items
  · exact (mismatch_ne_ok ok).elim

end WrapperSynthesis.Json

namespace WrapperSynthesis

open Json

/-- Two for each method and each type. -/
def Service.sizes : Sizes record.types :=
  (fun _ => 0, fun methods => 2 * methods.length, fun types => 2 * types.size, ())

theorem Service.measured : record.members.Measured sizes := by
  refine ⟨⟨fun _ _ _ _ => Nat.zero_le _, fun _ _ => rfl⟩,
    ⟨fun _ _ _ ok => Reader.length_le_of_list ok, ?_⟩, ⟨?_, ?_⟩, trivial⟩
  · intro methods none
    cases none
    rfl
  · intro place d types ok
    obtain ⟨members, read, rfl⟩ := map_eq_ok_iff.mp ok
    exact Reader.length_le_of_list read
  · intro types none
    cases none
    rfl

theorem Service.size_le_length {text : String} {s : Service} (ok : ofJson text = .ok s) :
    2 * (s.methods.length + s.types.size) ≤ text.length := by
  obtain ⟨found, read, same⟩ := bind_eq_ok_iff.mp ok
  split at same
  · cases same
  · cases same
    obtain ⟨ends, held⟩ := Record.row_le_of_read measured (fun _ => rfl) read
    have short := weight_root_le ends
    have all : sizes.row (record.row s) = 2 * s.methods.length + 2 * s.types.size := by
      simp [sizes, Sizes.row, record]
    omega

end WrapperSynthesis

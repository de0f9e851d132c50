import Mathlib.Algebra.Group.Nat.Defs
import WrapperSynthesis.Proofs.Pass.Walk
import WrapperSynthesis.Proofs.Service.Consistency
import WrapperSynthesis.Proofs.Service.FileSize

/-! What a pass makes of a service that was read from a file can be written to a file: no method
adds more than three types, so all handles stay within the numbers of a file
(`storable_of_run_augment`). -/

namespace WrapperSynthesis

variable {naming : Naming} {settings : GenerationSettings}

theorem length_candidatesOf_le (naming : Naming) (settings : GenerationSettings)
    (methods : List Method) :
    (candidatesOf naming settings methods).length ≤ 3 * methods.length := by
  induction methods with
  | nil => exact Nat.le_refl _
  | cons m rest ih =>
    have := m.length_candidates_le naming (settings.kindOf m)
    have := (settings.kindOf m).wrapperCount_le
    simp only [candidatesOf_cons, List.length_append, List.length_cons]
    omega

/-- A candidate mentions nothing but the type that it wraps. -/
theorem target?_of_mem_mentioned {m : Method} {kind : OperationKind} {type : ModelType}
    (ht : type ∈ m.candidates naming kind) {id : TypeId} (hid : id ∈ type.mentioned) :
    type.target? = some id := by
  obtain ⟨_, h, _, rfl⟩ | ⟨p, hp, rfl⟩ := Method.exists_of_mem_candidates ht
  · exact Option.mem_toList.mp hid
  · obtain ⟨element, _, rfl⟩ := Method.exists_of_pageIterator hp
    simp only [ModelType.mentioned, PageIterator.ofElement, List.mem_cons, or_self,
      List.not_mem_nil, or_false] at hid
    rw [hid]
    rfl

/-- Handles of members fit the numbers of a file when there are no more members than numbers. -/
theorem Registry.storable_of_hasId {r : Registry} (room : r.size ≤ TypeId.bound) {id : TypeId}
    (known : r.hasId id = true) : id.Storable :=
  Nat.lt_of_lt_of_le (hasId_iff.mp known) room

/-- With room for three types for each method, a pass keeps a service within the numbers of a
file. -/
theorem storable_of_run_augment {s s' : Service} {report : Report} (h : s.Storable)
    (room : s.types.size + 3 * s.methods.length ≤ TypeId.bound)
    (run : (Service.augment naming settings).run s = .ok report s') : s'.Storable := by
  obtain ⟨-, reworked, faultless⟩ := reworked_of_run_augment run
  have consistent := s'.faults_eq_nil_iff.mp faultless
  have roomy : s'.types.size ≤ TypeId.bound := by
    have := Registry.size_registerAll_le s.types (candidatesOf naming settings s.methods)
    have := length_candidatesOf_le naming settings s.methods
    rw [reworked.types]
    omega
  constructor
  · intro m hm id hid
    exact Registry.storable_of_hasId roomy (consistent.registered m hm id hid)
  · intro type ht id hid
    have member : type ∈ s'.types.members := ht
    rw [reworked.types] at member
    rcases Registry.mem_of_mem_registerAll member with old | ⟨new, -⟩
    · exact h.types type old id hid
    -- A new type mentions only its target, which is a member as the pass left no fault.
    · obtain ⟨m, _, hm⟩ := List.mem_flatMap.mp new
      exact Registry.storable_of_hasId roomy
        (consistent.targets type ht id (target?_of_mem_mentioned hm hid))

/-- A service that was read from a text of less than `2 ^ 63` characters leaves that room. -/
theorem room_of_ofJson {text : String} {s : Service} (ok : Service.ofJson text = .ok s)
    (small : text.length < 2 ^ 63) : s.types.size + 3 * s.methods.length ≤ TypeId.bound := by
  have := Service.size_le_length ok
  simp only [TypeId.bound]
  omega

end WrapperSynthesis

import Mathlib.Data.List.Forall2
import WrapperSynthesis.Proofs.Registry.Index
import WrapperSynthesis.Proofs.Registry.Renumbering

/-! Registering a row of candidates in a registry that may hold keys more than once. The registry
takes up the first candidate of each new key, every candidate is answered with the canonical member
of its key in the registry that this leads to, and from then on nothing changes any more when the
candidates come again. In another order the candidates lead to the same keys, and the same
candidates share a member (`registerEach_of_history`). -/

namespace WrapperSynthesis

namespace IndexedRegistry

/-- Registers candidates in order and returns the handle of each. -/
def registerEach (r : IndexedRegistry) : List ModelType → List TypeId × IndexedRegistry
  | [] => ([], r)
  | candidate :: rest =>
    let (id, next) := r.register candidate
    let (ids, final) := next.registerEach rest
    (id :: ids, final)

/-- The candidates are answered with their canonical members. -/
def Answers (r : IndexedRegistry) (candidates : List ModelType) (ids : List TypeId) : Prop :=
  List.Forall₂ (fun candidate id => r.canonicalOf candidate = .ok id) candidates ids

variable {r : IndexedRegistry} {candidates others : List ModelType} {ids ids' : List TypeId}

theorem registerEach_cons (r : IndexedRegistry) (candidate : ModelType) (rest : List ModelType) :
    r.registerEach (candidate :: rest) =
      ((r.register candidate).1 :: ((r.register candidate).2.registerEach rest).1,
        ((r.register candidate).2.registerEach rest).2) := rfl

/-! ### The answers -/

namespace Answers

theorem canonicalOf_eq (answers : r.Answers candidates ids) {p : ModelType × TypeId}
    (hp : p ∈ candidates.zip ids) : r.canonicalOf p.1 = .ok p.2 :=
  (List.forall₂_iff_zip.mp answers).2 hp

theorem exists_mem_zip (answers : r.Answers candidates ids) {candidate : ModelType}
    (asked : candidate ∈ candidates) : ∃ id, (candidate, id) ∈ candidates.zip ids := by
  have firsts : (candidates.zip ids).map Prod.fst = candidates :=
    List.map_fst_zip (Nat.le_of_eq answers.length_eq)
  rw [← firsts, List.mem_map] at asked
  obtain ⟨⟨_, id⟩, hp, rfl⟩ := asked
  exact ⟨id, hp⟩

/-- The same candidate is always answered in the same way. -/
theorem mem_zip_of_mem_zip (answers : r.Answers candidates ids) (answers' : r.Answers others ids')
    (asked : ∀ candidate ∈ others, candidate ∈ candidates) {p : ModelType × TypeId}
    (hp : p ∈ others.zip ids') : p ∈ candidates.zip ids := by
  obtain ⟨candidate, id⟩ := p
  obtain ⟨id', hp'⟩ := answers.exists_mem_zip (asked candidate (List.of_mem_zip hp).1)
  have again : r.canonicalOf candidate = .ok id := answers'.canonicalOf_eq hp
  have before : r.canonicalOf candidate = .ok id' := answers.canonicalOf_eq hp'
  rw [again] at before
  obtain rfl := Except.ok.inj before
  exact hp'

/-- Two candidates are answered with one handle exactly when they have one key. -/
theorem eq_iff_key_eq (answers : r.Answers candidates ids) (sound : r.Sound)
    {p q : ModelType × TypeId} (hp : p ∈ candidates.zip ids) (hq : q ∈ candidates.zip ids) :
    p.2 = q.2 ↔ p.1.key = q.1.key := by
  have canonical := answers.canonicalOf_eq hp
  have canonical' := answers.canonicalOf_eq hq
  rw [sound.canonicalOf_eq, Registry.canonicalOf_eq_ok_iff] at canonical canonical'
  constructor
  · intro equal
    rw [← equal] at canonical'
    exact Registry.key_eq_of_idOf? canonical canonical'
  · intro same
    rw [← same, canonical] at canonical'
    exact Option.some.inj canonical'

end Answers

/-! ### Registering a row -/

namespace Sound

theorem registerEach (sound : r.Sound) (candidates : List ModelType) :
    (r.registerEach candidates).2.Sound ∧
      (r.registerEach candidates).2.toRegistry = r.toRegistry.registerAll candidates := by
  induction candidates generalizing r with
  | nil => exact ⟨sound, rfl⟩
  | cons candidate rest ih =>
    obtain ⟨sound', registry⟩ := ih (sound.register candidate)
    rw [registerEach_cons, Registry.registerAll_cons, ← (sound.register_eq candidate).2]
    exact ⟨sound', registry⟩

theorem canonicalOf_register (sound : r.Sound) (candidate : ModelType) :
    (r.register candidate).2.canonicalOf candidate = .ok (r.register candidate).1 := by
  obtain ⟨id, registry⟩ := sound.register_eq candidate
  rw [(sound.register candidate).canonicalOf_eq, Registry.canonicalOf_eq_ok_iff, id, registry]
  exact Registry.idOf?_register r.toRegistry candidate

theorem answers_registerEach (sound : r.Sound) (candidates : List ModelType) :
    (r.registerEach candidates).2.Answers candidates (r.registerEach candidates).1 := by
  induction candidates generalizing r with
  | nil => exact .nil
  | cons candidate rest ih =>
    have sound' := sound.register candidate
    obtain ⟨final, registry⟩ := sound'.registerEach rest
    have first := sound.canonicalOf_register candidate
    rw [sound'.canonicalOf_eq, Registry.canonicalOf_eq_ok_iff] at first
    refine .cons ?_ (ih sound')
    -- The candidates after it do not displace the canonical member.
    rw [registerEach_cons, final.canonicalOf_eq, Registry.canonicalOf_eq_ok_iff, registry]
    exact (Registry.grows_registerAll _ rest).idOf? first

end Sound

/-- Candidates that are registered already leave the registry as it is, index included. -/
theorem registerEach_of_registered
    (registered : ∀ candidate ∈ candidates, ∃ id, r.canonicalOf candidate = .ok id) :
    (r.registerEach candidates).2 = r := by
  induction candidates with
  | nil => rfl
  | cons candidate rest ih =>
    obtain ⟨id, found⟩ := registered candidate List.mem_cons_self
    have unchanged : r.register candidate = (id, r) := by
      rw [register, found]
    rw [registerEach_cons, unchanged]
    exact ih fun later h => registered later (List.mem_cons_of_mem _ h)

/-- A row of candidates is registered in a registry with any history. The first candidates of the
new keys are appended, in order. Each candidate is answered with its canonical member in the
registry at the end, so two of them share a handle exactly when they have one key. When candidates
of the row come again, in any order and number, they are answered as before and nothing changes. The
row in another order leads to a registry with the same keys, in which the same candidates share a
handle. -/
theorem registerEach_of_history (steps : List RegistryStep) (candidates : List ModelType) :
    let r := RegistryStep.applyAll steps {}
    let ids := (r.registerEach candidates).1
    let final := (r.registerEach candidates).2
    final.members = r.members ++ r.toRegistry.newcomers candidates ∧
    final.Answers candidates ids ∧
    (∀ p ∈ candidates.zip ids, ∀ q ∈ candidates.zip ids, p.2 = q.2 ↔ p.1.key = q.1.key) ∧
    (∀ again, (∀ candidate ∈ again, candidate ∈ candidates) →
      (final.registerEach again).2 = final ∧
      (final.registerEach again).1.length = again.length ∧
      ∀ p ∈ again.zip (final.registerEach again).1, p ∈ candidates.zip ids) ∧
    ∀ others, others.Perm candidates →
      let ids' := (r.registerEach others).1
      let final' := (r.registerEach others).2
      (final'.members.map ModelType.key).Perm (final.members.map ModelType.key) ∧
      final'.members.length = final.members.length ∧
      ∀ p ∈ candidates.zip ids, ∀ q ∈ candidates.zip ids,
        ∀ p' ∈ others.zip ids', ∀ q' ∈ others.zip ids', p'.1 = p.1 → q'.1 = q.1 →
          (p'.2 = q'.2 ↔ p.2 = q.2) := by
  intro r ids final
  have sound : r.Sound := sound_of_history steps
  obtain ⟨sound', registry⟩ := sound.registerEach candidates
  have answers : final.Answers candidates ids := sound.answers_registerEach candidates
  refine ⟨?_, answers, ?_, ?_, ?_⟩
  · have members : final.members = (r.toRegistry.registerAll candidates).members :=
      congrArg Registry.members registry
    rw [members, Registry.members_registerAll]
    rfl
  · intro p hp q hq
    exact answers.eq_iff_key_eq sound' hp hq
  · intro again asked
    have unchanged : (final.registerEach again).2 = final := by
      -- What was answered once is registered, and a registered candidate is not appended.
      refine registerEach_of_registered fun candidate h => ?_
      obtain ⟨id, hp⟩ := answers.exists_mem_zip (asked candidate h)
      exact ⟨id, answers.canonicalOf_eq hp⟩
    have answers' := sound'.answers_registerEach again
    refine ⟨unchanged, answers'.length_eq.symm, fun p hp => ?_⟩
    rw [unchanged] at answers'
    exact answers.mem_zip_of_mem_zip answers' asked hp
  · intro others same ids' final'
    obtain ⟨sound'', registry'⟩ := sound.registerEach others
    have answers' : final'.Answers others ids' := sound.answers_registerEach others
    have keys : (final'.members.map ModelType.key).Perm (final.members.map ModelType.key) := by
      have members := Registry.perm_keys_registerAll r.toRegistry same
      rwa [← registry, ← registry'] at members
    have lengths := keys.length_eq
    rw [List.length_map, List.length_map] at lengths
    refine ⟨keys, lengths, ?_⟩
    intro p hp q hq p' hp' q' hq' first second
    rw [answers.eq_iff_key_eq sound' hp hq, answers'.eq_iff_key_eq sound'' hp' hq', first, second]

/-! ### A row with repetitions -/

/-- Three candidates have a new key, two of them the same one, and the last key is there already. -/
def mixedRow : List ModelType := [
  .pollingHandle { name := "Create", group := "widgets", method := "Create", result := some ⟨0⟩ },
  .pageIterator (.ofElement ⟨0⟩ true),
  .pollingHandle { name := "Create", group := "", method := "Create" },
  .composite { name := "Widget", description := "a widget" }]

/-- A registry in which `Widget` is there twice. -/
def repeatedRegistry : IndexedRegistry := RegistryStep.applyAll (repeatedTypes.map .add) {}

theorem registerEach_mixedRow :
    (repeatedRegistry.registerEach mixedRow).2.members = repeatedTypes ++ mixedRow.take 2 ∧
    (∀ candidate ∈ [mixedRow[3], mixedRow[1], mixedRow[1]], candidate ∈ mixedRow) ∧
    ((repeatedRegistry.registerEach mixedRow).2.registerEach
      [mixedRow[3], mixedRow[1], mixedRow[1]]).2 = (repeatedRegistry.registerEach mixedRow).2 ∧
    mixedRow.reverse.Perm mixedRow ∧
    (repeatedRegistry.registerEach mixedRow.reverse).2.members.length =
      (repeatedRegistry.registerEach mixedRow).2.members.length := by
  obtain ⟨members, _, _, repeated, reordered⟩ :=
    registerEach_of_history (repeatedTypes.map .add) mixedRow
  have new : (Registry.ofList repeatedTypes).newcomers mixedRow = mixedRow.take 2 := by decide
  have asked : ∀ candidate ∈ [mixedRow[3], mixedRow[1], mixedRow[1]], candidate ∈ mixedRow := by
    decide
  have same : mixedRow.reverse.Perm mixedRow := List.reverse_perm mixedRow
  exact ⟨new ▸ members, asked, (repeated _ asked).1, same, (reordered _ same).2.1⟩

end IndexedRegistry

end WrapperSynthesis

import Mathlib.Data.List.Nodup
import Mathlib.Data.String.Basic
import WrapperSynthesis.Analysis.Collision
import WrapperSynthesis.Proofs.Wrapping.Candidates

/-! The table of handle names and their origins. However the origins arrive, the names of the table
ascend and each name has the labels noted for it, once each (`tallies_foldl_note`). So a name is
reported exactly when two different labels were noted for it (`mem_collisions_iff`). -/

namespace WrapperSynthesis

namespace Collision

/-- The table holds exactly the labels that were noted for each name. -/
structure Tallies (table : List Collision) (noted : List (String × String)) : Prop where
  ascending : (table.map Collision.name).Pairwise (· < ·)
  distinct : ∀ c ∈ table, c.origins.Nodup
  labels : ∀ name label,
    (∃ c ∈ table, c.name = name ∧ label ∈ c.origins) ↔ (name, label) ∈ noted

variable {table : List Collision} {noted : List (String × String)} {name label : String}

theorem mem_map_name_note {other : String} :
    other ∈ (note name label table).map Collision.name ↔
      other = name ∨ other ∈ table.map Collision.name := by
  induction table with
  | nil => simp [note]
  | cons c rest ih =>
    rw [note]
    split
    · simp
    · split
      · rename_i same
        rw [List.map_cons, List.map_cons, List.mem_cons]
        split <;> simp [same]
      · rw [List.map_cons, List.mem_cons, ih, List.map_cons, List.mem_cons]
        exact or_left_comm

theorem pairwise_name_note (h : (table.map Collision.name).Pairwise (· < ·)) :
    ((note name label table).map Collision.name).Pairwise (· < ·) := by
  induction table with
  | nil => simp [note]
  | cons c rest ih =>
    rw [List.map_cons, List.pairwise_cons] at h
    obtain ⟨least, later⟩ := h
    rw [note]
    split
    · rename_i before
      refine List.pairwise_cons.mpr ⟨fun other hother => ?_, List.pairwise_cons.mpr ⟨least, later⟩⟩
      rcases List.mem_cons.mp hother with rfl | hother
      · exact before
      · exact lt_trans before (least other hother)
    · split
      · split <;> exact List.pairwise_cons.mpr ⟨least, later⟩
      · rename_i notBefore differs
        refine List.pairwise_cons.mpr ⟨fun other hother => ?_, ih later⟩
        rcases mem_map_name_note.mp hother with rfl | hother
        · exact lt_of_le_of_ne (not_lt.mp notBefore) (Ne.symm differs)
        · exact least other hother

theorem nodup_origins_note (h : ∀ c ∈ table, c.origins.Nodup) :
    ∀ c ∈ note name label table, c.origins.Nodup := by
  induction table with
  | nil => simp [note]
  | cons c rest ih =>
    rw [List.forall_mem_cons] at h
    obtain ⟨first, later⟩ := h
    rw [note]
    split
    · exact List.forall_mem_cons.mpr ⟨by simp, List.forall_mem_cons.mpr ⟨first, later⟩⟩
    · split
      · refine List.forall_mem_cons.mpr ⟨?_, later⟩
        split
        · exact first
        · rename_i new
          simpa [List.nodup_append] using ⟨first, fun other known same => new (same ▸ known)⟩
      · exact List.forall_mem_cons.mpr ⟨first, ih later⟩

theorem exists_mem_note {other origin : String} :
    (∃ c ∈ note name label table, c.name = other ∧ origin ∈ c.origins) ↔
      (∃ c ∈ table, c.name = other ∧ origin ∈ c.origins) ∨ other = name ∧ origin = label := by
  induction table with
  | nil => simp [note, eq_comm]
  | cons c rest ih =>
    rw [note]
    split
    · simp [eq_comm, or_comm]
    · split
      · rename_i same
        split
        · rename_i known
          simp only [List.exists_mem_cons_iff]
          refine ⟨Or.inl, fun h => h.elim id ?_⟩
          rintro ⟨rfl, rfl⟩
          exact .inl ⟨same.symm, known⟩
        · simp only [List.exists_mem_cons_iff, List.mem_append, List.mem_singleton, same]
          grind
      · simp only [List.exists_mem_cons_iff, ih, or_assoc]

theorem Tallies.note (h : Tallies table noted) (name label : String) :
    Tallies (Collision.note name label table) (noted ++ [(name, label)]) where
  ascending := pairwise_name_note h.ascending
  distinct := nodup_origins_note h.distinct
  labels other origin := by
    rw [exists_mem_note, h.labels, List.mem_append, List.mem_singleton, Prod.mk.injEq]

theorem tallies_foldl_note (noted : List (String × String)) :
    Tallies (noted.foldl (fun table (name, label) => Collision.note name label table) [])
      noted := by
  have main : ∀ (later earlier : List (String × String)) (table : List Collision),
      Tallies table earlier →
      Tallies (later.foldl (fun table (name, label) => Collision.note name label table) table)
        (earlier ++ later) := by
    intro later
    induction later with
    | nil =>
      intro earlier table h
      rw [List.append_nil]
      exact h
    | cons first rest ih =>
      intro earlier table h
      have next := ih (earlier ++ [first]) _ (h.note first.1 first.2)
      rw [List.append_assoc] at next
      exact next
  exact main noted [] [] ⟨.nil, by simp, by simp⟩

theorem Tallies.eq_of_name_eq (h : Tallies table noted) {c c' : Collision} (hc : c ∈ table)
    (hc' : c' ∈ table) (same : c.name = c'.name) : c = c' := by
  have nodup : (table.map Collision.name).Nodup := h.ascending.imp fun less => ne_of_lt less
  exact List.inj_on_of_nodup_map nodup hc hc' same

end Collision

namespace Service

/-- All the origins that are noted, handles first. -/
def notedOrigins (s : Service) : List (String × String) :=
  s.handleOrigins ++ s.methods.flatMap s.sharedOrigins

variable {s : Service} {m : Method} {name label : String}

theorem mem_handleOrigins_iff :
    (name, label) ∈ s.handleOrigins ↔
      ∃ h, .pollingHandle h ∈ s.types.members ∧
        h.name = name ∧ Collision.label h.origin h.listAll = label := by
  have origins : s.handleOrigins =
      s.types.handles.map fun h => (h.name, Collision.label h.origin h.listAll) := by
    rw [Registry.handles_eq, List.map_map]
    rfl
  simp only [origins, List.mem_map, Registry.mem_handles, Prod.mk.injEq]

theorem mem_sharedOrigins_iff :
    (name, label) ∈ s.sharedOrigins m ↔
      m.kind.isLongRunning = true ∧ ∃ id ∈ m.returnType.referenced, ∃ h,
        s.types.get? id = some (.pollingHandle h) ∧ h.originatesFrom m.group m.name = false ∧
        h.name = name ∧ Collision.label m.qualifiedName h.listAll = label := by
  rw [sharedOrigins]
  split
  · rename_i longRunning
    simp only [List.mem_filterMap, longRunning, true_and]
    refine exists_congr fun id => and_congr_right fun _ => ?_
    cases found : s.types.get? id with
    | none => simp
    | some type =>
      cases type with
      | pollingHandle h =>
        cases own : h.originatesFrom m.group m.name <;> simp [ModelType.asPollingHandle?, own]
      | primitive | composite | pageIterator => simp [ModelType.asPollingHandle?]
  · rename_i notLongRunning
    simp [notLongRunning]

/-- A long-running method that returns a handle is noted for it, as its origin or as a method that
shares it. -/
theorem mem_notedOrigins_of_referenced {id : TypeId} {h : PollingHandle} (hm : m ∈ s.methods)
    (longRunning : m.kind.isLongRunning = true) (hid : id ∈ m.returnType.referenced)
    (found : s.types.get? id = some (.pollingHandle h)) :
    (h.name, Collision.label m.qualifiedName h.listAll) ∈ s.notedOrigins := by
  rw [notedOrigins, List.mem_append, List.mem_flatMap]
  cases own : h.originatesFrom m.group m.name with
  | true =>
    refine .inl (mem_handleOrigins_iff.mpr ⟨h, Registry.mem_of_get? found, rfl, ?_⟩)
    simp only [PollingHandle.originatesFrom, Bool.and_eq_true, decide_eq_true_eq] at own
    rw [PollingHandle.origin, own.1, own.2]
    rfl
  | false =>
    exact .inr ⟨m, hm, mem_sharedOrigins_iff.mpr ⟨longRunning, id, hid, h, found, own, rfl, rfl⟩⟩

theorem tallies_originTable (s : Service) : Collision.Tallies s.originTable s.notedOrigins :=
  Collision.tallies_foldl_note s.notedOrigins

/-- The names that are reported ascend, so none is reported twice. -/
theorem pairwise_name_collisions (s : Service) :
    (s.collisions.map Collision.name).Pairwise (· < ·) :=
  s.tallies_originTable.ascending.sublist (List.filter_sublist.map _)

theorem mem_collisions_iff :
    name ∈ s.collisions.map Collision.name ↔
      ∃ label label', (name, label) ∈ s.notedOrigins ∧ (name, label') ∈ s.notedOrigins ∧
        label ≠ label' := by
  have tallies := s.tallies_originTable
  simp only [List.mem_map, collisions, List.mem_filter, decide_eq_true_eq]
  constructor
  · rintro ⟨c, ⟨hc, several⟩, rfl⟩
    have distinct := tallies.distinct c hc
    -- The labels of a name are distinct, so any two of them serve.
    match horigins : c.origins, several with
    | label :: label' :: _, _ =>
      rw [horigins, List.nodup_cons] at distinct
      refine ⟨label, label', (tallies.labels _ _).mp ⟨c, hc, rfl, by simp [horigins]⟩,
        (tallies.labels _ _).mp ⟨c, hc, rfl, by simp [horigins]⟩, fun same => ?_⟩
      exact distinct.1 (by simp [same])
  · rintro ⟨label, label', hl, hl', differ⟩
    obtain ⟨c, hc, hname, hmem⟩ := (tallies.labels _ _).mpr hl
    obtain ⟨c', hc', hname', hmem'⟩ := (tallies.labels _ _).mpr hl'
    obtain rfl := tallies.eq_of_name_eq hc hc' (hname.trans hname'.symm)
    refine ⟨c, ⟨hc, ?_⟩, hname⟩
    match horigins : c.origins with
    | [] => rw [horigins] at hmem; cases hmem
    | [only] =>
      rw [horigins, List.mem_singleton] at hmem hmem'
      exact absurd (hmem.trans hmem'.symm) differ
    | _ :: _ :: _ => simp

end Service

end WrapperSynthesis

import WrapperSynthesis.Model.Service

/-! The methods of a service as a table in order of insertion. An inserted method takes the place of
the first method with its identity, or the last place when there is none. After a row of insertions
each identity has the method that came last, every new identity stands once, behind the old ones,
and all other methods stay where they were (`table_of_insertAll`). -/

namespace WrapperSynthesis.Service

/-- The service after methods are inserted one after the other. -/
def insertAll (s : Service) (inserted : List Method) : Service := inserted.foldl insertMethod s

variable {m m' n : Method} {methods : List Method} {s : Service}

/-! ### One insertion -/

theorem mem_insertIn (h : n ∈ insertIn m methods) : n = m ∨ n ∈ methods := by
  induction methods with
  | nil => exact .inl (List.mem_singleton.mp h)
  | cons old rest ih =>
    rw [insertIn] at h
    split at h
    · rcases List.mem_cons.mp h with rfl | h
      · exact .inl rfl
      · exact .inr (List.mem_cons_of_mem old h)
    · rcases List.mem_cons.mp h with rfl | h
      · exact .inr List.mem_cons_self
      · exact (ih h).imp_right (List.mem_cons_of_mem old)

theorem map_identity_insertIn (m : Method) (methods : List Method) :
    (insertIn m methods).map Method.identity =
      if m.identity ∈ methods.map Method.identity then methods.map Method.identity
      else methods.map Method.identity ++ [m.identity] := by
  induction methods with
  | nil => rfl
  | cons old rest ih =>
    rw [insertIn]
    by_cases same : old.identity = m.identity
    · simp [same]
    · have differs : m.identity ≠ old.identity := Ne.symm same
      simp only [same, ite_false, List.map_cons, ih, List.mem_cons, differs, false_or]
      split <;> rfl

theorem nodup_identity_insertIn (distinct : (methods.map Method.identity).Nodup) :
    ((insertIn m methods).map Method.identity).Nodup := by
  rw [map_identity_insertIn]
  split
  · exact distinct
  · rename_i new
    refine List.nodup_append.mpr ⟨distinct, by simp, ?_⟩
    intro identity old other added
    rw [List.mem_singleton.mp added]
    exact ne_of_mem_of_not_mem old new

theorem find?_insertIn (m : Method) (methods : List Method) (identity : String × String) :
    (insertIn m methods).find? (fun n => n.identity = identity) =
      if m.identity = identity then some m else methods.find? fun n => n.identity = identity := by
  induction methods with
  | nil => by_cases asked : m.identity = identity <;> simp [insertIn, asked]
  | cons old rest ih =>
    rw [insertIn]
    by_cases same : old.identity = m.identity
    · by_cases asked : m.identity = identity <;> simp [same, asked]
    · rw [if_neg same, List.find?_cons, ih, List.find?_cons]
      by_cases first : old.identity = identity
      · have other : m.identity ≠ identity := fun h => same (first.trans h.symm)
        simp [first, other]
      · simp [first]

/-- An insertion leaves every method with another identity in its place, and of those with its own
identity all but the first. -/
theorem getElem?_insertIn {i : Nat} (found : methods[i]? = some n)
    (kept : n.identity ≠ m.identity ∨ n.identity ∈ (methods.map Method.identity).take i) :
    (insertIn m methods)[i]? = some n := by
  induction methods generalizing i with
  | nil => cases found
  | cons old rest ih =>
    rw [insertIn]
    -- The insertion ends here, or it goes on behind the first method.
    by_cases same : old.identity = m.identity
    · rw [if_pos same]
      cases i with
      | zero =>
        obtain rfl := Option.some.inj found
        rcases kept with differs | earlier
        · exact absurd same differs
        · cases earlier
      | succ i => exact found
    · rw [if_neg same]
      cases i with
      | zero => exact found
      | succ i =>
        refine ih found ?_
        rcases kept with differs | earlier
        · exact .inl differs
        · rw [List.map_cons, List.take_succ_cons, List.mem_cons] at earlier
          rcases earlier with first | earlier
          · exact .inl (first ▸ same)
          · exact .inr earlier

theorem insertIn_comm (differ : m.identity ≠ m'.identity)
    (present : m.identity ∈ methods.map Method.identity ∨
      m'.identity ∈ methods.map Method.identity) :
    insertIn m' (insertIn m methods) = insertIn m (insertIn m' methods) := by
  induction methods with
  | nil => simp at present
  | cons old rest ih =>
    by_cases first : old.identity = m.identity
    · simp [insertIn, first, differ]
    · by_cases second : old.identity = m'.identity
      · simp [insertIn, second, Ne.symm differ]
      · have later : m.identity ∈ rest.map Method.identity ∨
            m'.identity ∈ rest.map Method.identity := by
          simpa only [List.map_cons, List.mem_cons, Ne.symm first, Ne.symm second, false_or]
            using present
        simp only [insertIn, first, second, ite_false, ih later]

theorem listMethods_insertMethod (s : Service) (m : Method) :
    (s.insertMethod m).listMethods =
      if m.identity ∈ s.listMethods then s.listMethods else s.listMethods ++ [m.identity] :=
  map_identity_insertIn m s.methods

theorem getMethod?_insertMethod (s : Service) (m : Method) (group name : String) :
    (s.insertMethod m).getMethod? group name =
      if m.identity = (group, name) then some m else s.getMethod? group name :=
  find?_insertIn m s.methods (group, name)

/-! ### A row of insertions -/

theorem insertAll_cons (s : Service) (m : Method) (rest : List Method) :
    s.insertAll (m :: rest) = (s.insertMethod m).insertAll rest := rfl

theorem types_insertAll (s : Service) (inserted : List Method) :
    (s.insertAll inserted).types = s.types ∧ (s.insertAll inserted).name = s.name := by
  induction inserted generalizing s with
  | nil => exact ⟨rfl, rfl⟩
  | cons m rest ih => exact ih (s.insertMethod m)

theorem getMethod?_insertAll (s : Service) (inserted : List Method) (group name : String) :
    (s.insertAll inserted).getMethod? group name =
      (inserted.filter fun m => m.identity = (group, name)).getLast?.or
        (s.getMethod? group name) := by
  induction inserted generalizing s with
  | nil => rfl
  | cons m rest ih =>
    rw [insertAll_cons, ih, getMethod?_insertMethod, List.filter_cons]
    by_cases asked : m.identity = (group, name)
    · simp only [asked, decide_true, ite_true, List.getLast?_cons]
      cases (rest.filter fun m => m.identity = (group, name)).getLast? <;> rfl
    · simp only [asked, decide_false, ite_false, Bool.false_eq_true]

/-- The new identities of a row are the first one, unless it was seen before, and the new ones of
the rest. -/
theorem eraseDups_filter_cons {identity : String × String} {seen seen' : List (String × String)}
    (next : ∀ other, other ∈ seen' ↔ other = identity ∨ other ∈ seen)
    (rest : List (String × String)) :
    ((identity :: rest).filter (· ∉ seen)).eraseDups =
      if identity ∈ seen then (rest.filter (· ∉ seen)).eraseDups
      else identity :: (rest.filter (· ∉ seen')).eraseDups := by
  by_cases old : identity ∈ seen
  · simp [old]
  · have others : rest.filter (· ∉ seen') =
        (rest.filter (· ∉ seen)).filter fun other => !other == identity := by
      rw [List.filter_filter]
      congr 1
      funext other
      by_cases same : other = identity <;> simp [next, same]
    rw [if_neg old, others, ← List.eraseDups_cons, List.filter_cons_of_pos (by simpa using old)]

theorem listMethods_insertAll (s : Service) (inserted : List Method) :
    (s.insertAll inserted).listMethods =
      s.listMethods ++
        ((inserted.map Method.identity).filter (· ∉ s.listMethods)).eraseDups := by
  induction inserted generalizing s with
  | nil => simp [insertAll]
  | cons m rest ih =>
    have next : ∀ identity, identity ∈ s.listMethods ++ [m.identity] ↔
        identity = m.identity ∨ identity ∈ s.listMethods := by
      intro identity
      rw [List.mem_append, List.mem_singleton, or_comm]
    rw [insertAll_cons, ih, listMethods_insertMethod, List.map_cons, eraseDups_filter_cons next]
    by_cases old : m.identity ∈ s.listMethods
    · simp only [old, ite_true]
    · simp only [old, ite_false, List.append_assoc, List.singleton_append]

theorem getElem?_insertAll {i : Nat} {inserted : List Method} (found : s.methods[i]? = some n)
    (kept : (∀ m ∈ inserted, m.identity ≠ n.identity) ∨ n.identity ∈ s.listMethods.take i) :
    (s.insertAll inserted).methods[i]? = some n := by
  induction inserted generalizing s with
  | nil => exact found
  | cons m rest ih =>
    obtain ⟨bound, _⟩ := List.getElem?_eq_some_iff.mp found
    have before : (s.insertMethod m).listMethods.take i = s.listMethods.take i := by
      rw [listMethods_insertMethod]
      split
      · rfl
      · rw [List.take_append_of_le_length]
        rw [listMethods, List.length_map]
        omega
    rw [insertAll_cons]
    refine ih (getElem?_insertIn found ?_) ?_
    · exact kept.imp_left fun others => Ne.symm (others m List.mem_cons_self)
    · rw [before]
      exact kept.imp_left fun others later h => others later (List.mem_cons_of_mem m h)

theorem one_lt_count_of_insertAll {inserted : List Method} {identity : String × String}
    (repeated : 1 < (s.insertAll inserted).listMethods.count identity) :
    1 < s.listMethods.count identity := by
  induction inserted generalizing s with
  | nil => exact repeated
  | cons m rest ih =>
    have once := ih repeated
    rw [listMethods_insertMethod] at once
    split at once
    · exact once
    · rename_i new
      rw [List.count_append, List.count_singleton] at once
      by_cases same : m.identity = identity
      · rw [← same, List.count_eq_zero_of_not_mem new] at once
        simp at once
      · simpa [same] using once

/-- A row of insertions into any service, one with repeated identities included. An identity is
answered with the method that was inserted last for it, or as before. The identities are the old
ones and behind them the new ones, each once, in the order in which they came first. A method stays
in its place when its identity is not inserted or stands earlier as well. No identity becomes a
repeated one, and the name and the types are not touched. Insertions of two identities may change
places unless both are new. -/
theorem table_of_insertAll (s : Service) (inserted : List Method) :
    let s' := s.insertAll inserted
    (∀ group name, s'.getMethod? group name =
      (inserted.filter fun m => m.identity = (group, name)).getLast?.or
        (s.getMethod? group name)) ∧
    s'.listMethods =
      s.listMethods ++
        ((inserted.map Method.identity).filter (· ∉ s.listMethods)).eraseDups ∧
    (∀ i n, s.methods[i]? = some n →
      (∀ m ∈ inserted, m.identity ≠ n.identity) ∨ n.identity ∈ s.listMethods.take i →
      s'.methods[i]? = some n) ∧
    (∀ identity, 1 < s'.listMethods.count identity → 1 < s.listMethods.count identity) ∧
    s'.types = s.types ∧ s'.name = s.name ∧
    ∀ m m' : Method, m.identity ≠ m'.identity →
      m.identity ∈ s.listMethods ∨ m'.identity ∈ s.listMethods →
      (s.insertMethod m).insertMethod m' = (s.insertMethod m').insertMethod m := by
  intro s'
  obtain ⟨types, name⟩ := types_insertAll s inserted
  refine ⟨getMethod?_insertAll s inserted, listMethods_insertAll s inserted, ?_, ?_, types, name,
    ?_⟩
  · intro i n found kept
    exact getElem?_insertAll found kept
  · intro identity repeated
    exact one_lt_count_of_insertAll repeated
  · intro m m' differ present
    exact congrArg (fun methods => { s with methods }) (insertIn_comm differ present)

/-- `Get` is there twice. -/
def repeatedMethods : Service where
  methods := [{ name := "Get" }, { name := "List", kind := .paginated },
    { name := "Get", description := "the second one" }]

/-- `Put` and the method of the group are new, and `Put` comes again. -/
def insertedMethods : List Method := [
  { name := "Put" },
  { name := "Get", kind := .longRunning },
  { group := "widgets", name := "Get" },
  { name := "Put", description := "the last one" }]

theorem table_of_insertAll_repeatedMethods :
    let s' := repeatedMethods.insertAll insertedMethods
    s'.getMethod? "" "Put" = some { name := "Put", description := "the last one" } ∧
    s'.getMethod? "" "List" = repeatedMethods.getMethod? "" "List" ∧
    s'.listMethods = repeatedMethods.listMethods ++ [("", "Put"), ("widgets", "Get")] ∧
    s'.methods[1]? = repeatedMethods.methods[1]? ∧ s'.methods[2]? = repeatedMethods.methods[2]? ∧
    1 < s'.listMethods.count ("", "Get") ∧ 1 < repeatedMethods.listMethods.count ("", "Get") ∧
    (repeatedMethods.insertMethod { name := "Get" }).insertMethod { name := "List" } =
      (repeatedMethods.insertMethod { name := "List" }).insertMethod { name := "Get" } := by
  intro s'
  obtain ⟨answers, names, stays, repeated, _, _, commute⟩ :=
    table_of_insertAll repeatedMethods insertedMethods
  have twice : 1 < s'.listMethods.count ("", "Get") := by decide
  refine ⟨answers "" "Put", answers "" "List", names, ?_, ?_, twice, repeated _ twice, ?_⟩
  · exact stays 1 _ rfl (.inl (by decide))
  · exact stays 2 _ rfl (.inr (by decide))
  · exact commute { name := "Get" } { name := "List" } (by decide) (.inl (by decide))

end WrapperSynthesis.Service

import WrapperSynthesis.Proofs.Json.Spelling

/-! A written JSON value is read as itself: what the writer gives is one of the texts that spell the
value (`ofText_fileText`). -/

namespace WrapperSynthesis.Json

open Value

theorem blanks_newline (depth : Nat) : Blanks (newline depth) := by
  intro c hc
  rcases List.mem_cons.mp hc with rfl | hc
  · rfl
  · rw [List.eq_of_mem_replicate hc]
    rfl

theorem quoted_stringText (s : String) : Quoted s (stringText s) :=
  ⟨_, rfl, stringBody_escaped s.toList⟩

mutual

/-- A written value is one of the texts that spell it. -/
theorem spelled_pretty (v : Value) (depth : Nat) : v.Spelled (v.pretty depth) := by
  match v with
  | .null => rw [Spelled, pretty]
  | .bool b => cases b <;> rw [Spelled, pretty] <;> rfl
  | .number n => rw [Spelled, pretty]
  | .string s =>
    rw [Spelled, pretty]
    exact quoted_stringText s
  | .array [] =>
    rw [Spelled, pretty]
    exact ⟨[], rfl, by rw [ItemsSpelled]; exact .nil⟩
  | .array (item :: items) =>
    rw [Spelled]
    refine ⟨newline (depth + 1) ++ item.pretty (depth + 1) ++
      (prettyItems (depth + 1) items ++ newline depth), by simp [pretty], ?_⟩
    rw [ItemsSpelled]
    exact ⟨newline (depth + 1) ++ item.pretty (depth + 1), _, rfl,
      ⟨newline (depth + 1), item.pretty (depth + 1), [], by simp, blanks_newline _,
        spelled_pretty item _, .nil⟩,
      itemsSpelled_pretty items _ (blanks_newline depth)⟩
  | .object [] =>
    rw [Spelled, pretty]
    exact ⟨[], rfl, by rw [MembersSpelled]; exact .nil⟩
  | .object ((key, value) :: members) =>
    rw [Spelled]
    refine ⟨newline (depth + 1) ++ stringText key ++ ':' :: (' ' :: value.pretty (depth + 1)) ++
      (prettyMembers (depth + 1) members ++ newline depth), by simp [pretty], ?_⟩
    rw [MembersSpelled]
    exact ⟨newline (depth + 1) ++ stringText key, _, _, rfl,
      ⟨newline (depth + 1), stringText key, [], by simp, blanks_newline _, quoted_stringText key,
        .nil⟩,
      ⟨[' '], value.pretty (depth + 1), [], by simp, by decide, spelled_pretty value _, .nil⟩,
      membersSpelled_pretty members _ (blanks_newline depth)⟩

theorem itemsSpelled_pretty (items : List Value) (depth : Nat) {after : List Char}
    (blank : Blanks after) : ItemsSpelled false items (prettyItems depth items ++ after) := by
  match items with
  | [] =>
    rw [ItemsSpelled, prettyItems]
    exact blank
  | item :: items =>
    rw [ItemsSpelled]
    exact ⟨newline depth ++ item.pretty depth, prettyItems depth items ++ after,
      by simp [prettyItems, separator],
      ⟨newline depth, item.pretty depth, [], by simp, blanks_newline _, spelled_pretty item _,
        .nil⟩,
      itemsSpelled_pretty items depth blank⟩

theorem membersSpelled_pretty (members : List (String × Value)) (depth : Nat) {after : List Char}
    (blank : Blanks after) :
    MembersSpelled false members (prettyMembers depth members ++ after) := by
  match members with
  | [] =>
    rw [MembersSpelled, prettyMembers]
    exact blank
  | (key, value) :: members =>
    rw [MembersSpelled]
    exact ⟨newline depth ++ stringText key, ' ' :: value.pretty depth,
      prettyMembers depth members ++ after, by simp [prettyMembers, separator],
      ⟨newline depth, stringText key, [], by simp, blanks_newline _, quoted_stringText key, .nil⟩,
      ⟨[' '], value.pretty depth, [], by simp, by decide, spelled_pretty value _, .nil⟩,
      membersSpelled_pretty members depth blank⟩

end

/-- The document in the file of a value is this value and nothing more. -/
theorem ofText_fileText (v : Value) : Document.ofText v.fileText = ⟨v.asDraft, false⟩ :=
  ofText_of_spelled ⟨[], v.pretty 0, ['\n'], by simp, .nil, spelled_pretty v 0, by decide⟩

end WrapperSynthesis.Json

import EventLineage.Json.Value

/-! # Bringing members into order

A value in order stays as it is. Members with distinct keys are only moved around. -/
namespace EventLineage.Json

theorem KeysIncrease.nodup {members : List (String × Json)} (h : KeysIncrease members) :
    (members.map Prod.fst).Nodup := by
  refine List.pairwise_map.2 (h.imp fun less same => ?_)
  rw [same] at less
  exact String.lt_irrefl _ less

private theorem put_of_greatest {key : String} {value : Json} {members : List (String × Json)}
    (h : ∀ m ∈ members, m.1 < key) : put key value members = members ++ [(key, value)] := by
  induction members with
  | nil => rfl
  | cons a rest ih =>
    obtain ⟨k, v⟩ := a
    have less : k < key := h (k, v) List.mem_cons_self
    have differ : key ≠ k := fun same => String.lt_irrefl k (same ▸ less)
    have notLess : ¬key < k := fun greater => String.lt_irrefl k (String.lt_trans less greater)
    have tail := ih fun m hm => h m (List.mem_cons_of_mem _ hm)
    simp only [put, if_neg differ, if_neg notLess, tail, List.cons_append]

private theorem put_perm {key : String} {value : Json} {members : List (String × Json)}
    (h : ∀ m ∈ members, m.1 ≠ key) : (put key value members).Perm ((key, value) :: members) := by
  induction members with
  | nil => exact .refl _
  | cons a rest ih =>
    obtain ⟨k, v⟩ := a
    have differ : key ≠ k := fun same => h (k, v) List.mem_cons_self same.symm
    simp only [put, if_neg differ]
    by_cases less : key < k
    · rw [if_pos less]
    · rw [if_neg less]
      have tail := ih fun m hm => h m (List.mem_cons_of_mem _ hm)
      exact (tail.cons (k, v)).trans (.swap _ _ _)

mutual

theorem ordered_of_inOrder : ∀ v : Json, InOrder v → ordered v = v
  | .null, _ | .bool _, _ | .number _, _ | .text _, _ => rfl
  | .list items, h => by
    simp only [ordered, orderedItems_of_inOrder items h]
  | .object members, h => by
    have whole := orderedMembers_of_inOrder members [] h.2 (by simpa using h.1)
    simp only [ordered, whole, List.nil_append]

private theorem orderedItems_of_inOrder :
    ∀ items : List Json, ItemsInOrder items → orderedItems items = items
  | [], _ => rfl
  | v :: rest, h => by
    simp only [orderedItems, ordered_of_inOrder v h.1, orderedItems_of_inOrder rest h.2]

private theorem orderedMembers_of_inOrder :
    ∀ members acc : List (String × Json), MembersInOrder members →
    KeysIncrease (acc ++ members) → orderedMembers members acc = acc ++ members
  | [], acc, _, _ => by simp [orderedMembers]
  | (k, v) :: rest, acc, h, increase => by
    have greatest : ∀ m ∈ acc, m.1 < k := by
      intro m hm
      exact (List.pairwise_append.1 increase).2.2 m hm (k, v) List.mem_cons_self
    have next : KeysIncrease (acc ++ [(k, v)] ++ rest) := by
      rw [List.append_assoc]
      exact increase
    simp only [orderedMembers, ordered_of_inOrder v h.1, put_of_greatest greatest]
    rw [orderedMembers_of_inOrder rest _ h.2 next, List.append_assoc]
    rfl

end

/-- The same member with its value in order. -/
def orderedMember (m : String × Json) : String × Json := (m.1, m.2.ordered)

private theorem orderedMembers_perm {members : List (String × Json)} (acc : List (String × Json))
    (distinct : ((members ++ acc).map Prod.fst).Nodup) :
    (orderedMembers members acc).Perm (members.map orderedMember ++ acc) := by
  induction members generalizing acc with
  | nil => exact .refl _
  | cons m rest ih =>
    obtain ⟨k, v⟩ := m
    simp only [List.cons_append, List.map_cons, List.nodup_cons, List.map_append] at distinct
    obtain ⟨fresh, distinct⟩ := distinct
    have free : ∀ m ∈ acc, m.1 ≠ k := by
      intro m hm same
      exact fresh (List.mem_append_right _ (same ▸ List.mem_map_of_mem hm))
    have put : (Json.put k v.ordered acc).Perm ((k, v.ordered) :: acc) := put_perm free
    have moved : ((rest ++ Json.put k v.ordered acc).map Prod.fst).Perm
        (k :: (rest.map Prod.fst ++ acc.map Prod.fst)) := by
      have keys := (put.map Prod.fst).append_left (rest.map Prod.fst)
      rw [List.map_append]
      exact keys.trans List.perm_middle
    have next := ih (Json.put k v.ordered acc)
      (moved.nodup_iff.2 (List.nodup_cons.2 ⟨fresh, distinct⟩))
    simp only [orderedMembers]
    refine next.trans ((put.append_left _).trans ?_)
    exact List.perm_middle

theorem ordered_object_perm {members : List (String × Json)}
    (distinct : (members.map Prod.fst).Nodup) :
    ∃ moved, ordered (.object members) = .object moved ∧
      moved.Perm (members.map orderedMember) := by
  have perm := orderedMembers_perm [] (by simpa using distinct)
  rw [List.append_nil] at perm
  exact ⟨_, rfl, perm⟩

end EventLineage.Json

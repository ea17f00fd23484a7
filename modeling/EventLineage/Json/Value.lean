import EventLineage.Number.Binary64

/-! # JSON values

An object is a list of members in the order in which they stand. A value is in order when the keys
of each object in it increase; `ordered` brings any value into order, the last of several members
with one key being the one that stays. -/
namespace EventLineage

/-- Integers that fit in 64 bits, with or without a sign, are exact; `negative n` is −(n + 1). All
other numbers are floating-point numbers. -/
inductive Number where
  | natural (n : Fin UInt64.size)
  | negative (n : Fin (UInt64.size / 2))
  | float (x : Binary64)
  deriving Repr, DecidableEq

namespace Number

def ofNat? (n : Nat) : Option Number :=
  if h : n < UInt64.size then some (.natural ⟨n, h⟩) else none

/-- The integer −n, for n from 1 to 2⁶³. -/
def ofNegated? (n : Nat) : Option Number :=
  if h : n - 1 < UInt64.size / 2 then (if n = 0 then none else some (.negative ⟨n - 1, h⟩))
  else none

def toInt? : Number → Option Int
  | .natural n => some n.val
  | .negative n => some (-(n.val + 1 : Nat))
  | .float _ => none

/-- Equality of numbers: floating-point zeros of both signs are equal. -/
def same : Number → Number → Bool
  | .float x, .float y => x.same y
  | m, n => m == n

end Number

inductive Json where
  | null
  | bool (b : Bool)
  | number (n : Number)
  | text (s : String)
  | list (items : List Json)
  | object (members : List (String × Json))
  deriving Repr

instance : Inhabited Json := ⟨.null⟩

namespace Json

/-! ## Order of members -/

/-- Put a member among members whose keys increase; one with the same key is replaced. -/
def put (key : String) (value : Json) : List (String × Json) → List (String × Json)
  | [] => [(key, value)]
  | (k, v) :: rest =>
    if key = k then (key, value) :: rest
    else if key < k then (key, value) :: (k, v) :: rest
    else (k, v) :: put key value rest

mutual

def ordered : Json → Json
  | .list items => .list (orderedItems items)
  | .object members => .object (orderedMembers members [])
  | v => v

def orderedItems : List Json → List Json
  | [] => []
  | v :: rest => ordered v :: orderedItems rest

/-- The members put one after the other among those already in order. -/
def orderedMembers : List (String × Json) → List (String × Json) → List (String × Json)
  | [], acc => acc
  | (k, v) :: rest, acc => orderedMembers rest (put k (ordered v) acc)

end

/-- The keys of members increase. -/
def KeysIncrease (members : List (String × Json)) : Prop :=
  members.Pairwise fun a b => a.1 < b.1

mutual

/-- The keys of each object increase. -/
def InOrder : Json → Prop
  | .list items => ItemsInOrder items
  | .object members => KeysIncrease members ∧ MembersInOrder members
  | _ => True

def ItemsInOrder : List Json → Prop
  | [] => True
  | v :: rest => InOrder v ∧ ItemsInOrder rest

def MembersInOrder : List (String × Json) → Prop
  | [] => True
  | (_, v) :: rest => InOrder v ∧ MembersInOrder rest

end

theorem mem_put {key : String} {value : Json} {members : List (String × Json)} {m : String × Json}
    (h : m ∈ put key value members) : m = (key, value) ∨ m ∈ members := by
  induction members with
  | nil => simpa [put] using h
  | cons a rest ih =>
    obtain ⟨k, v⟩ := a
    simp only [put] at h
    split at h
    · simp only [List.mem_cons] at h ⊢
      exact h.imp_right .inr
    · split at h
      · simpa using h
      · simp only [List.mem_cons] at h ⊢
        rcases h with h | h
        · exact .inr (.inl h)
        · exact (ih h).imp_right .inr

theorem keysIncrease_put {key : String} {value : Json} {members : List (String × Json)}
    (h : KeysIncrease members) : KeysIncrease (put key value members) := by
  induction members with
  | nil => simp [put, KeysIncrease]
  | cons a rest ih =>
    obtain ⟨k, v⟩ := a
    simp only [KeysIncrease, List.pairwise_cons] at h
    obtain ⟨head, tail⟩ := h
    simp only [put]
    split
    · rename_i same
      subst same
      exact List.pairwise_cons.2 ⟨head, tail⟩
    · split
      · rename_i less
        refine List.pairwise_cons.2 ⟨?_, List.pairwise_cons.2 ⟨head, tail⟩⟩
        intro m hm
        rcases List.mem_cons.1 hm with rfl | hm
        · exact less
        · exact String.lt_trans less (head m hm)
      · rename_i differ notLess
        refine List.pairwise_cons.2 ⟨?_, ih tail⟩
        intro m hm
        rcases mem_put hm with rfl | hm
        · show k < key
          have le : k ≤ key := String.not_lt.1 notLess
          exact Decidable.byContradiction fun notGreater =>
            differ (String.le_antisymm (String.not_lt.1 notGreater) le)
        · exact head m hm

theorem membersInOrder_put {key : String} {value : Json} {members : List (String × Json)}
    (hv : InOrder value) (h : MembersInOrder members) : MembersInOrder (put key value members) := by
  induction members with
  | nil => exact ⟨hv, trivial⟩
  | cons a rest ih =>
    obtain ⟨k, v⟩ := a
    simp only [put]
    split
    · exact ⟨hv, h.2⟩
    · split
      · exact ⟨hv, h⟩
      · exact ⟨h.1, ih h.2⟩

mutual

theorem inOrder_ordered : ∀ v : Json, InOrder (ordered v)
  | .null | .bool _ | .number _ | .text _ => by simp [ordered, InOrder]
  | .list items => by
    simp only [ordered, InOrder]
    exact itemsInOrder_ordered items
  | .object members => by
    simp only [ordered, InOrder]
    exact membersInOrder_ordered members [] List.Pairwise.nil trivial

theorem itemsInOrder_ordered : ∀ items : List Json, ItemsInOrder (orderedItems items)
  | [] => trivial
  | v :: rest => ⟨inOrder_ordered v, itemsInOrder_ordered rest⟩

theorem membersInOrder_ordered : ∀ members acc : List (String × Json), KeysIncrease acc →
    MembersInOrder acc → KeysIncrease (orderedMembers members acc) ∧
      MembersInOrder (orderedMembers members acc)
  | [], acc, hk, hm => by simpa [orderedMembers] using ⟨hk, hm⟩
  | (k, v) :: rest, acc, hk, hm => by
    simp only [orderedMembers]
    exact membersInOrder_ordered rest _ (keysIncrease_put hk)
      (membersInOrder_put (inOrder_ordered v) hm)

end

/-! ## Equality -/

mutual

/-- Equality of values, in which floating-point zeros of both signs are equal. -/
def same : Json → Json → Bool
  | .null, .null => true
  | .bool a, .bool b => a == b
  | .number m, .number n => m.same n
  | .text s, .text t => s == t
  | .list xs, .list ys => sameItems xs ys
  | .object xs, .object ys => sameMembers xs ys
  | _, _ => false

def sameItems : List Json → List Json → Bool
  | [], [] => true
  | x :: xs, y :: ys => same x y && sameItems xs ys
  | _, _ => false

def sameMembers : List (String × Json) → List (String × Json) → Bool
  | [], [] => true
  | (j, x) :: xs, (k, y) :: ys => j == k && same x y && sameMembers xs ys
  | _, _ => false

end

instance : BEq Json := ⟨same⟩

/-- The value of the last member with a key. -/
def get? (key : String) : Json → Option Json
  | .object members => (members.reverse.find? fun m => m.1 == key).map (·.2)
  | _ => none

end Json

/-- What a message carries: a JSON value in order. -/
structure Payload where
  json : Json
  inOrder : json.InOrder

namespace Payload

def ofJson (v : Json) : Payload := ⟨v.ordered, Json.inOrder_ordered v⟩

instance : BEq Payload := ⟨fun a b => a.json == b.json⟩

instance : Inhabited Payload := ⟨ofJson .null⟩

@[ext] theorem ext {a b : Payload} (h : a.json = b.json) : a = b := by
  cases a; cases b; cases h; rfl

end Payload
end EventLineage

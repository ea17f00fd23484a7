import EventLineage.Failure.Walk

/-! # Stores of errors

The errors at hand are kept in a row, and the place of an error in it is its identity. An error's
cause may stand before it, or behind it when causes form a ring. -/
namespace EventLineage

structure ErrorNode where
  display : String
  /-- The form for diagnosis, or as much of it as may give the error a name. -/
  debug : String
  /-- The full name of the type, for errors that can come to a walk with it. -/
  typeName : Option String := none
  /-- The type, if it is known by name. -/
  familiar : Option Familiar := none
  rejection : Option Rejection := none
  cause : Option Nat := none
  deriving Inhabited

structure ErrorStore where
  nodes : Array ErrorNode := #[]

namespace ErrorStore

def empty : ErrorStore := {}

/-- The error at a place; nothing is known of an error that is not in the store. -/
def node (s : ErrorStore) (e : Nat) : ErrorNode := s.nodes.getD e ⟨"", "", none, none, none, none⟩

def graph (s : ErrorStore) : CauseGraph Nat where
  cause e := (s.node e).cause
  display e := (s.node e).display
  debug e := (s.node e).debug
  familiar e := (s.node e).familiar
  rejection e := (s.node e).rejection

/-- The place of the next error. -/
def next (s : ErrorStore) : Nat := s.nodes.size

def add (s : ErrorStore) (n : ErrorNode) : Nat × ErrorStore := (s.next, ⟨s.nodes.push n⟩)

def addAll (s : ErrorStore) (ns : List ErrorNode) : ErrorStore := ⟨s.nodes ++ ns.toArray⟩

theorem node_of_le {s : ErrorStore} {e : Nat} (h : s.next ≤ e) :
    s.node e = ⟨"", "", none, none, none, none⟩ := by
  unfold node
  rw [Array.getD_eq_getD_getElem?, Array.getElem?_eq_none h]
  rfl

theorem node_add_next (s : ErrorStore) (n : ErrorNode) : (s.add n).2.node s.next = n := by
  simp [add, node, next]

theorem node_add_of_lt {s : ErrorStore} {e : Nat} (n : ErrorNode) (h : e < s.next) :
    (s.add n).2.node e = s.node e := by
  have stays : (s.nodes.push n)[e]? = s.nodes[e]? := by
    rw [Array.getElem?_push_lt h, Array.getElem?_eq_getElem h]
  simp only [add, node, Array.getD_eq_getD_getElem?, stays]

/-- How an error comes to a walk when its type is kept as far as it can be. -/
def typedEntry (s : ErrorStore) (e : Nat) : Entry :=
  match (s.node e).typeName with
  | some name => .typed name
  | none => .erased

end ErrorStore
end EventLineage

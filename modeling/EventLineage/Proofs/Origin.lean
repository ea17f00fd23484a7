import EventLineage.Proofs.Lineage
import EventLineage.Proofs.Storage.Invariants

/-! # Chains of links, nested and flat

An origin can be seen as one link in front of another origin, or as a list of links. Both views
agree: a link that is put in front is the first of the list and can be taken off again, the last
link stays where it is, and a list that is loaded is the origin made of its links one after the
other. So taking links off comes past each link of the list in order, and ends when the last one has
been reached. -/
namespace EventLineage.Origin
open Codec

variable {o g p : Origin} {links : List OriginLink} {n : Nat}

/-! ## One link in front -/

theorem links_ofLink_getD (link : OriginLink) (g : Option Origin) :
    (ofLink link g).links = link :: (g.map Origin.links).getD [] := by
  cases g <;> rfl

theorem depth_ofLink (link : OriginLink) (g : Option Origin) :
    (ofLink link g).depth = 1 + (g.map depth).getD 0 := by
  cases g with
  | none => rfl
  | some g => exact Nat.add_comm g.depth 1

theorem root_ofLink (link : OriginLink) (g : Option Origin) :
    (ofLink link g).root = (g.map root).getD link := by
  cases g with
  | none => rfl
  | some g => exact List.getLast_cons (List.cons_ne_nil _ _)

/-- Every origin is a first link, or a link in front of an origin. -/
theorem induction_ofLink {P : Origin → Prop} (first : ∀ link, P (ofLink link none))
    (front : ∀ link g, P g → P (ofLink link (some g))) (o : Origin) : P o := by
  obtain ⟨link, earlier⟩ := o
  induction earlier generalizing link with
  | nil => exact first link
  | cons next earlier ih => exact front link ⟨next, earlier⟩ (ih next)

/-- The origin made of links one after the other, from the last one on. -/
def linked? (links : List OriginLink) : Option Origin :=
  links.foldr (fun link g => some (ofLink link g)) none

theorem linked?_links (o : Origin) : linked? o.links = some o := by
  induction o using induction_ofLink with
  | first link => rfl
  | front link g ih =>
    show some (ofLink link (linked? g.links)) = _
    rw [ih]

theorem linked?_eq_some_iff : linked? links = some o ↔ o.links = links := by
  constructor
  · intro h
    cases links with
    | nil => cases h
    | cons link rest =>
      have whole := linked?_links ⟨link, rest⟩
      rw [Origin.links, h] at whole
      cases whole
      rfl
  · rintro rfl
    exact linked?_links o

/-- What is loaded is made of the links that stand in the list, one after the other. -/
theorem load_eq_ok_iff_linked? {d : Document} :
    Origin.codec.load d = .ok o ↔
      ∃ links, OriginLink.codec.list.load d = .ok links ∧ linked? links = some o := by
  rw [load_eq_ok_iff]
  constructor
  · rintro ⟨-, read⟩
    exact ⟨o.links, read, linked?_links o⟩
  · rintro ⟨links, read, made⟩
    rw [linked?_eq_some_iff.1 made]
    exact ⟨linked?_eq_some_iff.1 made ▸ List.cons_ne_nil _ _, read⟩

/-! ## Links taken off -/

theorem root_of_grandOrigin (h : o.grandOrigin = some g) : g.root = o.root := by
  rw [← o.ofLink_nearest_grandOrigin, h, root_ofLink, Option.map_some, Option.getD_some]

/-- The induction is on how many links have been taken off. -/
theorem root_of_behind? (h : o.behind? n = some p) : p.root = o.root := by
  induction n generalizing p with
  | zero =>
    cases h
    rfl
  | succ n ih =>
    obtain ⟨before, reached, step⟩ := Option.bind_eq_some_iff.1 h
    rw [root_of_grandOrigin step, ih reached]

theorem behind?_eq_none_iff : o.behind? n = none ↔ o.depth ≤ n := by
  have view := o.links_behind? n
  rw [depth]
  by_cases more : n < o.links.length
  · rw [if_pos more] at view
    obtain ⟨p, reached, -⟩ := Option.map_eq_some_iff.1 view
    simp only [reached, reduceCtorEq, false_iff, Nat.not_le, more]
  · rw [if_neg more, Option.map_eq_none_iff] at view
    simp only [view, true_iff]
    exact Nat.le_of_not_lt more

theorem links_of_behind? (h : o.behind? n = some p) : p.links = o.links.drop n := by
  have view := o.links_behind? n
  rw [h, Option.map_some] at view
  split at view
  · exact Option.some.inj view
  · cases view

theorem nearest_of_behind? (h : o.behind? n = some p) : o.links[n]? = some p.nearest := by
  have first : p.links[0]? = some p.nearest := rfl
  rw [links_of_behind? h, List.getElem?_drop, Nat.add_zero] at first
  exact first

theorem depth_of_behind? (h : o.behind? n = some p) : p.depth = o.depth - n := by
  rw [depth, links_of_behind? h, List.length_drop, depth]

/-! ## All together -/

/-- An origin is a list of links that is not empty. Putting a link in front and taking it off undo
each other, whether the origin was made so or loaded; one link adds one to the depth and keeps the
last link. When links are taken off, one after the other, then each link of the list comes to be the
nearest one, in order, the last link stays the same, and nothing is left once all of them have been
taken off. -/
theorem nested_flat :
    (∀ (m : MessageRef) (a : ActorContext) (g : Option Origin),
      (ofLink ⟨m, a⟩ g).grandOrigin = g ∧
      (ofLink ⟨m, a⟩ g).depth = 1 + (g.map depth).getD 0 ∧
      (ofLink ⟨m, a⟩ g).root = (g.map root).getD ⟨m, a⟩ ∧
      (ofLink ⟨m, a⟩ g).links = ⟨m, a⟩ :: (g.map Origin.links).getD []) ∧
    (∀ o : Origin, o = ofLink ⟨o.nearest.message, o.nearest.actorContext⟩ o.grandOrigin) ∧
    (∀ d o, Origin.codec.load d = .ok o ↔
      ∃ links, OriginLink.codec.list.load d = .ok links ∧ linked? links = some o) ∧
    ∀ (o : Origin) (n : Nat),
      (o.behind? n = none ↔ o.depth ≤ n) ∧
      ∀ p, o.behind? n = some p →
        o.links[n]? = some p.nearest ∧ p.root = o.root ∧ p.depth = o.depth - n := by
  refine ⟨fun m a g => ⟨?_, ?_, ?_, ?_⟩, fun o => ?_, fun d o => load_eq_ok_iff_linked?,
    fun o n => ⟨behind?_eq_none_iff, fun p reached => ⟨?_, ?_, ?_⟩⟩⟩
  · exact grandOrigin_ofLink _ g
  · exact depth_ofLink _ g
  · exact root_ofLink _ g
  · exact links_ofLink_getD _ g
  · exact o.ofLink_nearest_grandOrigin.symm
  · exact nearest_of_behind? reached
  · exact root_of_behind? reached
  · exact depth_of_behind? reached

open Withdrawal in
/-- The chain of the alert, from the command on: the link of the command is left when two links have
been taken off. -/
theorem nested_flat_alert :
    alert.origin.depth = 3 ∧ alert.origin.behind? 2 = some command.asOrigin ∧
    command.asOrigin.root = alert.origin.root ∧ alert.origin.behind? 3 = none := by
  obtain ⟨-, -, -, takenOff⟩ := nested_flat
  have depth : alert.origin.depth = 3 := rfl
  have left : alert.origin.behind? 2 = some command.asOrigin := rfl
  obtain ⟨-, root, -⟩ := (takenOff alert.origin 2).2 command.asOrigin left
  have nothing := (takenOff alert.origin 3).1.2 (Nat.le_of_eq depth)
  exact ⟨depth, left, root, nothing⟩

end EventLineage.Origin

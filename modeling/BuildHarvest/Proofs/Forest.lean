/-
  BuildHarvest.Proofs.Forest — the tree that a document's events go through.

  A `Forest` is the content of a document or of an element, and `Forest.events` tells it in the
  order of the document, each element between its opening and its closing.

  Proved: `exists_forest`: events whose tags nest are those of a forest. `Open stack events` says
  that they do, with the elements of `stack` still open, innermost first.
-/

import BuildHarvest.Markup.Basic

namespace BuildHarvest.Markup

/-- What stands between tags. -/
inductive Leaf where
  /-- Characters, be they blank or not. -/
  | text (s : String)
  /-- A section of character data. -/
  | data (s : String)
  | comment (s : String)
  | instruction (name : String) (s : String)

def Leaf.event : Leaf → Event
  | text s => .text s
  | data s => .data s
  | comment s => .comment s
  | instruction name s => .instruction name s

/-- Nothing, or a first node and the nodes that follow it. -/
inductive Forest where
  | nil
  | leaf (node : Leaf) (next : Forest)
  | element (name : Name) (attributes : List (Name × String)) (inside next : Forest)

/-- An element, by its name and its content. -/
structure Element where
  name : Name
  inside : Forest

namespace Forest

def events : Forest → List Event
  | nil => []
  | leaf node next => node.event :: next.events
  | element name attributes inside next => .opening name attributes :: (inside.events ++ .closing name :: next.events)

/-- All elements at any depth, in the order of the document. -/
def elements : Forest → List Element
  | nil => []
  | leaf _ next => next.elements
  | element name _ inside next => ⟨name, inside⟩ :: (inside.elements ++ next.elements)

/-- The texts that stand outside of all elements, in order. -/
def texts : Forest → List String
  | nil => []
  | leaf (.text s) next => s :: next.texts
  | leaf _ next => next.texts
  | element _ _ _ next => next.texts

def append : Forest → Forest → Forest
  | nil, g => g
  | leaf node next, g => leaf node (next.append g)
  | element name attributes inside next, g => element name attributes inside (next.append g)

theorem events_append (f g : Forest) : (f.append g).events = f.events ++ g.events := by
  induction f with
  | nil => rfl
  | leaf node next ih => simp [append, events, ih]
  | element name attributes inside next _ ih => simp [append, events, ih]

end Forest

/-! ## Events that nest -/

/-- Tags nest in these events, and the elements of a stack are left open. -/
inductive Open : List Name → List Event → Prop where
  | nil : Open [] []
  | leaf {stack : List Name} {events : List Event} (node : Leaf) : Open stack events → Open stack (events ++ [node.event])
  | opening {stack : List Name} {events : List Event} (name : Name) (attributes : List (Name × String)) :
      Open stack events → Open (name :: stack) (events ++ [.opening name attributes])
  | closing {stack : List Name} {events : List Event} (name : Name) :
      Open (name :: stack) events → Open stack (events ++ [.closing name])

/-- An element that is open: its opening, and what stands before it in the element around it. -/
structure Frame where
  name : Name
  attributes : List (Name × String)
  before : Forest

/-- The events of the open elements, innermost first, with the content so far of the innermost one. -/
def eventsOf : List Frame → Forest → List Event
  | [], content => content.events
  | frame :: frames, content => eventsOf frames frame.before ++ .opening frame.name frame.attributes :: content.events

theorem eventsOf_append (frames : List Frame) (f g : Forest) : eventsOf frames (f.append g) = eventsOf frames f ++ g.events := by
  cases frames with
  | nil => exact Forest.events_append f g
  | cons frame frames => simp [eventsOf, Forest.events_append]

theorem exists_frames {stack : List Name} {events : List Event} (h : Open stack events) :
    ∃ frames content, frames.map Frame.name = stack ∧ eventsOf frames content = events := by
  induction h with
  | nil => exact ⟨[], .nil, rfl, rfl⟩
  | leaf node _ ih =>
    obtain ⟨frames, content, hstack, rfl⟩ := ih
    exact ⟨frames, content.append (.leaf node .nil), hstack, eventsOf_append frames content _⟩
  | opening name attributes _ ih =>
    obtain ⟨frames, content, rfl, rfl⟩ := ih
    exact ⟨⟨name, attributes, content⟩ :: frames, .nil, rfl, rfl⟩
  | closing name _ ih =>
    obtain ⟨_ | ⟨frame, frames⟩, content, hstack, rfl⟩ := ih
    · cases hstack
    · obtain ⟨rfl, rfl⟩ := List.cons.inj hstack
      refine ⟨frames, frame.before.append (.element frame.name frame.attributes content .nil), rfl, ?_⟩
      rw [eventsOf_append]
      simp [eventsOf, Forest.events]

/-- Events whose tags nest, with nothing left open, are those of a forest. -/
theorem exists_forest {events : List Event} (h : Open [] events) : ∃ f : Forest, f.events = events := by
  obtain ⟨frames, content, hstack, rfl⟩ := exists_frames h
  obtain rfl := List.map_eq_nil_iff.mp hstack
  exact ⟨content, rfl⟩

end BuildHarvest.Markup

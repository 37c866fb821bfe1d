import DeckBuilder.Ident
import Std.Data.TreeMap

/-!
A store gives out numbers in order and keeps a value for some of them.  Giving out a number and
keeping a value under it are separate steps.
-/
namespace DeckBuilder

structure Store (α : Type) where
  entries : Std.TreeMap Nat α := {}
  fresh : Nat := 0

namespace Store

variable {α : Type}

/-- The next number, and the store in which it is used up. -/
def next (s : Store α) : CardId × Store α := (⟨s.fresh⟩, { s with fresh := s.fresh + 1 })

def insert (s : Store α) (id : CardId) (value : α) : Store α :=
  { s with entries := s.entries.insert id.number value }

def get? (s : Store α) (id : CardId) : Option α := s.entries[id.number]?

def contains (s : Store α) (id : CardId) : Bool := s.entries.contains id.number

def size (s : Store α) : Nat := s.entries.size

/-- Changes the value kept under a number, if there is one. -/
def modify (s : Store α) (id : CardId) (f : α → α) : Store α :=
  match s.get? id with
  | some value => s.insert id (f value)
  | none => s

/-- Keeps a value under the next number. -/
def add (s : Store α) (value : α) : CardId × Store α :=
  let (id, s) := s.next
  (id, s.insert id value)

theorem get?_insert (s : Store α) (id other : CardId) (value : α) :
    (s.insert id value).get? other = if id = other then some value else s.get? other := by
  obtain ⟨n⟩ := id
  obtain ⟨m⟩ := other
  simp [insert, get?, Std.TreeMap.getElem?_insert]

theorem get?_modify (s : Store α) (id other : CardId) (f : α → α) :
    (s.modify id f).get? other = if id = other then (s.get? other).map f else s.get? other := by
  unfold modify
  split
  · next v hv =>
    rw [get?_insert]
    split
    · next h => subst h; simp [hv]
    · rfl
  · next hn =>
    split
    · next h => subst h; simp [hn]
    · rfl

end Store

end DeckBuilder

/-!
# KeySet — sets of keys

A set is the list of its keys in increasing order, each once.
-/

namespace TensorGraph

/-- A set of keys. -/
structure KeySet (α : Type) where
  keys : List α
  deriving DecidableEq, Repr

namespace KeySet

variable {α : Type} [DecidableEq α] [LT α] [DecidableLT α]

/-- Puts a key at its place, unless it is there. -/
def insertKey (k : α) : List α → List α
  | [] => [k]
  | x :: xs => if k < x then k :: x :: xs else if k = x then x :: xs else x :: insertKey k xs

def empty : KeySet α := ⟨[]⟩

def insert (s : KeySet α) (k : α) : KeySet α := ⟨insertKey k s.keys⟩

def insertAll (s : KeySet α) (ks : List α) : KeySet α := ks.foldl insert s

def ofList (ks : List α) : KeySet α := empty.insertAll ks

def contains (s : KeySet α) (k : α) : Bool := s.keys.contains k

def size (s : KeySet α) : Nat := s.keys.length

theorem mem_insertKey {k x : α} : ∀ {xs : List α}, x ∈ insertKey k xs ↔ x = k ∨ x ∈ xs
  | [] => by simp [insertKey]
  | y :: ys => by
    rw [insertKey]
    split
    · simp
    · split
      · simp_all
      · rw [List.mem_cons, mem_insertKey, List.mem_cons, or_left_comm]

theorem contains_insert {s : KeySet α} {k x : α} :
    (s.insert k).contains x = true ↔ x = k ∨ s.contains x = true := by
  simp [insert, contains, mem_insertKey]

theorem contains_insertAll {x : α} : ∀ {ks : List α} {s : KeySet α},
    (s.insertAll ks).contains x = true ↔ s.contains x = true ∨ x ∈ ks
  | [], s => by simp [insertAll]
  | k :: ks, s => by
    have hrest : (s.insertAll (k :: ks)) = (s.insert k).insertAll ks := rfl
    rw [hrest, contains_insertAll, contains_insert, List.mem_cons, or_assoc, or_left_comm]

/-- A set made of a list has the keys of the list. -/
theorem contains_ofList {ks : List α} {x : α} : (ofList ks).contains x = true ↔ x ∈ ks := by
  rw [ofList, contains_insertAll]
  simp [empty, contains]

end KeySet

end TensorGraph

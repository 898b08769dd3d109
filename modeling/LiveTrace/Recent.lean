/-!
# LiveTrace.Recent

The most recent items of a sequence: a list that keeps at most a given number of items and drops
the oldest for a new one. Whether there is room is asked by comparing for equality, which is enough
because a list is never longer than its capacity (`Recent.items_push`). After any number of pushes
it holds the last items pushed (`Recent.items_pushAll`).
-/

namespace LiveTrace

universe u

/-- The last items of a sequence, oldest first. -/
structure Recent (α : Type u) where
  items : List α
  /-- How many items are kept at most. -/
  capacity : Nat
  positive : 0 < capacity
  bounded : items.length ≤ capacity

namespace Recent

variable {α : Type u}

/-- The last `n` items of a list. -/
def last (n : Nat) (l : List α) : List α := l.drop (l.length - n)

/-- No item; room for one item is always left. -/
def new (capacity : Nat) : Recent α := ⟨[], max 1 capacity, by omega, by simp⟩

instance : Inhabited (Recent α) := ⟨new 1⟩

/-- The items once there is room for another: the oldest is dropped from as many as can be kept. -/
def spared (r : Recent α) : List α :=
  if r.items.length = r.capacity then r.items.tail else r.items

theorem length_spared_lt (r : Recent α) : r.spared.length < r.capacity := by
  have hpositive := r.positive
  have hbounded := r.bounded
  unfold spared
  split
  · rw [List.length_tail]
    omega
  · omega

/-- Add an item, dropping the oldest one if there is no room. -/
def push (r : Recent α) (a : α) : Recent α where
  items := r.spared ++ [a]
  capacity := r.capacity
  positive := r.positive
  bounded := by
    rw [List.length_append]
    exact r.length_spared_lt

/-- Add items one after the other. -/
def pushAll (r : Recent α) (l : List α) : Recent α := l.foldl push r

/-- Drop every item. -/
def clear (r : Recent α) : Recent α := ⟨[], r.capacity, r.positive, Nat.zero_le _⟩

theorem last_eq_self {n : Nat} {l : List α} (h : l.length ≤ n) : last n l = l := by
  simp [last, Nat.sub_eq_zero_of_le h]

theorem last_append_last (n : Nat) (l m : List α) : last n (last n l ++ m) = last n (l ++ m) := by
  simp only [last, List.drop_append, List.length_append, List.length_drop, List.drop_drop]
  congr 2 <;> omega

/-- **A push keeps the last items.** A list that is full loses its first item, and any other has
room for one more, since none is longer than its capacity. -/
theorem items_push (r : Recent α) (a : α) :
    (r.push a).items = last r.capacity (r.items ++ [a]) := by
  have hpositive := r.positive
  have hbounded := r.bounded
  show r.spared ++ [a] = (r.items ++ [a]).drop ((r.items ++ [a]).length - r.capacity)
  rw [List.length_append, List.length_singleton]
  by_cases hfull : r.items.length = r.capacity
  · have hone : r.items.length + 1 - r.capacity = 1 := by omega
    have hnonempty : 1 ≤ r.items.length := by omega
    rw [spared, if_pos hfull, hone, List.drop_append_of_le_length hnonempty, List.drop_one]
  · have hzero : r.items.length + 1 - r.capacity = 0 := by omega
    rw [spared, if_neg hfull, hzero, List.drop_zero]

@[simp] theorem capacity_pushAll (r : Recent α) (l : List α) :
    (r.pushAll l).capacity = r.capacity := by
  induction l generalizing r with
  | nil => rfl
  | cons a l ih => exact ih (r.push a)

theorem items_pushAll (r : Recent α) (l : List α) :
    (r.pushAll l).items = last r.capacity (r.items ++ l) := by
  induction l generalizing r with
  | nil => simp [pushAll, last_eq_self r.bounded]
  | cons a l ih =>
    show ((r.push a).pushAll l).items = _
    rw [ih, items_push]
    show last r.capacity (last r.capacity (r.items ++ [a]) ++ l) = _
    rw [last_append_last, List.append_assoc, List.singleton_append]

end Recent

end LiveTrace

namespace Turnstile

/-! A row of instances of one kind, numbered in the order in which they were added, and
the instance in use: one of the row, or one that stands apart and has no number. -/

/-- Which instance is in use, beside a row of the given size. -/
inductive Choice (Item : Type) (size : Nat) where
  | numbered (index : Fin size)
  | apart (item : Item)
deriving DecidableEq

namespace Choice

/-- The same choice beside a row that is at least as long. -/
def widen {Item : Type} {size larger : Nat} (bound : size ≤ larger) :
    Choice Item size → Choice Item larger
  | .numbered index => .numbered (index.castLE bound)
  | .apart item => .apart item

end Choice

structure Pool (Item : Type) where
  items : List Item
  choice : Choice Item items.length
deriving DecidableEq

namespace Pool

variable {Item : Type}

def single (item : Item) : Pool Item where
  items := [item]
  choice := .numbered ⟨0, Nat.zero_lt_one⟩

instance [Inhabited Item] : Inhabited (Pool Item) := ⟨single default⟩

def item? (pool : Pool Item) (index : Nat) : Option Item :=
  pool.items[index]?

/-- The instance in use. -/
def inUse (pool : Pool Item) : Item :=
  match pool.choice with
  | .numbered index => pool.items.get index
  | .apart item => item

/-- Put an instance in the place of the one with the given number. -/
def put (pool : Pool Item) (index : Nat) (item : Item) : Pool Item where
  items := pool.items.set index item
  choice := pool.choice.widen (Nat.le_of_eq List.length_set.symm)

/-- Put an instance in the place of the one in use. -/
def putInUse (pool : Pool Item) (item : Item) : Pool Item :=
  match pool.choice with
  | .numbered index => pool.put index item
  | .apart _ => { pool with choice := .apart item }

/-- Add an instance, which is not in use yet. Its number is the old size. -/
def add (pool : Pool Item) (item : Item) : Pool Item where
  items := pool.items ++ [item]
  choice := pool.choice.widen (by
    rw [List.length_append]
    exact Nat.le_add_right ..)

/-- Use an instance that is not one of the row. The row stays as it is. -/
def useApart (pool : Pool Item) (item : Item) : Pool Item :=
  { pool with choice := .apart item }

def size (pool : Pool Item) : Nat :=
  pool.items.length

/-- Use the instance with the given number, if there is one. -/
def select? (pool : Pool Item) (index : Nat) : Option (Pool Item) :=
  if bound : index < pool.items.length then
    some { pool with choice := .numbered ⟨index, bound⟩ }
  else none

@[simp] theorem inUse_single (item : Item) : (single item).inUse = item := rfl

@[simp] theorem inUse_putInUse (pool : Pool Item) (item : Item) :
    (pool.putInUse item).inUse = item := by
  rcases pool with ⟨items, _ | _⟩ <;> simp [inUse, putInUse, put, Choice.widen]

/-- A choice beside an equal row is the same choice. -/
private theorem mk_widen {items others : List Item} (same : others = items)
    (choice : Choice Item items.length) (bound : items.length ≤ others.length) :
    Pool.mk others (choice.widen bound) = Pool.mk items choice := by
  subst same
  cases choice <;> rfl

@[simp] theorem putInUse_inUse (pool : Pool Item) : pool.putInUse pool.inUse = pool := by
  rcases pool with ⟨items, index | item⟩
  · exact mk_widen (by simp [inUse]) (.numbered index) _
  · rfl

@[simp] theorem inUse_useApart (pool : Pool Item) (item : Item) :
    (pool.useApart item).inUse = item := rfl

end Pool

end Turnstile

/-!
# Things by number

What a system or a driver keeps many of (connections, channels, tasks, statements) is found by
number.  `Numbered` is a table from numbers to such things, which has one for every number, and
`Numbered.put` replaces one of them.
-/

namespace SnowflakeSql

/-- A thing for every number. -/
abbrev Numbered (α : Type) := Nat → α

namespace Numbered

variable {α : Type}

/-- The table with another thing under the number. -/
def put (table : Numbered α) (n : Nat) (x : α) : Numbered α := fun k => if k = n then x else table k

theorem put_self (table : Numbered α) (n : Nat) (x : α) : put table n x n = x := by simp [put]

theorem put_of_ne (table : Numbered α) {n k : Nat} (x : α) (h : k ≠ n) :
    put table n x k = table k := by simp [put, h]

theorem put_put (table : Numbered α) (n : Nat) (x y : α) :
    put (put table n x) n y = put table n y := by
  funext k
  by_cases h : k = n <;> simp [put, h]

end Numbered

end SnowflakeSql

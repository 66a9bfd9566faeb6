import TableQuery.Text.Hex

/-!
# Supplies of identifiers

* `IdSupply`: a numbered sequence of identifiers and how many of them are taken.
* `IdSupply.peek`, `IdSupply.take`: the next identifier, and the supply without it.
* `uuidText`: a number as a universally unique identifier.
-/

namespace TableQuery

/-- A sequence of identifiers of which the first few are taken. The first has number one. -/
structure IdSupply where
  name : Nat → Text
  used : Nat

namespace IdSupply

/-- The next identifier. -/
def peek (ids : IdSupply) : Text :=
  ids.name (ids.used + 1)

/-- The supply without its next identifier. -/
def take (ids : IdSupply) : IdSupply :=
  { ids with used := ids.used + 1 }

/-- The supply of the identifiers of a sequence. -/
def ofSequence (name : Nat → Text) : IdSupply :=
  ⟨name, 0⟩

end IdSupply

/-- A number as 32 hexadecimal digits, in groups of eight, four, four, four and twelve. -/
def uuidText (n : Nat) : Text :=
  let digits := Text.hex 32 n
  let group (start length : Nat) : Text := (digits.drop start).take length
  Text.joinWith "-" [group 0 8, group 8 4, group 12 4, group 16 4, group 20 12]

end TableQuery

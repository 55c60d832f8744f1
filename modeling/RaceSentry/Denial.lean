/-!
# What cannot be had

Some requests cannot be met by any machine with words of 64 bits, and some names no thread can
have. A denial says which of these it was. It depends on what was asked for alone, and never on
how busy the machine is.
-/

namespace RaceSentry

/-- Why something that was asked for cannot be had. -/
inductive Denial where
  /-- A queue with more slots than can be numbered. -/
  | unnumberable
  /-- A row of items that takes more bytes than can be addressed. -/
  | unaddressable
  /-- A thread with a name that contains a NUL. -/
  | unnameable (name : String)
  deriving DecidableEq, Repr

namespace Denial

/-- The most bytes that one row of items may take. -/
def addressable : Nat := 0x7fffffffffffffff

/-- The most slots that a queue may have: a slot's number and two marks share one word. -/
def numberable : Nat := 0x3fffffffffffffff

/-- Why there is no row of so many items of a size in bytes. -/
def ofRow? (itemBytes count : Nat) : Option Denial :=
  if count * itemBytes ≤ addressable then none else some .unaddressable

/-- Why there is no queue of so many slots of a size in bytes. The slots are numbered before they
are laid out. -/
def ofQueue? (slotBytes capacity : Nat) : Option Denial :=
  if capacity ≤ numberable then ofRow? slotBytes capacity else some .unnumberable

/-- Why no thread has a name. -/
def ofThreadName? (name : String) : Option Denial :=
  if name.toList.contains '\x00' then some (.unnameable name) else none

/-- The denial in words. That of a name gives the place of its first NUL, and its bytes. -/
def message : Denial → String
  | .unnumberable => "bounded channel capacity is too large"
  | .unaddressable => "capacity overflow"
  | .unnameable name =>
    let bytes := name.toUTF8.toList.map UInt8.toNat
    "thread name may not contain interior null bytes: NulError(" ++
      toString (bytes.takeWhile (· != 0)).length ++
      ", [" ++ ", ".intercalate (bytes.map toString) ++ "])"

/-- There is a queue exactly if its slots can be numbered and laid out. -/
theorem ofQueue?_eq_none_iff {slotBytes capacity : Nat} :
    ofQueue? slotBytes capacity = none ↔
      capacity ≤ numberable ∧ capacity * slotBytes ≤ addressable := by
  by_cases numbered : capacity ≤ numberable
  · simp [ofQueue?, ofRow?, numbered]
  · simp [ofQueue?, numbered]

end Denial

end RaceSentry

import Mathlib

/-!
# Numerals with a named instance

`open Numerals in` lets a definition elaborate its literals the same way wherever it stands.
-/

namespace Numerals

scoped instance (priority := 2000) two : Nat.AtLeastTwo 2 := ⟨by decide⟩

scoped instance (priority := 2000) eight : Nat.AtLeastTwo 8 := ⟨by decide⟩

scoped instance (priority := 2000) ten : Nat.AtLeastTwo 10 := ⟨by decide⟩

scoped instance (priority := 2000) eleven : Nat.AtLeastTwo 11 := ⟨by decide⟩

scoped instance (priority := 2000) twelve : Nat.AtLeastTwo 12 := ⟨by decide⟩

scoped instance (priority := 2000) thirteen : Nat.AtLeastTwo 13 := ⟨by decide⟩

scoped instance (priority := 2000) fifty : Nat.AtLeastTwo 50 := ⟨by decide⟩

scoped instance (priority := 2000) sixty : Nat.AtLeastTwo 60 := ⟨by decide⟩

scoped instance (priority := 2000) eighty : Nat.AtLeastTwo 80 := ⟨by decide⟩

scoped instance (priority := 2000) ninetyNine : Nat.AtLeastTwo 99 := ⟨by decide⟩

scoped instance (priority := 2000) hundred : Nat.AtLeastTwo 100 := ⟨by decide⟩

scoped instance (priority := 2000) hundredOne : Nat.AtLeastTwo 101 := ⟨by decide⟩

scoped instance (priority := 2000) hundredThousand : Nat.AtLeastTwo 100000 := ⟨by decide⟩

end Numerals

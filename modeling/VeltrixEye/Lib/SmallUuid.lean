import VeltrixEye.Lib.Uuid

/-!
# The uuids that end in one digit

* `Uuid.ofDigit` — sixteen values to write closed runs with.
-/

theorem hexDigit?_digit (n : Fin 16) :
    hexDigit? ("0123456789abcdef".toList.getD n '0') =
      some ("0123456789abcdef".toList.getD n '0') := by
  revert n
  decide

theorem normalizeUuid_ofDigit (n : Fin 16) :
    normalizeUuid (printUuid (List.replicate 31 '0' ++ ["0123456789abcdef".toList.getD n '0'])) =
      some (printUuid (List.replicate 31 '0' ++ ["0123456789abcdef".toList.getD n '0'])) := by
  have hzero : hexDigit? '0' = some '0' := by decide
  have hdigit := hexDigit?_digit n
  generalize "0123456789abcdef".toList.getD n '0' = c at hdigit ⊢
  unfold normalizeUuid
  rw [printUuid, String.toList_ofList]
  simp [List.replicate, uuidDigits, hzero, hdigit, printUuid]

instance neZero_sixteen : NeZero 16 := ⟨by decide⟩

/-- The uuid that ends in the digit. -/
def Uuid.ofDigit (n : Fin 16) : Uuid := ⟨_, normalizeUuid_ofDigit n⟩

import DyData.PythonText
import DyData.SettlementRows

/-!
Month keys as text.  Months are counted elsewhere; a partition of the projection is named by the
text of its month.
-/

namespace DyData.Settlement

open PythonText (isSpace)

def twoDigits (n : Nat) : String := if n < 10 then "0" ++ toString n else toString n

/-- `YYYY-MM`. -/
def monthText (month : Month) : String :=
  toString (month / 12) ++ "-" ++ twoDigits (month % 12 + 1)

/-- The month of the year ends a key in three characters. -/
theorem length_monthSuffix {n : Nat} (h : n < 12) : ("-" ++ twoDigits (n + 1)).toList.length = 3 := by
  have hall : ∀ m < 12, ("-" ++ twoDigits (m + 1)).toList.length = 3 := by decide
  exact hall n h

theorem monthSuffix_injective {n m : Nat} (hn : n < 12) (hm : m < 12)
    (h : ("-" ++ twoDigits (n + 1)).toList = ("-" ++ twoDigits (m + 1)).toList) : n = m := by
  have hall : ∀ a < 12, ∀ b < 12,
      ("-" ++ twoDigits (a + 1)).toList = ("-" ++ twoDigits (b + 1)).toList → a = b := by decide
  exact hall n hn m hm h

theorem toList_monthText (month : Month) : (monthText month).toList =
    (toString (month / 12)).toList ++ ("-" ++ twoDigits (month % 12 + 1)).toList := by
  unfold monthText
  rw [String.append_assoc, String.toList_append]

theorem toString_injective {m n : Nat} (h : toString m = toString n) : m = n := by
  have hdig : Nat.toDigits 10 m = Nat.toDigits 10 n := String.ofList_injective h
  rw [← Nat.ofDigitChars_toDigits (n := m) (b := 10) (by decide) (by decide), hdig,
    Nat.ofDigitChars_toDigits (by decide) (by decide)]

theorem monthText_injective : Function.Injective monthText := by
  intro m n h
  have hlists := congrArg String.toList h
  rw [toList_monthText, toList_monthText] at hlists
  have hm := Nat.mod_lt m (show 12 > 0 by decide)
  have hn := Nat.mod_lt n (show 12 > 0 by decide)
  obtain ⟨hyear, hmo⟩ := List.append_inj' hlists
    ((length_monthSuffix hm).trans (length_monthSuffix hn).symm)
  have hyears : m / 12 = n / 12 := toString_injective (String.toList_inj.mp hyear)
  have hmos : m % 12 = n % 12 := monthSuffix_injective hm hn hmo
  rw [← Nat.div_add_mod m 12, ← Nat.div_add_mod n 12, hyears, hmos]

theorem noSpace_toString (n : Nat) : ∀ c ∈ (toString n).toList, isSpace c = false := by
  intro c hc
  rw [Nat.toString_eq_ofList_toDigits, String.toList_ofList] at hc
  have hdigit := Nat.isDigit_of_mem_toDigits (by decide) (by decide) hc
  simp only [Char.isDigit, bool_to_prop] at hdigit
  have hlow : 48 ≤ c.toNat := UInt32.le_iff_toNat_le.mp hdigit.1
  have hhigh : c.toNat ≤ 57 := UInt32.le_iff_toNat_le.mp hdigit.2
  simp only [isSpace, Bool.or_eq_false_iff, Bool.and_eq_false_iff, decide_eq_false_iff_not,
    beq_eq_false_iff_ne]
  omega

theorem noSpace_monthText (month : Month) : ∀ c ∈ (monthText month).toList, isSpace c = false := by
  intro c hc
  rw [toList_monthText, List.mem_append] at hc
  rcases hc with hc | hc
  · exact noSpace_toString _ c hc
  · have hall : ∀ m < 12, (("-" ++ twoDigits (m + 1)).toList.any isSpace) = false := by
      decide
    simpa using List.any_eq_false.mp (hall _ (Nat.mod_lt month (by decide))) c hc

theorem monthText_ne_empty (month : Month) : monthText month ≠ "" := by
  intro h
  have hlen := congrArg (fun s => s.toList.length) h
  rw [toList_monthText, List.length_append] at hlen
  simp at hlen

def digit? (c : Char) : Option Nat := if c.isDigit then some (c.toNat - 48) else none

/-- `_sparse_month`: the month a canonical key names. -/
def monthOfText? (text : String) : Option Month :=
  match text.toList with
  | [a, b, c, d, '-', e, f] => do
    let year := 1000 * (← digit? a) + 100 * (← digit? b) + 10 * (← digit? c) + (← digit? d)
    let month := 10 * (← digit? e) + (← digit? f)
    if 1 ≤ year ∧ 1 ≤ month ∧ month ≤ 12 then some (12 * year + (month - 1)) else none
  | _ => none

example : monthOfText? (monthText formalSettlementStart) = some formalSettlementStart := by decide

end DyData.Settlement

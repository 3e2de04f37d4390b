import Mathlib.Data.List.Induction
import PromptScript.Calendar
import PromptScript.Decimal.Power

/-!
# Proofs.DateTexts

Which texts are dates. A number and its digits determine each other where there is a fixed count of
them, so a text is a date exactly if it is how a day of the calendar is written
(`isDate_iff_namesDay`). Such a text has ten bytes.
-/

namespace PromptScript

/-! ## Digits -/

/-- The last decimal digits of a number, `count` of them. -/
def lastDigits : Nat → Nat → List Char
  | 0, _ => []
  | count + 1, n => lastDigits count (n / 10) ++ [Nat.digitChar (n % 10)]

theorem isAsciiDigit_iff {c : Char} :
    isAsciiDigit c = true ↔ '0'.toNat ≤ c.toNat ∧ c.toNat ≤ '9'.toNat := by
  rw [isAsciiDigit, Bool.and_eq_true, decide_eq_true_eq, decide_eq_true_eq]
  rfl

theorem digitChar_of_lt : ∀ d < 10,
    isAsciiDigit (Nat.digitChar d) = true ∧ (Nat.digitChar d).toNat - '0'.toNat = d := by
  decide

theorem digitChar_of_isAsciiDigit {c : Char} (h : isAsciiDigit c = true) :
    c.toNat - '0'.toNat < 10 ∧ Nat.digitChar (c.toNat - '0'.toNat) = c := by
  obtain ⟨hleast, hmost⟩ := isAsciiDigit_iff.1 h
  have hlt : c.toNat - '0'.toNat < 10 := by
    have hnine : '9'.toNat = '0'.toNat + 9 := rfl
    omega
  refine ⟨hlt, Char.toNat_inj.1 ?_⟩
  rw [Nat.toNat_digitChar_of_lt_ten hlt]
  exact Nat.add_sub_cancel' hleast

theorem digitsValue_concat (digits : List Char) (c : Char) :
    digitsValue (digits ++ [c]) = 10 * digitsValue digits + (c.toNat - '0'.toNat) := by
  rw [digitsValue, List.foldl_append]
  rfl

theorem isAsciiDigit_of_mem_lastDigits {count n : Nat} {c : Char} (h : c ∈ lastDigits count n) :
    isAsciiDigit c = true := by
  induction count generalizing n with
  | zero => cases h
  | succ count ih =>
    rcases List.mem_append.1 h with h | h
    · exact ih h
    · rw [List.mem_singleton.1 h]
      exact (digitChar_of_lt _ (Nat.mod_lt n (by decide))).1

theorem tenTo_succ (count : Nat) : tenTo (count + 1) = 10 * tenTo count := Nat.pow_succ'

theorem digitsValue_lastDigits (count n : Nat) :
    digitsValue (lastDigits count n) = n % tenTo count := by
  induction count generalizing n with
  | zero => exact (Nat.mod_one n).symm
  | succ count ih =>
    rw [lastDigits, digitsValue_concat, ih, (digitChar_of_lt _ (Nat.mod_lt n (by decide))).2,
      tenTo_succ, Nat.mod_mul, Nat.add_comm]

theorem digitsValue_lt {digits : List Char} (h : ∀ c ∈ digits, isAsciiDigit c = true) :
    digitsValue digits < tenTo digits.length := by
  induction digits using List.reverseRecOn with
  | nil => decide
  | append_singleton digits c ih =>
    obtain ⟨hdigits, hc⟩ := List.forall_mem_append.1 h
    have hlt := (digitChar_of_isAsciiDigit (hc c List.mem_cons_self)).1
    have hrest := ih hdigits
    rw [digitsValue_concat, List.length_append, List.length_singleton, tenTo_succ]
    omega

theorem lastDigits_digitsValue {digits : List Char} (h : ∀ c ∈ digits, isAsciiDigit c = true) :
    lastDigits digits.length (digitsValue digits) = digits := by
  induction digits using List.reverseRecOn with
  | nil => rfl
  | append_singleton digits c ih =>
    obtain ⟨hdigits, hc⟩ := List.forall_mem_append.1 h
    obtain ⟨hlt, hchar⟩ := digitChar_of_isAsciiDigit (hc c List.mem_cons_self)
    have hrest : (10 * digitsValue digits + (c.toNat - '0'.toNat)) / 10 = digitsValue digits := by
      omega
    have hlast : (10 * digitsValue digits + (c.toNat - '0'.toNat)) % 10 = c.toNat - '0'.toNat := by
      omega
    rw [List.length_append, List.length_singleton, digitsValue_concat, lastDigits, hrest, hlast,
      ih hdigits, hchar]

/-! ## Dates -/

/-- The text is how a day of the calendar is written: the year in four digits, the month and the day
in two, with hyphens between them. -/
def NamesDay (cs : List Char) : Prop :=
  ∃ year month day : Nat, year < tenTo 4 ∧ (1 ≤ month ∧ month ≤ 12) ∧
    1 ≤ day ∧ day ≤ daysOfMonth year month ∧
    cs = lastDigits 4 year ++ '-' :: lastDigits 2 month ++ '-' :: lastDigits 2 day

theorem month_of_daysOfMonth {year month : Nat} (h : 1 ≤ daysOfMonth year month) :
    1 ≤ month ∧ month ≤ 12 := by
  unfold daysOfMonth at h
  split at h <;> omega

theorem daysOfMonth_le (year month : Nat) : daysOfMonth year month ≤ 31 := by
  unfold daysOfMonth
  split
  all_goals try split
  all_goals decide

theorem namesDay_of_isDate {cs : List Char} (h : isDate cs = true) : NamesDay cs := by
  unfold isDate at h
  split at h
  · rename_i y1 y2 y3 y4 m1 m2 d1 d2
    dsimp only at h
    rw [Bool.and_eq_true, Bool.and_eq_true, List.all_eq_true, decide_eq_true_eq,
      decide_eq_true_eq] at h
    obtain ⟨⟨hdigits, hleast⟩, hmost⟩ := h
    obtain ⟨hyear, hrest⟩ := List.forall_mem_append.1
      (show ∀ c ∈ [y1, y2, y3, y4] ++ ([m1, m2] ++ [d1, d2]), isAsciiDigit c = true from hdigits)
    obtain ⟨hmonth, hday⟩ := List.forall_mem_append.1 hrest
    have hy : lastDigits 4 (digitsValue _) = _ := lastDigits_digitsValue hyear
    have hm : lastDigits 2 (digitsValue _) = _ := lastDigits_digitsValue hmonth
    have hd : lastDigits 2 (digitsValue _) = _ := lastDigits_digitsValue hday
    refine ⟨_, _, _, digitsValue_lt hyear, month_of_daysOfMonth (Nat.le_trans hleast hmost),
      hleast, hmost, ?_⟩
    rw [hy, hm, hd]
    rfl
  · cases h

theorem isDate_of_namesDay {cs : List Char} (h : NamesDay cs) : isDate cs = true := by
  obtain ⟨year, month, day, hyear, ⟨-, hmonth⟩, hleast, hmost, rfl⟩ := h
  have hday : day ≤ 31 := Nat.le_trans hmost (daysOfMonth_le year month)
  have hdigits : ∀ c ∈ lastDigits 4 year ++ (lastDigits 2 month ++ lastDigits 2 day),
      isAsciiDigit c = true := by
    simp only [List.forall_mem_append]
    exact ⟨fun _ => isAsciiDigit_of_mem_lastDigits, fun _ => isAsciiDigit_of_mem_lastDigits,
      fun _ => isAsciiDigit_of_mem_lastDigits⟩
  have hvalues : digitsValue (lastDigits 4 year) = year ∧ digitsValue (lastDigits 2 month) = month ∧
      digitsValue (lastDigits 2 day) = day := by
    have hundred : tenTo 2 = 100 := rfl
    simp only [digitsValue_lastDigits]
    exact ⟨Nat.mod_eq_of_lt hyear, Nat.mod_eq_of_lt (by omega), Nat.mod_eq_of_lt (by omega)⟩
  obtain ⟨y1, y2, y3, y4, hy⟩ : ∃ y1 y2 y3 y4, lastDigits 4 year = [y1, y2, y3, y4] :=
    ⟨_, _, _, _, rfl⟩
  obtain ⟨m1, m2, hm⟩ : ∃ m1 m2, lastDigits 2 month = [m1, m2] := ⟨_, _, rfl⟩
  obtain ⟨d1, d2, hd⟩ : ∃ d1 d2, lastDigits 2 day = [d1, d2] := ⟨_, _, rfl⟩
  rw [hy, hm, hd] at hdigits hvalues ⊢
  change ([y1, y2, y3, y4, m1, m2, d1, d2].all isAsciiDigit &&
    decide (1 ≤ digitsValue [d1, d2]) &&
    decide (digitsValue [d1, d2] ≤ daysOfMonth (digitsValue [y1, y2, y3, y4])
      (digitsValue [m1, m2]))) = true
  rw [Bool.and_eq_true, Bool.and_eq_true, List.all_eq_true, decide_eq_true_eq, decide_eq_true_eq,
    hvalues.1, hvalues.2.1, hvalues.2.2]
  exact ⟨⟨hdigits, hleast⟩, hmost⟩

/-- A text is a date exactly if it is how a day of the calendar is written. -/
theorem isDate_iff_namesDay {cs : List Char} : isDate cs = true ↔ NamesDay cs :=
  ⟨namesDay_of_isDate, isDate_of_namesDay⟩

theorem utf8ByteSize_of_ascii {cs : List Char} (h : ∀ c ∈ cs, c.val ≤ 127) :
    (String.ofList cs).utf8ByteSize = cs.length := by
  induction cs with
  | nil => rfl
  | cons c cs ih =>
    obtain ⟨hc, hcs⟩ := List.forall_mem_cons.1 h
    rw [String.ofList_cons, String.utf8ByteSize_append, String.utf8ByteSize_singleton,
      Char.utf8Size_eq_one_iff.2 hc, ih hcs, List.length_cons, Nat.add_comm]

theorem utf8ByteSize_of_namesDay {cs : List Char} (h : NamesDay cs) :
    (String.ofList cs).utf8ByteSize = 10 := by
  obtain ⟨year, month, day, -, -, -, -, rfl⟩ := h
  have hdigit {count n : Nat} {c : Char} (hc : c ∈ lastDigits count n) : c.val ≤ 127 := by
    have hmost := (isAsciiDigit_iff.1 (isAsciiDigit_of_mem_lastDigits hc)).2
    exact Nat.le_trans hmost (by decide)
  refine utf8ByteSize_of_ascii fun c hc => ?_
  simp only [List.mem_append, List.mem_cons] at hc
  rcases hc with (hc | rfl | hc) | rfl | hc
  · exact hdigit hc
  · decide
  · exact hdigit hc
  · decide
  · exact hdigit hc

end PromptScript

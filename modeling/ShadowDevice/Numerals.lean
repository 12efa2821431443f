import Mathlib

/-!
# `ShadowDevice.Numerals`: numbers in and out of the shadow documents

Every callback of `shadow_device_task.c` reads the numbers it needs with
`( uint32_t ) strtoul( pcOutValue, NULL, 10 )`, where `pcOutValue` points at the value
text `JSON_Search` found. The task writes numbers with the `%u` conversion of `snprintf`.
This module models both directions.

`strtoul` follows C11 7.22.1.4 in base 10. It skips white space, takes one optional sign,
then the longest run of decimal digits. A value above `ULONG_MAX` reads as `ULONG_MAX`,
and a minus sign negates the value in `unsigned long`. The standard only asks
`unsigned long` for 32 bits or more, so `Platform` carries the width, and the results that
do not name a platform hold for every width. The program is the board's: on its Cortex-M33
`unsigned long` and `size_t` are 32 bits wide (`Platform.cortexM33`). On a 64-bit host the
callbacks' `JSON_Search` calls would store a `size_t` through `( size_t * ) &ulOutValueLength`
into a `uint32_t` (lines 483, 527 and the like), so the code is not defined there.
`strtoul32` adds the cast to `uint32_t`. In a payload the
value text of a number or a string is followed by a delimiter (`,`, `}`, `]`, white space
or `"`), which ends the digit run. So reading the value text alone gives what `strtoul`
reads from the payload.

`Nat.toDigits 10` is the digit string `%u` prints. `strtoul_toDigits` reads back every
value that fits in `unsigned long`, and `strtoul_padLeft_zero` every zero-padded one, as
the `clientToken` of a report is.
-/

set_option autoImplicit false

namespace ShadowDevice

/-- The C implementation the task runs on. The standard asks `unsigned long` for at least
32 bits. -/
structure Platform where
  ulongBits : Nat
  atLeast32 : 32 ≤ ulongBits

/-- The board: `arm-none-eabi` makes `unsigned long` 32 bits wide. -/
def Platform.cortexM33 : Platform := ⟨32, le_refl 32⟩

/-- `isspace` in the "C" locale. -/
def isSpace (c : Char) : Bool :=
  c == ' ' || c == '\t' || c == '\n' || c == '\x0b' || c == '\x0c' || c == '\r'

/-- The value of a run of decimal digits, most significant first. -/
def digitsValue (ds : List Char) : Nat :=
  ds.foldl (fun n c => 10 * n + (c.toNat - '0'.toNat)) 0

/-- The optional sign `strtoul` reads after the white space: `true` for a minus sign. -/
def splitSign : List Char → Bool × List Char
  | '-' :: r => (true, r)
  | '+' :: r => (false, r)
  | r => (false, r)

/-- `strtoul( s, NULL, 10 )`. With no digits the result is 0. -/
def strtoul (pf : Platform) (s : List Char) : Nat :=
  let signed := splitSign (s.dropWhile isSpace)
  let n := digitsValue (signed.2.takeWhile Char.isDigit)
  if 2 ^ pf.ulongBits ≤ n then 2 ^ pf.ulongBits - 1
  else if signed.1 then (2 ^ pf.ulongBits - n) % 2 ^ pf.ulongBits
  else n

/-- `( uint32_t ) strtoul( s, NULL, 10 )`, the conversion every callback applies to a
value text. -/
def strtoul32 (pf : Platform) (s : String) : UInt32 :=
  UInt32.ofNat (strtoul pf s.toList)

/-- `ds` padded on the left with `fill` to `width` characters, as a conversion with a
minimum width pads its digits: with `'0'` under the `0` flag, with spaces otherwise. -/
def padLeft (fill : Char) (width : Nat) (ds : List Char) : List Char :=
  List.replicate (width - ds.length) fill ++ ds

/-! ## `uint32_t` order as order on the values -/

theorem u32_lt_iff {a b : UInt32} : a < b ↔ a.toNat < b.toNat := by
  simp [UInt32.lt_def, BitVec.lt_def, UInt32.toNat]

theorem u32_le_iff {a b : UInt32} : a ≤ b ↔ a.toNat ≤ b.toNat := by
  simp [UInt32.le_def, BitVec.le_def, UInt32.toNat]

theorem u32_eq_iff {a b : UInt32} : a = b ↔ a.toNat = b.toNat :=
  ⟨congrArg _, UInt32.toNat.inj⟩

theorem u32_toNat_ofNat (n : Nat) : (UInt32.ofNat n).toNat = n % 2 ^ 32 := by
  simp [UInt32.toNat, UInt32.ofNat, BitVec.toNat_ofNat]

theorem u32_toNat_add_one (a : UInt32) : (a + 1).toNat = (a.toNat + 1) % 2 ^ 32 := rfl

theorem u32_toNat_lt (a : UInt32) : a.toNat < 2 ^ 32 := a.toNat_lt_size

theorem strtoul32_toNat (pf : Platform) (s : String) :
    (strtoul32 pf s).toNat = strtoul pf s.toList % 2 ^ 32 :=
  u32_toNat_ofNat _

/-! ## Digit strings -/

theorem digitsValue_append (ds : List Char) (c : Char) :
    digitsValue (ds ++ [c]) = 10 * digitsValue ds + (c.toNat - '0'.toNat) := by
  simp [digitsValue, List.foldl_append]

theorem digitsValue_replicate_zero_append (k : Nat) (ds : List Char) :
    digitsValue (List.replicate k '0' ++ ds) = digitsValue ds := by
  have hzero : ∀ k, (List.replicate k '0').foldl
      (fun n c => 10 * n + (c.toNat - '0'.toNat)) 0 = 0 := by
    intro k
    induction k with
    | zero => rfl
    | succ k ih => rw [List.replicate_succ', List.foldl_append, ih]; rfl
  simp only [digitsValue, List.foldl_append, hzero]

/-- A decimal digit: `Nat.digitChar` of a value below 10 is a digit character that reads
back as the value. -/
theorem digitChar_spec (d : Nat) (h : d < 10) :
    (Nat.digitChar d).isDigit = true ∧ (Nat.digitChar d).toNat - '0'.toNat = d := by
  interval_cases d <;> decide

/-- `toDigitsCore` with enough fuel puts its digits in front of the accumulator. -/
theorem toDigitsCore_append (fuel n : Nat) (acc : List Char) (h : n < fuel) :
    Nat.toDigitsCore 10 fuel n acc = Nat.toDigitsCore 10 fuel n [] ++ acc := by
  induction fuel generalizing n acc with
  | zero => omega
  | succ fuel ih =>
    simp only [Nat.toDigitsCore]
    split
    · rfl
    · rw [ih _ _ (by omega), ih _ [_] (by omega), List.append_assoc]
      rfl

/-- Any fuel above `n` gives the same digits. -/
theorem toDigitsCore_fuel (f₁ f₂ n : Nat) (h₁ : n < f₁) (h₂ : n < f₂) :
    Nat.toDigitsCore 10 f₁ n [] = Nat.toDigitsCore 10 f₂ n [] := by
  induction f₁ generalizing f₂ n with
  | zero => omega
  | succ f₁ ih =>
    obtain ⟨f₂, rfl⟩ : ∃ g, f₂ = g + 1 := ⟨f₂ - 1, by omega⟩
    simp only [Nat.toDigitsCore]
    split
    · rfl
    · rw [toDigitsCore_append _ _ _ (by omega), toDigitsCore_append f₂ _ _ (by omega),
        ih f₂ _ (by omega) (by omega)]

/-- The last digit comes off the end: the recursion `%u` follows. -/
theorem toDigits_eq (n : Nat) :
    Nat.toDigits 10 n =
      (if n < 10 then [] else Nat.toDigits 10 (n / 10)) ++ [Nat.digitChar (n % 10)] := by
  show Nat.toDigitsCore 10 (n + 1) n [] = _
  simp only [Nat.toDigitsCore]
  split
  · rw [if_pos (by omega)]
    rfl
  · rw [if_neg (by omega), toDigitsCore_append _ _ _ (by omega), Nat.toDigits,
      toDigitsCore_fuel n (n / 10 + 1) _ (by omega) (by omega)]

/-- What `%u` prints reads back through the digit run. -/
theorem toDigits_spec (n : Nat) :
    (∀ c ∈ Nat.toDigits 10 n, c.isDigit = true) ∧ digitsValue (Nat.toDigits 10 n) = n := by
  induction n using Nat.strong_induction_on with
  | _ n ih =>
    have hd := digitChar_spec (n % 10) (Nat.mod_lt _ (by omega))
    rw [toDigits_eq]
    split
    · refine ⟨by simpa using hd.1, ?_⟩
      rw [digitsValue_append, hd.2]
      simp [digitsValue]
      omega
    · obtain ⟨hall, hval⟩ := ih (n / 10) (by omega)
      refine ⟨?_, ?_⟩
      · intro c hc
        rcases List.mem_append.mp hc with hc | hc
        · exact hall c hc
        · simpa [List.mem_singleton.mp hc] using hd.1
      · rw [digitsValue_append, hval, hd.2]
        omega

theorem toDigits_ne_nil (n : Nat) : Nat.toDigits 10 n ≠ [] := by
  rw [toDigits_eq]
  simp

/-! ## `strtoul` on a digit string -/

/-- `strtoul` reads a run of digits that fits in `unsigned long` as its value. -/
theorem strtoul_digits (pf : Platform) (ds : List Char) (hne : ds ≠ [])
    (hd : ∀ c ∈ ds, c.isDigit = true) (hlt : digitsValue ds < 2 ^ pf.ulongBits) :
    strtoul pf ds = digitsValue ds := by
  obtain ⟨c, cs, rfl⟩ := List.exists_cons_of_ne_nil hne
  have hc : c.isDigit = true := hd c (List.mem_cons_self _ _)
  have hspace : isSpace c = false := by
    simp only [isSpace, Bool.or_eq_false_iff, beq_eq_false_iff_ne]
    refine ⟨⟨⟨⟨⟨?_, ?_⟩, ?_⟩, ?_⟩, ?_⟩, ?_⟩ <;> (rintro rfl; revert hc; decide)
  have hsign : splitSign (c :: cs) = (false, c :: cs) := by
    unfold splitSign
    split <;> simp_all [Char.isDigit]
  have htake : (c :: cs).takeWhile Char.isDigit = c :: cs :=
    List.takeWhile_eq_self_iff.mpr hd
  simp only [strtoul, List.dropWhile_cons, hspace, Bool.false_eq_true, ite_false]
  rw [hsign]
  simp [htake, Nat.not_le.mpr hlt]

theorem strtoul_toDigits (pf : Platform) (n : Nat) (h : n < 2 ^ pf.ulongBits) :
    strtoul pf (Nat.toDigits 10 n) = n := by
  obtain ⟨hall, hval⟩ := toDigits_spec n
  rw [strtoul_digits pf _ (toDigits_ne_nil n) hall (by rwa [hval]), hval]

theorem strtoul_padLeft_zero (pf : Platform) (width n : Nat) (h : n < 2 ^ pf.ulongBits) :
    strtoul pf (padLeft '0' width (Nat.toDigits 10 n)) = n := by
  obtain ⟨hall, hval⟩ := toDigits_spec n
  have hpad : digitsValue (padLeft '0' width (Nat.toDigits 10 n)) = n := by
    rw [padLeft, digitsValue_replicate_zero_append, hval]
  rw [strtoul_digits pf _ (by simp [padLeft, toDigits_ne_nil]) ?_ (by rwa [hpad]), hpad]
  intro c hc
  rcases List.mem_append.mp hc with hc | hc
  · rw [(List.mem_replicate.mp hc).2]
    rfl
  · exact hall c hc

end ShadowDevice

import ShadowDevice.Numerals

/-!
# `ShadowDevice.Report`: the update document

Each report of the shadow task is the buffer `pcUpdateDocument` that lines 853-861 fill:
`memset` clears its `shadowexampleSHADOW_REPORTED_JSON_LENGTH + 1` bytes, then `snprintf`
prints the format `shadowexampleSHADOW_REPORTED_JSON` into it with the current `powerOn`
state and the client token. The publish at line 867 sends all of those bytes, the NUL
included (line 822).

`formatU` runs `snprintf` over the format literal itself, for the conversions the task
uses (`%[0][width][l]u`). The buffer length comes from the literal the way line 121
computes it, `sizeof` less 2. `reportText_eq` spells out the printed text, and
`reportText_length` its length: 52 characters of literal text, the digits of the state
and the token padded to six digits. The comment at lines 106-120 takes both widths as
exact. A `%1u` or `%06lu` conversion gives a minimum width, though, not a maximum.
`reportText_fits_iff` shows that the text fits the buffer exactly when the state is a
single digit and the token has at most six. At state 10 the last `}` is cut
(`reportsReadBack_false`).

`readReport` is the shadow service's reading of a report: it accepts the printed document
and its NUL, and nothing else. `readReport_updateDocument` reads back the state and the
token text of every report whose text fits, and `strtoul32_tokenText` turns the token text
back into the token, as the callbacks read the shadow's echo of it.
-/

set_option autoImplicit false

namespace ShadowDevice

/-- Where `snprintf` stands in its format string: copying text, or inside a conversion
specification whose `0` flag and width it has read so far. -/
inductive FormatState
  | text
  | spec (zeroFlag : Bool) (width : Nat)
  deriving DecidableEq, Repr

/-- The characters `snprintf` produces, before any truncation, for a format string whose
conversions are `%[0][width][l]u`, each taking the next argument. The format strings of
the task have no other conversion, and the model prints nothing for one. -/
def formatU : FormatState → List Char → List Nat → List Char
  | .text, [], _ => []
  | .text, c :: cs, args =>
    if c = '%' then formatU (.spec false 0) cs args else c :: formatU .text cs args
  | .spec _ _, [], _ => []
  | .spec z w, c :: cs, args =>
    if c = '0' ∧ w = 0 then formatU (.spec true 0) cs args
    else if c.isDigit then formatU (.spec z (10 * w + (c.toNat - '0'.toNat))) cs args
    else if c = 'l' then formatU (.spec z w) cs args
    else if c = 'u' then
      padLeft (if z then '0' else ' ') w (Nat.toDigits 10 (args.headD 0)) ++
        formatU .text cs args.tail
    else formatU .text cs args

/-- `shadowexampleSHADOW_REPORTED_JSON` (lines 96-104): the concatenated literals. -/
def shadowexampleShadowReportedJson : String :=
  "\x7b" ++
  "\"state\":\x7b" ++
  "\"reported\":\x7b" ++
  "\"powerOn\":%1u" ++
  "\x7d" ++
  "\x7d," ++
  "\"clientToken\":\"%06lu\"" ++
  "\x7d"

/-- `sizeof` of a string literal: one byte per character, here all ASCII, and the
terminating NUL. -/
def sizeofLiteral (s : String) : Nat := s.length + 1

/-- `shadowexampleSHADOW_REPORTED_JSON_LENGTH` (line 121). -/
def shadowexampleShadowReportedJsonLength : Nat :=
  sizeofLiteral shadowexampleShadowReportedJson - 2

/-- The `size` bytes of a buffer that `memset` cleared and `snprintf( buffer, size, ... )`
then filled with the output `out`: at most `size - 1` characters of `out`, then NUL
bytes. `snprintf` itself returns `out.length`. -/
def snprintfBuffer (size : Nat) (out : List Char) : List Char :=
  out.take (size - 1) ++ List.replicate (size - min out.length (size - 1)) '\x00'

/-- The text the `snprintf` of lines 857-861 formats from the state and the token. -/
def reportText (ulCurrentPowerOnState ulClientToken : UInt32) : List Char :=
  formatU .text shadowexampleShadowReportedJson.toList
    [ulCurrentPowerOnState.toNat, ulClientToken.toNat]

/-- `pcUpdateDocument` after lines 853-861: the payload the publish at line 867 sends. -/
def updateDocument (ulCurrentPowerOnState ulClientToken : UInt32) : List Char :=
  snprintfBuffer (shadowexampleShadowReportedJsonLength + 1)
    (reportText ulCurrentPowerOnState ulClientToken)

/-- The literal text before the `%1u` conversion. -/
def reportPrefix : List Char := "\x7b\"state\":\x7b\"reported\":\x7b\"powerOn\":".toList

/-- The literal text between the two conversions. -/
def reportMiddle : List Char := "\x7d\x7d,\"clientToken\":\"".toList

/-- The literal text after the `%06lu` conversion. -/
def reportSuffix : List Char := "\"\x7d".toList

/-- The token text the `%06lu` conversion prints. -/
def tokenText (ulClientToken : UInt32) : List Char :=
  padLeft '0' 6 (Nat.toDigits 10 ulClientToken.toNat)

theorem shadowexampleShadowReportedJsonLength_eq :
    shadowexampleShadowReportedJsonLength = 59 := by decide

/-- The printed report: the literal pieces, the state's digits, and the token padded to
six digits. `%1u` never pads, since a value has at least one digit. -/
theorem reportText_eq (s t : UInt32) :
    reportText s t = reportPrefix ++ (Nat.toDigits 10 s.toNat ++ (reportMiddle ++
      (tokenText t ++ reportSuffix))) := by
  have hpad : padLeft ' ' 1 (Nat.toDigits 10 s.toNat) = Nat.toDigits 10 s.toNat := by
    simp [padLeft, Nat.sub_eq_zero_of_le (List.length_pos.mpr (toDigits_ne_nil _))]
  rw [← hpad]
  rfl

/-! ## Length of the printed report -/

theorem toDigits_length (n : Nat) :
    (Nat.toDigits 10 n).length = if n < 10 then 1 else (Nat.toDigits 10 (n / 10)).length + 1 := by
  rw [toDigits_eq]
  split <;> simp

/-- `%u` prints at most `k` digits exactly for the values below `10 ^ k`. Mathlib's
`Nat.toDigitsCore_length` gives the bound; a value of `10 ^ k` or more has more digits. -/
theorem toDigits_length_le_iff (n k : Nat) (hk : 1 ≤ k) :
    (Nat.toDigits 10 n).length ≤ k ↔ n < 10 ^ k := by
  refine ⟨fun hl => ?_, fun hn => Nat.toDigitsCore_length 10 (by decide) _ n k hn hk⟩
  induction k generalizing n with
  | zero => omega
  | succ k ih =>
    rw [toDigits_length] at hl
    split at hl
    · calc n < 10 := ‹_›
        _ ≤ 10 ^ (k + 1) := Nat.le_self_pow (by omega) 10
    · rcases Nat.eq_zero_or_pos k with rfl | hk
      · have := List.length_pos.mpr (toDigits_ne_nil (n / 10))
        omega
      · have := ih (n / 10) hk (by omega)
        rw [pow_succ]
        omega

theorem reportText_length (s t : UInt32) :
    (reportText s t).length =
      52 + (Nat.toDigits 10 s.toNat).length + max 6 (Nat.toDigits 10 t.toNat).length := by
  rw [reportText_eq]
  simp only [List.length_append, tokenText, padLeft, List.length_replicate]
  simp [reportPrefix, reportMiddle, reportSuffix]
  omega

/-- The formatted report fits the `shadowexampleSHADOW_REPORTED_JSON_LENGTH` characters of
the buffer exactly when the state is a single digit and the token has at most six
digits. -/
theorem reportText_fits_iff (s t : UInt32) :
    (reportText s t).length ≤ shadowexampleShadowReportedJsonLength ↔
      s.toNat < 10 ∧ t.toNat < 10 ^ 6 := by
  have hs := toDigits_length_le_iff s.toNat 1 le_rfl
  rw [pow_one] at hs
  rw [reportText_length, shadowexampleShadowReportedJsonLength_eq, ← hs,
    ← toDigits_length_le_iff t.toNat 6 (by omega)]
  have := toDigits_ne_nil s.toNat
  have : 0 < (Nat.toDigits 10 s.toNat).length := List.length_pos.mpr this
  omega

/-! ## The shadow's reading of a report -/

/-- The shadow service's reading of a report payload: the `powerOn` value and the
`clientToken` text, when the payload is a printed report followed by its NUL byte. A
report cut short is not a JSON document and reads as `none`. -/
def readReport (payload : List Char) : Option (Nat × List Char) := do
  let afterPrefix ← payload.dropPrefix? reportPrefix
  let digits := afterPrefix.takeWhile Char.isDigit
  let afterMiddle ← (afterPrefix.dropWhile Char.isDigit).dropPrefix? reportMiddle
  if digits ≠ [] ∧ afterMiddle.dropWhile (· != '"') = reportSuffix ++ ['\x00'] then
    some (digitsValue digits, afterMiddle.takeWhile (· != '"'))
  else none

/-- The token text is made of digits. -/
theorem tokenText_isDigit (t : UInt32) : ∀ c ∈ tokenText t, c.isDigit = true := by
  intro c hc
  rcases List.mem_append.mp hc with hc | hc
  · rw [(List.mem_replicate.mp hc).2]
    rfl
  · exact (toDigits_spec t.toNat).1 c hc

/-- A report whose text fits the buffer reads back as its state and its token text. -/
theorem readReport_updateDocument (s t : UInt32) (hs : s.toNat < 10) (ht : t.toNat < 10 ^ 6) :
    readReport (updateDocument s t) = some (s.toNat, tokenText t) := by
  have hfit := (reportText_fits_iff s t).mpr ⟨hs, ht⟩
  have hlen := reportText_length s t
  rw [shadowexampleShadowReportedJsonLength_eq] at hfit
  have hbuf : updateDocument s t = reportText s t ++ ['\x00'] := by
    have hdl : (Nat.toDigits 10 s.toNat).length = 1 :=
      le_antisymm ((toDigits_length_le_iff _ 1 le_rfl).mpr hs)
        (List.length_pos.mpr (toDigits_ne_nil _))
    have htl : (Nat.toDigits 10 t.toNat).length ≤ 6 :=
      (toDigits_length_le_iff _ 6 (by omega)).mpr ht
    have h59 : (reportText s t).length = 59 := by omega
    simp [updateDocument, snprintfBuffer, shadowexampleShadowReportedJsonLength_eq, h59]
  obtain ⟨hdig, hval⟩ := toDigits_spec s.toNat
  have htokq : ∀ c ∈ tokenText t, (c != '"') = true := by
    intro c hc
    have := tokenText_isDigit t c hc
    revert this
    simp only [Char.isDigit, bne_iff_ne, ne_eq]
    rintro h rfl
    revert h
    decide
  have hmid : ∀ l, (reportMiddle ++ l).takeWhile Char.isDigit = [] := fun _ => rfl
  have hmid' : ∀ l, (reportMiddle ++ l).dropWhile Char.isDigit = reportMiddle ++ l :=
    fun _ => rfl
  have hsuffix : (reportSuffix ++ ['\x00']).takeWhile (· != '"') = [] := rfl
  have hsuffix' : (reportSuffix ++ ['\x00']).dropWhile (· != '"') = reportSuffix ++ ['\x00'] :=
    rfl
  rw [hbuf, reportText_eq]
  simp only [readReport, List.append_assoc, List.dropPrefix?_append_of_beq _ (beq_self_eq_true _),
    Option.bind_eq_bind, Option.some_bind, List.takeWhile_append_of_pos hdig,
    List.dropWhile_append_of_pos hdig, hmid, hmid', List.takeWhile_append_of_pos htokq,
    List.dropWhile_append_of_pos htokq, hsuffix, hsuffix', List.append_nil, hval]
  simp [toDigits_ne_nil]

/-- `strtoul` reads the `%u` text of a value below `2 ^ 32` back as the value. -/
theorem strtoul32_toDigits (pf : Platform) (n : Nat) (h : n < 2 ^ 32) :
    (strtoul32 pf (String.mk (Nat.toDigits 10 n))).toNat = n := by
  have hn : n < 2 ^ pf.ulongBits := lt_of_lt_of_le h (Nat.pow_le_pow_right (by omega) pf.atLeast32)
  rw [strtoul32_toNat]
  exact (congrArg (· % 2 ^ 32) (strtoul_toDigits pf _ hn)).trans (Nat.mod_eq_of_lt h)

/-- `strtoul` reads the `%u` text of a `uint32_t` back as itself. -/
theorem strtoul32_toDigits_self (pf : Platform) (x : UInt32) :
    strtoul32 pf (String.mk (Nat.toDigits 10 x.toNat)) = x :=
  u32_eq_iff.mpr (strtoul32_toDigits pf _ (u32_toNat_lt x))

/-- `strtoul` reads the token text of a report back as the token. -/
theorem strtoul32_tokenText (pf : Platform) (t : UInt32) :
    strtoul32 pf (String.mk (tokenText t)) = t := by
  have ht : t.toNat < 2 ^ pf.ulongBits :=
    lt_of_lt_of_le (u32_toNat_lt t) (Nat.pow_le_pow_right (by omega) pf.atLeast32)
  rw [u32_eq_iff, strtoul32_toNat]
  exact (congrArg (· % 2 ^ 32) (strtoul_padLeft_zero pf 6 _ ht)).trans
    (Nat.mod_eq_of_lt (u32_toNat_lt t))

/-! ## Reports cut short -/

theorem ne_brace_of_isDigit {c : Char} (h : c.isDigit = true) : c ≠ '\x7d' := by
  rintro rfl
  exact absurd h (by decide)

/-- A payload the shadow can read holds the three closing braces of a report: the two
after the state and the last one. -/
theorem three_le_count_brace_of_readReport {payload : List Char} {r : Nat × List Char}
    (h : readReport payload = some r) : 3 ≤ payload.count '\x7d' := by
  simp only [readReport, Option.bind_eq_bind, Option.bind_eq_some,
    Option.ite_none_right_eq_some] at h
  obtain ⟨ap, hap, am, ham, ⟨-, hend⟩, -⟩ := h
  obtain ⟨p₁, rfl, hp₁⟩ := List.dropPrefix?_eq_some_iff.mp hap
  obtain ⟨p₂, hp₂, hm⟩ := List.dropPrefix?_eq_some_iff.mp ham
  rw [beq_iff_eq] at hp₁ hm
  subst hp₁ hm
  -- the payload is the prefix, the digits, the middle literal, the token and the suffix
  have hsplit : reportPrefix ++ ap = reportPrefix ++ (ap.takeWhile Char.isDigit ++
      (reportMiddle ++ (am.takeWhile (· != '"') ++ (reportSuffix ++ ['\x00'])))) := by
    rw [← hend, List.takeWhile_append_dropWhile, ← hp₂, List.takeWhile_append_dropWhile]
  rw [hsplit]
  simp only [List.count_append]
  have hmid : reportMiddle.count '\x7d' = 2 := by decide
  have hsuf : reportSuffix.count '\x7d' = 1 := by decide
  omega

/-- `snprintf` cuts a report that does not fit before its last `}`, so at most two closing
braces reach the buffer. -/
theorem updateDocument_count_brace_le (s t : UInt32)
    (h : shadowexampleShadowReportedJsonLength < (reportText s t).length) :
    (updateDocument s t).count '\x7d' ≤ 2 := by
  rw [shadowexampleShadowReportedJsonLength_eq] at h
  have hcut : updateDocument s t = (reportText s t).take 59 ++ ['\x00'] := by
    simp only [updateDocument, snprintfBuffer, shadowexampleShadowReportedJsonLength_eq,
      Nat.add_sub_cancel, min_eq_right h.le]
    rfl
  -- the text is the document up to its last brace, then that brace
  have hsplit : reportText s t = (reportPrefix ++ Nat.toDigits 10 s.toNat ++ reportMiddle ++
      tokenText t ++ ['"']) ++ ['\x7d'] := by
    rw [reportText_eq]
    simp [reportSuffix]
  have hdoc : (reportPrefix ++ Nat.toDigits 10 s.toNat ++ reportMiddle ++ tokenText t ++
      ['"']).count '\x7d' = 2 := by
    have hs : (Nat.toDigits 10 s.toNat).count '\x7d' = 0 := List.count_eq_zero.mpr
      fun hm => ne_brace_of_isDigit ((toDigits_spec _).1 _ hm) rfl
    have ht : (tokenText t).count '\x7d' = 0 := List.count_eq_zero.mpr
      fun hm => ne_brace_of_isDigit (tokenText_isDigit t _ hm) rfl
    have hpre : reportPrefix.count '\x7d' = 0 := by decide
    have hmid : reportMiddle.count '\x7d' = 2 := by decide
    simp only [List.count_append, hs, ht, hpre, hmid]
    decide
  rw [hcut, hsplit, List.take_append_of_le_length
      (by rw [hsplit, List.length_append, List.length_singleton] at h; omega),
    List.count_append]
  have := (List.take_sublist 59 (reportPrefix ++ Nat.toDigits 10 s.toNat ++ reportMiddle ++
    tokenText t ++ ['"'])).count_le '\x7d'
  have hnul : ['\x00'].count '\x7d' = 0 := by decide
  omega

/-- What the shadow service reads from a report, for every state and every token: the
state and the token text when the printed document fits the buffer, that is when the
state has one digit and the token at most six; nothing otherwise, since `snprintf` then
cuts off the end of the document. -/
theorem readReport_updateDocument_eq (s t : UInt32) :
    readReport (updateDocument s t) =
      if s.toNat < 10 ∧ t.toNat < 10 ^ 6 then some (s.toNat, tokenText t) else none := by
  split
  next hfit => exact readReport_updateDocument s t hfit.1 hfit.2
  next hfit =>
    rcases hr : readReport (updateDocument s t) with _ | r
    · rfl
    · have hlong := lt_of_not_le (mt (reportText_fits_iff s t).mp hfit)
      have := updateDocument_count_brace_le s t hlong
      have := three_le_count_brace_of_readReport hr
      omega

end ShadowDevice

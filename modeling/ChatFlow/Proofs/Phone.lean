import Mathlib
import ChatFlow.Pattern.Reader
import ChatFlow.Phone
import ChatFlow.Proofs.Pattern.Replacing

/-!
# Phone numbers in their formats

The international format is defined by a pattern (`groupNotation`) whose groups take digits
greedily. The first group takes up to three digits, but of eight or nine digits only one or two,
since the others need seven (`matcher_groupPattern`). `groupDigits` puts spaces where replacing what the
pattern matches does (`groupDigits_eq_replaceFirst`).

No calling code begins with another one (`callingCodes_prefixFree`). So the longest code that digits
begin with is the only one (`callingCode?_eq_some_iff`).

Main statement: `formatPhone_keeps_number`.
-/

namespace ChatFlow

/-! ## Groups of digits -/

/-- Whether all characters are ASCII digits. -/
def AllDigits (digits : List Char) : Prop :=
  ∀ c ∈ digits, isAsciiDigit c = true

theorem AllDigits.mono {digits other : List Char} (h : AllDigits digits) (hsub : other ⊆ digits) :
    AllDigits other :=
  fun c hc => h c (hsub hc)

theorem AllDigits.drop {digits : List Char} (h : AllDigits digits) (n : Nat) :
    AllDigits (digits.drop n) :=
  h.mono (List.drop_subset n digits)

/-- How the pattern of the four groups is written. -/
def groupNotation : String :=
  "(\\d\x7b1,3\x7d)(\\d\x7b3\x7d)(\\d\x7b3\x7d)(\\d+)"

/-- A decimal digit. -/
def digitPattern : Pattern :=
  .set .exact false [.ofKind .digit false false]

/-- The pattern of the groups behind the first. -/
def laterGroups : Pattern :=
  .cat (.capture 2 (.repeated .greedy 3 (some 3) digitPattern)) <|
    .cat (.capture 3 (.repeated .greedy 3 (some 3) digitPattern)) <|
      .capture 4 (.repeated .greedy 1 none digitPattern)

/-- The pattern of the four groups. -/
def groupPattern : Pattern :=
  .cat (.capture 1 (.repeated .greedy 1 (some 3) digitPattern)) laterGroups

theorem readPattern_groupNotation : readPattern groupNotation = .ok groupPattern := by cbv

/-- The groups with single spaces between them. -/
def spacedGroups (group : Nat → List Char) : List Char :=
  group 1 ++ ' ' :: group 2 ++ ' ' :: group 3 ++ ' ' :: group 4

theorem isSome_decimalDigit? {c : Char} (h : isAsciiDigit c = true) :
    (decimalDigit? c).isSome = true := by
  have hrange : 48 ≤ c.toNat ∧ c.toNat ≤ 57 := by
    simpa [isAsciiDigit, Char.le_def, UInt32.le_iff_toNat_le] using h
  rw [decimalDigit?, Option.isSome_map, List.find?_isSome]
  refine ⟨0x30, List.mem_cons_self, ?_⟩
  simp only [Bool.and_eq_true, decide_eq_true_eq]
  omega

theorem takesOne_digit :
    Matcher.TakesOne (fun c => (decimalDigit? c).isSome) digitPattern.matcher := by
  intro cursor next
  simp [digitPattern, Pattern.matcher, SetItem.holds, CharKind.holds, Folding.fold]

section Groups

variable {cursor : Cursor} {next : Continuation} {index : Nat}

/-- What a group of digits tries where there are only digits. -/
theorem matcher_digits (h : AllDigits cursor.after) {least : Nat} {most : Option Nat}
    (hmost : ∀ m ∈ most, least ≤ m) :
    (Pattern.capture index (.repeated .greedy least most digitPattern)).matcher cursor next =
      (countsDown least (Matcher.turnsLeft most 0 cursor.after.length)).findSome?
        fun n => next (cursor.grouped index n) := by
  have hall : cursor.after.takeWhile (fun c => (decimalDigit? c).isSome) = cursor.after :=
    List.takeWhile_eq_self_iff.2 fun c hc => isSome_decimalDigit? (h c hc)
  rw [Pattern.matcher_capture takesOne_digit hmost, hall]

/-- A group of a number of digits. -/
theorem matcher_exactly (h : AllDigits cursor.after) (k : Nat) :
    (Pattern.capture index (.repeated .greedy k (some k) digitPattern)).matcher cursor next =
      if k ≤ cursor.after.length then next (cursor.grouped index k) else none := by
  rw [matcher_digits h fun m hm => Nat.le_of_eq (Option.mem_some.1 hm)]
  have hturns : Matcher.turnsLeft (some k) 0 cursor.after.length = min k cursor.after.length := rfl
  rw [hturns]
  split
  · next hle =>
    rw [Nat.min_eq_left hle]
    cases hnext : next (cursor.grouped index k) with
    | some found =>
      exact findSome?_countsDown (Nat.le_refl k) (Nat.le_refl k) hnext fun n hlt hle => by omega
    | none =>
      refine findSome?_countsDown_eq_none fun n hleast hmost => ?_
      rw [Nat.le_antisymm hmost hleast]
      exact hnext
  · exact findSome?_countsDown_eq_none fun n hleast hmost => by omega

/-- A group of the digits that are left. -/
theorem matcher_remaining (h : AllDigits cursor.after) :
    (Pattern.capture index (.repeated .greedy 1 none digitPattern)).matcher cursor some =
      if 1 ≤ cursor.after.length then some (cursor.grouped index cursor.after.length)
      else none := by
  rw [matcher_digits h (by simp)]
  split
  · next hle =>
    exact findSome?_countsDown hle (Nat.le_refl _) rfl fun n hlt hmost =>
      absurd hlt (Nat.not_lt_of_le hmost)
  · next hle =>
    refine findSome?_countsDown_eq_none fun n hleast hmost => ?_
    exact absurd (Nat.le_trans hleast hmost) hle

/-- The groups behind the first take three digits, three digits and the rest. -/
theorem matcher_laterGroups (h : AllDigits cursor.after) :
    laterGroups.matcher cursor some =
      if 7 ≤ cursor.after.length then
        some (((cursor.grouped 2 3).grouped 3 3).grouped 4 (cursor.after.length - 6))
      else none := by
  have hthird : AllDigits (cursor.grouped 2 3).after := h.drop 3
  have hfourth : AllDigits ((cursor.grouped 2 3).grouped 3 3).after := hthird.drop 3
  rw [laterGroups, Pattern.matcher, matcher_exactly h, Pattern.matcher, matcher_exactly hthird,
    matcher_remaining hfourth]
  simp only [Cursor.after_grouped, List.length_drop]
  by_cases hlength : 7 ≤ cursor.after.length
  · have hthree : 3 ≤ cursor.after.length := by omega
    have hsix : 3 ≤ cursor.after.length - 3 := by omega
    have hseven : 1 ≤ cursor.after.length - 3 - 3 := by omega
    rw [if_pos hthree, if_pos hsix, if_pos hseven, if_pos hlength, Nat.sub_sub]
  · rw [if_neg hlength]
    repeat' split
    · omega
    all_goals rfl

/-- **The first group takes up to three digits**, but leaves seven to the others. -/
theorem matcher_groupPattern (h : AllDigits cursor.after) :
    groupPattern.matcher cursor some =
      if 8 ≤ cursor.after.length then
        laterGroups.matcher (cursor.grouped 1 (min 3 (cursor.after.length - 7))) some
      else none := by
  have hrest (n : Nat) : AllDigits (cursor.grouped 1 n).after := h.drop n
  have hlater (n : Nat) := matcher_laterGroups (hrest n)
  rw [groupPattern, Pattern.matcher, matcher_digits h (by simp)]
  have hturns : Matcher.turnsLeft (some 3) 0 cursor.after.length = min 3 cursor.after.length := rfl
  rw [hturns]
  simp only [Cursor.after_grouped, List.length_drop] at hlater
  by_cases hlength : 8 ≤ cursor.after.length
  · have hleft : 7 ≤ cursor.after.length - min 3 (cursor.after.length - 7) := by omega
    have hfirst := hlater (min 3 (cursor.after.length - 7))
    rw [if_pos hleft] at hfirst
    rw [if_pos hlength, hfirst]
    refine findSome?_countsDown ?_ ?_ hfirst fun n hlt hmost => (hlater n).trans (if_neg ?_)
    all_goals omega
  · rw [if_neg hlength]
    refine findSome?_countsDown_eq_none fun n hleast hmost => (hlater n).trans (if_neg ?_)
    omega

end Groups

/-- Digits in four groups. -/
structure InGroups (digits : List Char) (group : Nat → List Char) : Prop where
  all : group 1 ++ group 2 ++ group 3 ++ group 4 = digits
  first : (group 1).length = min 3 (digits.length - 7)
  second : (group 2).length = 3
  third : (group 3).length = 3

/-- The first digits, then twice three, then what is left. -/
def groupOf (digits : List Char) : (index : Nat) → List Char
  | 1 => digits.take (min 3 (digits.length - 7))
  | 2 => (digits.drop (min 3 (digits.length - 7))).take 3
  | 3 => ((digits.drop (min 3 (digits.length - 7))).drop 3).take 3
  | _ => ((digits.drop (min 3 (digits.length - 7))).drop 3).drop 3

theorem inGroups_groupOf {digits : List Char} (h : 8 ≤ digits.length) :
    InGroups digits (groupOf digits) where
  all := by simp only [groupOf, List.append_assoc, List.take_append_drop]
  first := by simp only [groupOf, List.length_take]; omega
  second := by simp only [groupOf, List.length_take, List.length_drop]; omega
  third := by simp only [groupOf, List.length_take, List.length_drop]; omega

/-- Eight digits or more are put in groups. -/
theorem groupDigits_eq_spacedGroups {digits : List Char} (h : 8 ≤ digits.length) :
    groupDigits digits = spacedGroups (groupOf digits) := by
  rw [groupDigits, if_neg (Nat.not_lt_of_le h)]
  simp only [spacedGroups, groupOf, List.drop_drop]

theorem groupDigits_of_lt {digits : List Char} (h : digits.length < 8) :
    groupDigits digits = digits := if_pos h

/-- **Grouping digits** puts spaces between the groups of the pattern where it matches first. -/
theorem groupDigits_eq_replaceFirst {digits : List Char} (h : AllDigits digits) :
    groupDigits digits = groupPattern.replaceFirst spacedGroups digits := by
  by_cases hlength : 8 ≤ digits.length
  · have hstart : AllDigits (Cursor.start digits).after := h
    generalize hn : min 3 (digits.length - 7) = n
    have hlater : 7 ≤ ((Cursor.start digits).grouped 1 n).after.length := by
      show 7 ≤ (digits.drop n).length
      rw [List.length_drop]
      omega
    have hmatch := matcher_groupPattern hstart
    rw [show (Cursor.start digits).after.length = digits.length from rfl, if_pos hlength, hn,
      matcher_laterGroups (hstart.drop n), if_pos hlater] at hmatch
    rw [Pattern.replaceFirst_of_some hmatch, groupDigits_eq_spacedGroups hlength]
    have hrest : ((Cursor.start digits).grouped 1 n).after.length - 6 =
        (((digits.drop n).drop 3).drop 3).length := by
      show (digits.drop n).length - 6 = _
      simp only [List.length_drop]
      omega
    rw [hrest]
    simp [spacedGroups, groupOf, hn, Cursor.lookup_grouped_of_ne, -List.length_drop,
      -List.drop_drop]
  · refine (groupDigits_of_lt (Nat.lt_of_not_le hlength)).trans
      (Pattern.replaceFirst_of_none fun cursor hcursor => ?_).symm
    have hle := hcursor.length_le
    have hshort : ¬ 8 ≤ cursor.after.length := by omega
    rw [matcher_groupPattern (h.mono hcursor.subset), if_neg hshort]

/-! ## Digits -/

theorem allDigits_phoneDigits (phone : String) : AllDigits (phoneDigits phone) :=
  fun _ hc => (List.mem_filter.1 hc).2

/-- The digits of a text in which other characters stand between digits. -/
theorem phoneDigits_ofList (text : List Char) :
    phoneDigits (String.ofList text) = text.filter isAsciiDigit := by
  rw [phoneDigits, String.toList_ofList]

theorem AllDigits.filter {digits : List Char} (h : AllDigits digits) :
    digits.filter isAsciiDigit = digits :=
  List.filter_eq_self.2 h

/-- The groups of digits are the digits with spaces in them. -/
theorem filter_groupDigits {digits : List Char} (h : AllDigits digits) :
    (groupDigits digits).filter isAsciiDigit = digits := by
  by_cases hlength : 8 ≤ digits.length
  · have hgroups := (inGroups_groupOf hlength).all
    have hspace : isAsciiDigit ' ' = false := by decide
    rw [groupDigits_eq_spacedGroups hlength]
    calc (spacedGroups (groupOf digits)).filter isAsciiDigit
      _ = (groupOf digits 1 ++ groupOf digits 2 ++ groupOf digits 3 ++ groupOf digits 4).filter
            isAsciiDigit := by
        simp only [spacedGroups, List.filter_append, List.filter_cons, hspace]
        simp
      _ = digits := by rw [hgroups, h.filter]
  · rw [groupDigits_of_lt (Nat.lt_of_not_le hlength), h.filter]

/-! ## Calling codes -/

/-- No calling code begins with another one. -/
theorem callingCodes_prefixFree : ∀ entry ∈ callingCodes, ∀ other ∈ callingCodes,
    entry.1.toList <+: other.1.toList → entry = other := by
  decide +kernel

/-- Calling codes have one, two or three digits. -/
theorem length_mem_of_mem_callingCodes :
    ∀ entry ∈ callingCodes, entry.1.toList.length ∈ [3, 2, 1] := by
  decide +kernel

section Codes

variable {digits : List Char} {entry other : String × String}

/-- Digits begin with one calling code at most. -/
theorem eq_of_prefix (hentry : entry ∈ callingCodes) (hother : other ∈ callingCodes)
    (h : entry.1.toList <+: digits) (h' : other.1.toList <+: digits) : entry = other := by
  rcases List.prefix_or_prefix_of_prefix h h' with hpre | hpre
  · exact callingCodes_prefixFree entry hentry other hother hpre
  · exact (callingCodes_prefixFree other hother entry hentry hpre).symm

/-- A calling code that was found at some length is one that the digits begin with. -/
theorem codeOfLength?_some {length : Nat} (h : codeOfLength? digits length = some entry) :
    entry ∈ callingCodes ∧ entry.1.toList <+: digits := by
  have htaken := List.find?_some h
  refine ⟨List.mem_of_find?_eq_some h, ?_⟩
  rw [beq_iff_eq.1 htaken, String.toList_ofList]
  exact List.take_prefix length digits

/-- A calling code that digits begin with is found at its length. -/
theorem codeOfLength?_of_begins (hentry : entry ∈ callingCodes) (h : entry.1.toList <+: digits) :
    codeOfLength? digits entry.1.toList.length = some entry := by
  have hcode : entry.1 = String.ofList (digits.take entry.1.toList.length) := by
    rw [← List.prefix_iff_eq_take.1 h, String.ofList_toList]
  have hsome : (codeOfLength? digits entry.1.toList.length).isSome = true :=
    List.find?_isSome.2 ⟨entry, hentry, beq_iff_eq.2 hcode⟩
  obtain ⟨other, hother⟩ := Option.isSome_iff_exists.1 hsome
  obtain ⟨hmem, hpre⟩ := codeOfLength?_some hother
  rw [hother, eq_of_prefix hmem hentry hpre h]

theorem callingCode?_some (h : callingCode? digits = some entry) :
    entry ∈ callingCodes ∧ entry.1.toList <+: digits := by
  obtain ⟨length, -, hlength⟩ := List.exists_of_findSome?_eq_some h
  exact codeOfLength?_some hlength

/-- **The calling code of digits** is the one that they begin with. -/
theorem callingCode?_eq_some_iff :
    callingCode? digits = some entry ↔ entry ∈ callingCodes ∧ entry.1.toList <+: digits := by
  refine ⟨callingCode?_some, fun ⟨hentry, hpre⟩ => ?_⟩
  have hsome : (callingCode? digits).isSome = true := by
    refine List.findSome?_isSome_iff.2 ⟨_, length_mem_of_mem_callingCodes entry hentry, ?_⟩
    rw [codeOfLength?_of_begins hentry hpre]
    rfl
  obtain ⟨other, hother⟩ := Option.isSome_iff_exists.1 hsome
  obtain ⟨hmem, hpre'⟩ := callingCode?_some hother
  rw [hother, eq_of_prefix hmem hentry hpre' hpre]

theorem callingCode?_eq_none_iff :
    callingCode? digits = none ↔ ∀ entry ∈ callingCodes, ¬ entry.1.toList <+: digits := by
  rw [Option.eq_none_iff_forall_ne_some]
  constructor
  · exact fun h entry hentry hpre => h entry (callingCode?_eq_some_iff.2 ⟨hentry, hpre⟩)
  · intro h entry hentry
    obtain ⟨hmem, hpre⟩ := callingCode?_some hentry
    exact h entry hmem hpre

end Codes

/-! ## Formats -/

section Formats

variable {format : PhoneFormat} {phone : String}

/-- A format that does not leave the calling code out keeps the digits. -/
theorem phoneDigits_formatPhone (h : format ≠ .localDigits) (phone : String) :
    phoneDigits (formatPhone format phone) = phoneDigits phone := by
  have hdigits := allDigits_phoneDigits phone
  have hplus (text : List Char) : ('+' :: text).filter isAsciiDigit = text.filter isAsciiDigit :=
    List.filter_cons_of_neg (by decide)
  unfold formatPhone
  rw [phoneDigits_ofList]
  cases format with
  | e164 => exact (hplus _).trans hdigits.filter
  | localDigits => exact absurd rfl h
  | international => exact (hplus _).trans (filter_groupDigits hdigits)
  | bare => exact hdigits.filter

/-- A format and the country depend on the digits alone. -/
theorem formatPhone_congr {other : String} (h : phoneDigits phone = phoneDigits other)
    (format : PhoneFormat) : formatPhone format phone = formatPhone format other := by
  unfold formatPhone
  rw [h]

theorem phoneCountry_congr {other : String} (h : phoneDigits phone = phoneDigits other) :
    phoneCountry phone = phoneCountry other := by
  rw [phoneCountry, phoneCountry, h]

end Formats

/-- The digits of a phone number in the international format, given as a text. -/
structure IsInternational (digits : List Char) (text : String) : Prop where
  /-- Eight digits or more are in groups with single spaces between them. -/
  grouped : 8 ≤ digits.length → ∃ group, InGroups digits group ∧
    text = String.ofList ('+' :: spacedGroups group)
  /-- Fewer digits stay together. -/
  together : digits.length < 8 → text = String.ofList ('+' :: digits)
  /-- The groups are those of the pattern. -/
  matched : ∃ pattern, readPattern groupNotation = .ok pattern ∧
    text = String.ofList ('+' :: pattern.replaceFirst spacedGroups digits)

theorem isInternational_formatPhone (phone : String) :
    IsInternational (phoneDigits phone) (formatPhone .international phone) where
  grouped h := ⟨_, inGroups_groupOf h, congrArg (fun text => String.ofList ('+' :: text))
    (groupDigits_eq_spacedGroups h)⟩
  together h := congrArg (fun text => String.ofList ('+' :: text)) (groupDigits_of_lt h)
  matched := ⟨groupPattern, readPattern_groupNotation,
    congrArg (fun text => String.ofList ('+' :: text))
      (groupDigits_eq_replaceFirst (allDigits_phoneDigits phone))⟩

/-- The country of digits, and what is left of them without the calling code. -/
inductive SplitsCode (digits : List Char) : (country rest : String) → Prop
  /-- The digits begin with no calling code that is known. -/
  | unknown (hnone : ∀ entry ∈ callingCodes, ¬ entry.1.toList <+: digits) :
    SplitsCode digits "Unknown" (String.ofList digits)
  /-- The digits begin with one calling code. -/
  | known {code country rest : String} (hmem : (code, country) ∈ callingCodes)
    (hone : ∀ entry ∈ callingCodes, entry.1.toList <+: digits ↔ entry = (code, country))
    (hrest : code ++ rest = String.ofList digits) : SplitsCode digits country rest

theorem splitsCode_formatPhone (phone : String) :
    SplitsCode (phoneDigits phone) (phoneCountry phone) (formatPhone .localDigits phone) := by
  unfold phoneCountry formatPhone
  dsimp only
  cases hcode : callingCode? (phoneDigits phone) with
  | none => exact .unknown (callingCode?_eq_none_iff.1 hcode)
  | some entry =>
    obtain ⟨hmem, hpre⟩ := callingCode?_some hcode
    refine .known hmem (fun other hother => ⟨fun h => ?_, fun h => h ▸ hpre⟩) ?_
    · exact eq_of_prefix hother hmem h hpre
    · have hrest : entry.1.toList ++ (phoneDigits phone).drop entry.1.length =
          phoneDigits phone := by
        rw [← String.length_toList]
        exact List.prefix_iff_eq_append.1 hpre
      rw [← String.toList_inj, String.toList_append, String.toList_ofList, String.toList_ofList]
      exact hrest

/-- **Formatting keeps the number.** The formats other than the local one have the digits and the
country of the number, and writing it in such a format again changes nothing. The international
format puts single spaces between up to three digits, three, three and the rest, leaving seven
digits to the last three groups, as its pattern does. The local format leaves out the one calling
code that the digits begin with, and the country is the one of this code. -/
theorem formatPhone_keeps_number (phone : String) :
    (∀ format, format ≠ .localDigits →
      phoneDigits (formatPhone format phone) = phoneDigits phone ∧
      formatPhone format (formatPhone format phone) = formatPhone format phone ∧
      phoneCountry (formatPhone format phone) = phoneCountry phone) ∧
    IsInternational (phoneDigits phone) (formatPhone .international phone) ∧
    SplitsCode (phoneDigits phone) (phoneCountry phone) (formatPhone .localDigits phone) := by
  refine ⟨fun format hformat => ?_, isInternational_formatPhone phone, splitsCode_formatPhone phone⟩
  have hdigits := phoneDigits_formatPhone hformat phone
  exact ⟨hdigits, formatPhone_congr hdigits format, phoneCountry_congr hdigits⟩

end ChatFlow

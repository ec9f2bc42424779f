import ChatFlow.Proofs.Pattern.Repetition

/-!
# Replacing what a pattern takes

A greedy repetition of single characters tries the rows of such characters from the longest one
down, and takes the first one after which the rest of the pattern matches
(`TakesOne.repeated_greedy`). So does a group around it (`matcher_capture`). With this it is settled
what groups in a row take, also where one has to leave characters to those behind it.

`Pattern.replaceFirst` replaces the first part of a text that a pattern matches by what is made of
its groups.
-/

namespace ChatFlow

/-! ## Counting down -/

/-- The numbers from the greatest one down to the least. -/
def countsDown (least : Nat) : (most : Nat) → List Nat
  | 0 => if least = 0 then [0] else []
  | most + 1 => if least ≤ most + 1 then (most + 1) :: countsDown least most else []

/-- Up to one number more, all are greater by one, and zero comes last if it is the least. -/
theorem countsDown_succ (least most : Nat) :
    countsDown least (most + 1) =
      (countsDown (least - 1) most).map (· + 1) ++ if least = 0 then [0] else [] := by
  induction most with
  | zero =>
    match least with
    | 0 => rfl
    | 1 => rfl
    | least + 2 => simp [countsDown]
  | succ most ih =>
    rw [countsDown, ih, countsDown]
    by_cases hle : least ≤ most + 1 + 1
    · rw [if_pos hle, if_pos (by omega : least - 1 ≤ most + 1), List.map_cons, List.cons_append]
    · rw [if_neg hle, if_neg (by omega : ¬ least - 1 ≤ most + 1), if_neg (by omega)]
      rfl

section Search

variable {α : Type} {f : Nat → Option α} {least most k : Nat}

theorem findSome?_countsDown_eq_none (h : ∀ n, least ≤ n → n ≤ most → f n = none) :
    (countsDown least most).findSome? f = none := by
  induction most with
  | zero =>
    rw [countsDown]
    split
    · next hzero => simp [h 0 (Nat.le_of_eq hzero) (Nat.le_refl 0)]
    · rfl
  | succ most ih =>
    rw [countsDown]
    split
    · next hle =>
      rw [List.findSome?_cons, h _ hle (Nat.le_refl _)]
      exact ih fun n hn hmost => h n hn (Nat.le_succ_of_le hmost)
    · rfl

/-- Counting down, the first number that leads on is the greatest one that does. -/
theorem findSome?_countsDown {found : α} (hleast : least ≤ k) (hmost : k ≤ most)
    (hk : f k = some found) (hgreater : ∀ n, k < n → n ≤ most → f n = none) :
    (countsDown least most).findSome? f = some found := by
  induction most with
  | zero =>
    obtain rfl := Nat.le_zero.1 hmost
    obtain rfl := Nat.le_zero.1 hleast
    simp [countsDown, hk]
  | succ most ih =>
    rw [countsDown, if_pos (Nat.le_trans hleast hmost), List.findSome?_cons]
    rcases Nat.eq_or_lt_of_le hmost with rfl | hlt
    · rw [hk]
    · rw [hgreater _ hlt (Nat.le_refl _)]
      exact ih (Nat.le_of_lt_succ hlt) fun n hn hle => hgreater n hn (Nat.le_succ_of_le hle)

end Search

/-! ## Rows of characters -/

theorem exists_of_takeWhile_eq_cons {test : Char → Bool} {text row : List Char} {c : Char}
    (h : text.takeWhile test = c :: row) :
    ∃ rest, text = c :: rest ∧ test c = true ∧ rest.takeWhile test = row := by
  cases text with
  | nil => cases h
  | cons d rest =>
    by_cases hd : test d = true
    · rw [List.takeWhile_cons_of_pos hd] at h
      obtain ⟨rfl, hrest⟩ := List.cons.inj h
      exact ⟨rest, rfl, hd, hrest⟩
    · rw [List.takeWhile_cons_of_neg hd] at h
      cases h

namespace Cursor

variable {cursor : Cursor}

/-- The cursor after the next characters. -/
def took (cursor : Cursor) (n : Nat) : Cursor :=
  cursor.past (cursor.after.take n) (cursor.after.drop n)

@[simp] theorem took_zero (cursor : Cursor) : cursor.took 0 = cursor := rfl

@[simp] theorem after_start (text : List Char) : (start text).after = text := rfl

@[simp] theorem after_took (cursor : Cursor) (n : Nat) :
    (cursor.took n).after = cursor.after.drop n := rfl

theorem took_succ {c : Char} {rest : List Char} (hafter : cursor.after = c :: rest) (n : Nat) :
    cursor.took (n + 1) = (cursor.past [c] rest).took n := by
  rw [took, took, hafter, after_past, past_past]
  rfl

/-- The cursor after a group has taken the next characters. -/
def grouped (cursor : Cursor) (index n : Nat) : Cursor :=
  { cursor.took n with
    groups := (index, cursor.after.take n) :: cursor.groups.filter (·.1 != index) }

@[simp] theorem after_grouped (cursor : Cursor) (index n : Nat) :
    (cursor.grouped index n).after = cursor.after.drop n := rfl

@[simp] theorem lookup_grouped_self (cursor : Cursor) (index n : Nat) :
    (cursor.grouped index n).groups.lookup index = some (cursor.after.take n) := by
  rw [grouped, List.lookup_cons_self]

/-- What a group takes does not change what another one has taken. -/
theorem lookup_grouped_of_ne {index other : Nat} (h : other ≠ index) (cursor : Cursor) (n : Nat) :
    (cursor.grouped index n).groups.lookup other = cursor.groups.lookup other := by
  have hkept (groups : List (Nat × List Char)) :
      (groups.filter (·.1 != index)).lookup other = groups.lookup other := by
    induction groups with
    | nil => rfl
    | cons entry rest ih =>
      by_cases hkey : entry.1 = index
      · rw [List.filter_cons_of_neg (by simpa using hkey), ih, List.lookup_cons,
          beq_eq_false_iff_ne.2 (hkey ▸ h)]
      · rw [List.filter_cons_of_pos (by simpa using hkey), List.lookup_cons, List.lookup_cons, ih]
  rw [grouped, List.lookup_cons, beq_eq_false_iff_ne.2 h]
  exact hkept cursor.groups

end Cursor

namespace Matcher

variable {test : Char → Bool} {body : Matcher} {next : Continuation} {least : Nat}
  {most : Option Nat}

/-- How many turns more there can be: not more than characters, and not more than are left of the
greatest number. -/
def turnsLeft (most : Option Nat) (count characters : Nat) : Nat :=
  most.elim characters fun m => min (m - count) characters

theorem turnsLeft_zero (most : Option Nat) (count : Nat) : turnsLeft most count 0 = 0 := by
  cases most <;> simp [turnsLeft]

theorem turnsLeft_succ {count : Nat} (h : most.all (count < ·) = true) (characters : Nat) :
    turnsLeft most count (characters + 1) = turnsLeft most (count + 1) characters + 1 := by
  cases most with
  | none => rfl
  | some m =>
    have hlt : count < m := by simpa using h
    simp only [turnsLeft, Option.elim_some]
    omega

theorem turnsLeft_of_all_false {count : Nat} (h : most.all (count < ·) = false)
    (characters : Nat) : turnsLeft most count characters = 0 := by
  cases most with
  | none => cases h
  | some m =>
    have hle : ¬ count < m := by simpa using h
    simp only [turnsLeft, Option.elim_some]
    omega

/-- The numbers of turns that a loop can have left: with a further turn there is one more of each,
and there may be none if there have been enough. -/
theorem countsDown_turnsLeft (hmost : ∀ m ∈ most, least ≤ m) (count characters : Nat) :
    countsDown (least - count) (turnsLeft most count (characters + 1)) =
      (if most.all (count < ·) then
        (countsDown (least - (count + 1)) (turnsLeft most (count + 1) characters)).map (· + 1)
      else []) ++ if count < least then [] else [0] := by
  have hnone : least - count = 0 ↔ ¬ count < least := by omega
  cases hall : most.all (count < ·) with
  | true =>
    rw [turnsLeft_succ hall, countsDown_succ, Nat.sub_sub, if_pos rfl]
    simp only [hnone, ite_not]
  | false =>
    have henough : ¬ count < least := by
      cases most with
      | none => cases hall
      | some m =>
        have hle := hmost m rfl
        have hcount : ¬ count < m := by simpa using hall
        omega
    rw [turnsLeft_of_all_false hall, countsDown, if_pos (hnone.2 henough), if_neg henough]
    rfl

theorem TakesOne.eq_of_pos (h : TakesOne test body) {cursor : Cursor} {c : Char}
    {rest : List Char} (hafter : cursor.after = c :: rest) (hc : test c = true) :
    body cursor next = next (cursor.past [c] rest) := by
  rw [h, Cursor.step?_eq_some_iff.2 ⟨c, rest, hafter, hc, rfl⟩, Option.bind_some]

theorem TakesOne.eq_none (h : TakesOne test body) {cursor : Cursor}
    (hno : cursor.after.takeWhile test = []) : body cursor next = none := by
  rw [Option.eq_none_iff_forall_ne_some]
  intro found hfound
  obtain ⟨c, rest, hafter, hc, -⟩ := h.eq_some_iff.1 hfound
  rw [hafter, List.takeWhile_cons_of_pos hc] at hno
  cases hno

/-- What a greedy repetition does from a turn on. -/
theorem TakesOne.loop_greedy (h : TakesOne test body) (hmost : ∀ m ∈ most, least ≤ m)
    {turns count : Nat} {last : Option Nat} {cursor : Cursor}
    (hturns : (cursor.after.takeWhile test).length < turns)
    (hlast : ∀ place, last = some place → place < cursor.position) :
    Matcher.loop body false least most next turns count last cursor =
      (countsDown (least - count)
        (turnsLeft most count (cursor.after.takeWhile test).length)).findSome?
          fun n => next (cursor.took n) := by
  induction turns generalizing count last cursor with
  | zero => cases hturns
  | succ turns ih =>
    have hne : (last != some cursor.position) = true :=
      bne_iff_ne.2 fun hplace => Nat.lt_irrefl _ (hlast _ hplace)
    rw [Matcher.loop, hne, Bool.and_true]
    cases hrow : cursor.after.takeWhile test with
    | nil =>
      -- there is no further turn
      simp only [h.eq_none hrow, List.length_nil, turnsLeft_zero, countsDown]
      by_cases hcount : count < least
      · have hleft : least - count ≠ 0 := by omega
        rw [if_pos hcount, if_neg hleft]
        rfl
      · have hleft : least - count = 0 := by omega
        rw [if_neg hcount, if_pos hleft]
        simp
    | cons c row =>
      obtain ⟨rest, hafter, hc, rfl⟩ := exists_of_takeWhile_eq_cons hrow
      have hturn (last : Option Nat)
          (hlast : ∀ place, last = some place → place ≤ cursor.position) :
          body cursor (Matcher.loop body false least most next turns (count + 1) last) =
            ((countsDown (least - (count + 1)) (turnsLeft most (count + 1)
              (rest.takeWhile test).length)).map (· + 1)).findSome? fun n =>
                next (cursor.took n) := by
        have hshorter : (rest.takeWhile test).length < turns := by
          rw [hrow, List.length_cons] at hturns
          exact Nat.lt_of_succ_lt_succ hturns
        rw [h.eq_of_pos hafter hc, ih hshorter fun place hplace =>
          Nat.lt_succ_of_le (hlast place hplace), List.findSome?_map]
        simp only [Function.comp_def, Cursor.took_succ hafter, Cursor.after_past]
      rw [hturn _ fun place hplace => Nat.le_of_lt (hlast place hplace),
        hturn (some cursor.position) fun place hplace => Nat.le_of_eq (Option.some.inj hplace).symm,
        List.length_cons, countsDown_turnsLeft hmost, List.findSome?_append]
      by_cases hcount : count < least
      · have hall : most.all (count < ·) = true :=
          (Option.all_eq_true _ _).2 fun m hm =>
            decide_eq_true (Nat.lt_of_lt_of_le hcount (hmost m hm))
        simp [hcount, hall]
      · cases hall : most.all (count < ·) <;> simp [hcount]

/-- **A greedy repetition takes the longest row** after which what follows matches. -/
theorem TakesOne.repeated_greedy (h : TakesOne test body) (hmost : ∀ m ∈ most, least ≤ m)
    (cursor : Cursor) :
    Matcher.repeated body .greedy least most cursor next =
      (countsDown least (turnsLeft most 0 (cursor.after.takeWhile test).length)).findSome?
        fun n => next (cursor.took n) := by
  have hturns : (cursor.after.takeWhile test).length < least + cursor.after.length + 2 := by
    have hle := (List.takeWhile_prefix (l := cursor.after) test).length_le
    omega
  exact h.loop_greedy hmost hturns fun _ hplace => nomatch hplace

end Matcher

/-- A group around a greedy repetition takes the same row. -/
theorem Pattern.matcher_capture {test : Char → Bool} {body : Pattern} {index least : Nat}
    {most : Option Nat} (h : Matcher.TakesOne test body.matcher) (hmost : ∀ m ∈ most, least ≤ m)
    (cursor : Cursor) (next : Continuation) :
    (Pattern.capture index (.repeated .greedy least most body)).matcher cursor next =
      (countsDown least (Matcher.turnsLeft most 0 (cursor.after.takeWhile test).length)).findSome?
        fun n => next (cursor.grouped index n) := by
  rw [matcher, matcher, h.repeated_greedy hmost]
  refine congrArg (List.findSome? · _) (funext fun n => congrArg next ?_)
  have hposition : (cursor.took n).position - cursor.position = min n cursor.after.length := by
    simp [Cursor.took]
  rw [hposition, ← List.take_eq_take_min]
  rfl

/-! ## Replacing -/

namespace Pattern

/-- The first place from which on the pattern matches, given by the characters passed before it, and
the cursor after the match. -/
def findFrom (pattern : Pattern) (before : List Char) :
    List Char → (position : Nat) → Option (List Char × Cursor)
  | [], position => (pattern.matcher ⟨before, [], position, []⟩ some).map (before, ·)
  | c :: rest, position =>
    match pattern.matcher ⟨before, c :: rest, position, []⟩ some with
    | some found => some (before, found)
    | none => pattern.findFrom (c :: before) rest (position + 1)

/-- A place is found where the pattern matches, if there is one. -/
theorem isSome_findFrom (pattern : Pattern) (before text : List Char) (position : Nat) :
    (pattern.findFrom before text position).isSome = pattern.foundFrom before text position := by
  induction text generalizing before position with
  | nil => rw [findFrom, foundFrom, Option.isSome_map]
  | cons c rest ih =>
    rw [findFrom, foundFrom]
    cases pattern.matcher ⟨before, c :: rest, position, []⟩ some with
    | some found => rfl
    | none => exact ih _ _

/-- Replaces the first part of a text that the pattern matches by what is made of its groups. -/
def replaceFirst (pattern : Pattern) (replacement : (Nat → List Char) → List Char)
    (text : List Char) : List Char :=
  match pattern.findFrom [] text 0 with
  | some (before, found) =>
    before.reverse ++ replacement (fun index => (found.groups.lookup index).getD []) ++ found.after
  | none => text

/-- Where a pattern matches from the start on, the start is replaced. -/
theorem replaceFirst_of_some {pattern : Pattern} {replacement : (Nat → List Char) → List Char}
    {text : List Char} {found : Cursor}
    (h : pattern.matcher (Cursor.start text) some = some found) :
    pattern.replaceFirst replacement text =
      replacement (fun index => (found.groups.lookup index).getD []) ++ found.after := by
  have hfound : pattern.findFrom [] text 0 = some ([], found) := by
    cases text with
    | nil =>
      rw [findFrom]
      exact congrArg (Option.map _) h
    | cons c rest =>
      rw [findFrom, show pattern.matcher ⟨[], c :: rest, 0, []⟩ some = some found from h]
  rw [replaceFirst, hfound]
  rfl

/-- Where a pattern matches from nowhere on, the text stays as it is. -/
theorem replaceFirst_of_none {pattern : Pattern} {replacement : (Nat → List Char) → List Char}
    {text : List Char} (h : ∀ cursor : Cursor, cursor.after <:+ text →
      pattern.matcher cursor some = none) : pattern.replaceFirst replacement text = text := by
  have hnone : ∀ rest before position, rest <:+ text →
      pattern.findFrom before rest position = none := by
    intro rest
    induction rest with
    | nil =>
      intro before position hrest
      rw [findFrom, h _ hrest, Option.map_none]
    | cons c rest ih =>
      intro before position hrest
      rw [findFrom, h _ hrest]
      exact ih _ _ ((List.suffix_cons c rest).trans hrest)
  rw [replaceFirst, hnone text [] 0 (List.suffix_refl text)]

end Pattern

end ChatFlow

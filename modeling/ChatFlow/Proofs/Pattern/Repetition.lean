import ChatFlow.Pattern.Match

/-!
# Repetitions of single characters

What a repetition of a pattern matches that takes one character, whatever has to match after it: a
row of such characters. If the repetition succeeds then with some row (`Matcher.repeated_some`), and
if there is a row with which it can succeed then it does (`Matcher.repeated_isSome`). Which row is
taken first depends on the greed of the repetition and is not settled here.
-/

namespace ChatFlow

/-- The cursor after some characters, when others are left. -/
def Cursor.past (cursor : Cursor) (taken rest : List Char) : Cursor :=
  ⟨taken.reverse ++ cursor.before, rest, cursor.position + taken.length, cursor.groups⟩

namespace Cursor

variable {cursor : Cursor}

@[simp] theorem after_past (taken rest : List Char) : (cursor.past taken rest).after = rest := rfl

@[simp] theorem position_past (taken rest : List Char) :
    (cursor.past taken rest).position = cursor.position + taken.length := rfl

theorem past_past (taken more rest' rest : List Char) :
    (cursor.past taken rest').past more rest = cursor.past (taken ++ more) rest := by
  simp [past, Nat.add_assoc]

/-- A step is made over one character that passes the test. -/
theorem step?_eq_some_iff {test : Char → Bool} {next : Cursor} :
    cursor.step? test = some next ↔
      ∃ c rest, cursor.after = c :: rest ∧ test c = true ∧ next = cursor.past [c] rest := by
  rw [step?]
  split
  · next c rest hafter =>
    split
    · next hc =>
      constructor
      · intro h
        cases h
        exact ⟨c, rest, hafter, hc, rfl⟩
      · rintro ⟨d, rest', hafter', -, rfl⟩
        cases hafter.symm.trans hafter'
        rfl
    · next hc =>
      constructor
      · intro h; cases h
      · rintro ⟨d, rest', hafter', hd, -⟩
        cases hafter.symm.trans hafter'
        exact absurd hd hc
  · next hafter =>
    constructor
    · intro h; cases h
    · rintro ⟨d, rest', hafter', -⟩
      cases hafter.symm.trans hafter'

end Cursor

namespace Matcher

/-- Whether a matcher takes one character that passes a test. -/
def TakesOne (test : Char → Bool) (body : Matcher) : Prop :=
  ∀ cursor next, body cursor next = (cursor.step? test).bind next

variable {test : Char → Bool} {body : Matcher} {next : Continuation} {least : Nat}

/-- What such a matcher takes. -/
theorem TakesOne.eq_some_iff (h : TakesOne test body) {cursor found : Cursor} :
    body cursor next = some found ↔
      ∃ c rest, cursor.after = c :: rest ∧ test c = true ∧
        next (cursor.past [c] rest) = some found := by
  rw [h, Option.bind_eq_some_iff]
  constructor
  · rintro ⟨on, hon, hnext⟩
    obtain ⟨c, rest, hafter, hc, rfl⟩ := Cursor.step?_eq_some_iff.1 hon
    exact ⟨c, rest, hafter, hc, hnext⟩
  · rintro ⟨c, rest, hafter, hc, hnext⟩
    exact ⟨_, Cursor.step?_eq_some_iff.2 ⟨c, rest, hafter, hc, rfl⟩, hnext⟩

/-- Such a matcher succeeds if what follows does after one character. -/
theorem TakesOne.isSome (h : TakesOne test body) {cursor : Cursor} {c : Char} {rest : List Char}
    (hafter : cursor.after = c :: rest) (hc : test c = true)
    (hnext : (next (cursor.past [c] rest)).isSome = true) : (body cursor next).isSome = true := by
  obtain ⟨found, hfound⟩ := Option.isSome_iff_exists.1 hnext
  rw [h.eq_some_iff.2 ⟨c, rest, hafter, hc, hfound⟩]
  rfl

/-- Whether what follows leads on, after at least a number of characters that pass the test. -/
def RowLeads (test : Char → Bool) (least : Nat) (next : Continuation) (cursor found : Cursor) :
    Prop :=
  ∃ taken rest, cursor.after = taken ++ rest ∧ (∀ c ∈ taken, test c = true) ∧
    least ≤ taken.length ∧ next (cursor.past taken rest) = some found

theorem RowLeads.nil {cursor found : Cursor} (h : next cursor = some found) :
    RowLeads test 0 next cursor found :=
  ⟨[], cursor.after, rfl, fun _ hc => absurd hc List.not_mem_nil, Nat.zero_le _, h⟩

theorem RowLeads.cons {cursor found : Cursor} {c : Char} {rest : List Char}
    (hafter : cursor.after = c :: rest) (hc : test c = true)
    (h : RowLeads test (least - 1) next (cursor.past [c] rest) found) :
    RowLeads test least next cursor found := by
  obtain ⟨taken, rest', hrest, htaken, hleast, hnext⟩ := h
  refine ⟨c :: taken, rest', ?_, List.forall_mem_cons.2 ⟨hc, htaken⟩, ?_, ?_⟩
  · rw [hafter, List.cons_append]
    exact congrArg (c :: ·) hrest
  · rw [List.length_cons]; omega
  · rw [Cursor.past_past] at hnext
    exact hnext

/-- What a repetition without a greatest number does at a place: the turns that are required, then
one more turn or what follows in the order of its greed, unless no turn has moved on. -/
theorem loop_succ (body : Matcher) (lazily : Bool) (least : Nat) (next : Continuation)
    (turns count : Nat) (last : Option Nat) (cursor : Cursor) :
    Matcher.loop body lazily least none next (turns + 1) count last cursor =
      (let again (last : Option Nat) :=
        body cursor (Matcher.loop body lazily least none next turns (count + 1) last)
      if count < least then again last
      else if last = some cursor.position then next cursor
      else if lazily then (next cursor).or (again (some cursor.position))
      else (again (some cursor.position)).or (next cursor)) := by
  rw [Matcher.loop]
  by_cases hlast : last = some cursor.position
  · simp [hlast]
  · simp [hlast, Option.orElse_eq_or]

/-- If a repetition succeeds, then with some row of characters. -/
theorem loop_some (h : TakesOne test body) {lazily : Bool} {turns count : Nat} {last : Option Nat}
    {cursor found : Cursor}
    (hloop : Matcher.loop body lazily least none next turns count last cursor = some found) :
    RowLeads test (least - count) next cursor found := by
  induction turns generalizing count last cursor with
  | zero => cases hloop
  | succ turns ih =>
    -- one more turn of the body, and a row after it
    have hturn {last : Option Nat}
        (hbody : body cursor (Matcher.loop body lazily least none next turns (count + 1) last) =
          some found) : RowLeads test (least - count) next cursor found := by
      obtain ⟨c, rest, hafter, hc, hmore⟩ := h.eq_some_iff.1 hbody
      refine .cons hafter hc ?_
      rw [Nat.sub_sub]
      exact ih hmore
    have hstop (hcount : ¬ count < least) (hnext : next cursor = some found) :
        RowLeads test (least - count) next cursor found := by
      rw [Nat.sub_eq_zero_of_le (Nat.le_of_not_lt hcount)]
      exact .nil hnext
    rw [loop_succ] at hloop
    dsimp only at hloop
    split at hloop
    · exact hturn hloop
    · next hcount =>
      split at hloop
      · exact hstop hcount hloop
      · split at hloop
        · rcases Option.or_eq_some_iff.1 hloop with hnext | ⟨-, hbody⟩
          · exact hstop hcount hnext
          · exact hturn hbody
        · rcases Option.or_eq_some_iff.1 hloop with hbody | ⟨-, hnext⟩
          · exact hturn hbody
          · exact hstop hcount hnext

/-- If there is a row of characters with which a repetition can succeed, then it does. -/
theorem loop_isSome (h : TakesOne test body) {lazily : Bool} {turns count : Nat}
    {last : Option Nat} {cursor found : Cursor}
    (hrow : ∃ taken rest, cursor.after = taken ++ rest ∧ (∀ c ∈ taken, test c = true) ∧
      least ≤ count + taken.length ∧ next (cursor.past taken rest) = some found ∧
      taken.length < turns)
    (hlast : ∀ place, last = some place → place < cursor.position) :
    (Matcher.loop body lazily least none next turns count last cursor).isSome = true := by
  obtain ⟨taken, rest, hafter, htaken, hleast, hnext, hturns⟩ := hrow
  induction taken generalizing turns count last cursor with
  | nil =>
    have hstop : next cursor = some found := by
      rw [List.nil_append] at hafter
      rw [← hafter] at hnext
      exact hnext
    obtain ⟨turns, rfl⟩ := Nat.exists_eq_succ_of_ne_zero (Nat.ne_of_gt hturns)
    have hcount : ¬ count < least := Nat.not_lt_of_le hleast
    rw [Nat.succ_eq_add_one, loop_succ]
    simp only [if_neg hcount, hstop]
    repeat' split
    all_goals simp
  | cons c taken ih =>
    obtain ⟨turns, rfl⟩ := Nat.exists_eq_succ_of_ne_zero (Nat.ne_of_gt (Nat.zero_lt_of_lt hturns))
    obtain ⟨hc, htaken⟩ := List.forall_mem_cons.1 htaken
    rw [List.length_cons] at hleast hturns
    have hbody {last : Option Nat} (hlast : ∀ place, last = some place → place ≤ cursor.position) :
        (body cursor (Matcher.loop body lazily least none next turns (count + 1) last)).isSome =
          true := by
      have hplace : ∀ place, last = some place →
          place < (cursor.past [c] (taken ++ rest)).position :=
        fun place hplace => Nat.lt_succ_of_le (hlast place hplace)
      have hnext : next ((cursor.past [c] (taken ++ rest)).past taken rest) = some found := by
        rw [Cursor.past_past]
        exact hnext
      have hcount : least ≤ count + 1 + taken.length := by omega
      obtain ⟨found', hfound⟩ := Option.isSome_iff_exists.1
        (ih hplace rfl htaken hcount hnext (Nat.lt_of_succ_lt_succ hturns))
      rw [h.eq_some_iff.2 ⟨c, taken ++ rest, hafter, hc, hfound⟩]
      rfl
    have hne : last ≠ some cursor.position := fun hplace => Nat.lt_irrefl _ (hlast _ hplace)
    rw [Nat.succ_eq_add_one, loop_succ]
    simp only [if_neg hne]
    split
    · exact hbody fun place hplace => Nat.le_of_lt (hlast place hplace)
    · have hagain := hbody fun place (hplace : some cursor.position = some place) =>
        Nat.le_of_eq (Option.some.inj hplace).symm
      split
      · rw [Option.isSome_or, hagain, Bool.or_true]
      · rw [Option.isSome_or, hagain, Bool.true_or]

variable {greed : Greed}

/-- **If a repetition succeeds, then with some row of characters.** -/
theorem repeated_some (h : TakesOne test body) (hg : greed ≠ .possessive) {cursor found : Cursor}
    (hfound : Matcher.repeated body greed least none cursor next = some found) :
    RowLeads test least next cursor found := by
  cases greed with
  | greedy | lazily => exact loop_some h hfound
  | possessive => exact absurd rfl hg

/-- **If there is a row of characters with which a repetition can succeed, then it does.** -/
theorem repeated_isSome (h : TakesOne test body) (hg : greed ≠ .possessive) {cursor : Cursor}
    {taken rest : List Char} (hafter : cursor.after = taken ++ rest)
    (htaken : ∀ c ∈ taken, test c = true) (hleast : least ≤ taken.length)
    (hnext : (next (cursor.past taken rest)).isSome = true) :
    (Matcher.repeated body greed least none cursor next).isSome = true := by
  obtain ⟨found, hfound⟩ := Option.isSome_iff_exists.1 hnext
  have hturns : taken.length < least + cursor.after.length + 2 := by
    rw [hafter, List.length_append]; omega
  have hloop {lazily : Bool} : (Matcher.loop body lazily least none next
      (least + cursor.after.length + 2) 0 none cursor).isSome = true :=
    loop_isSome h ⟨taken, rest, hafter, htaken, by omega, hfound, hturns⟩
      (fun _ hplace => nomatch hplace)
  cases greed with
  | greedy | lazily => exact hloop
  | possessive => exact absurd rfl hg

/-- A repetition that need not be made succeeds if what follows does. -/
theorem repeated_isSome_of_next (h : TakesOne test body) (hg : greed ≠ .possessive)
    {cursor : Cursor} (hnext : (next cursor).isSome = true) :
    (Matcher.repeated body greed 0 none cursor next).isSome = true :=
  repeated_isSome h hg (List.nil_append _).symm (fun _ hc => absurd hc List.not_mem_nil)
    (Nat.zero_le _) hnext

end Matcher

end ChatFlow

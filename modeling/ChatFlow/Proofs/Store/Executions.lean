import Mathlib.Data.List.Nodup
import Mathlib.Data.List.Basic
import ChatFlow.Store.Executions

/-!
# The executions as a table with distinct keys

`Executions.Sound` is what creation and compare-and-swap rely on: ids are distinct, and no row has
an id that a later attempt will hand out. Under it a write touches exactly one row
(`Sound.mem_rewrite_iff`, `Sound.get?_written`), and it goes through exactly if the row is still the
one that was read, for every reader whose copy is a past state of the row (`Precedes`,
`Sound.update?_cases`).
-/

namespace ChatFlow

/-! ## Patches -/

@[simp] theorem Patch.apply_id (patch : Patch) (row : Execution) :
    (patch.apply row).id = row.id := rfl

@[simp] theorem Patch.apply_version (patch : Patch) (row : Execution) :
    (patch.apply row).version = row.version + 1 := rfl

@[simp] theorem Patch.apply_customerId (patch : Patch) (row : Execution) :
    (patch.apply row).customerId = row.customerId := rfl

@[simp] theorem Patch.apply_channelId (patch : Patch) (row : Execution) :
    (patch.apply row).channelId = row.channelId := rfl

namespace Executions

variable {store store' : Executions}

/-! ## Keys -/

/-- Attempts of different numbers hand out different ids. -/
theorem idOf_injective {m n : Nat} (h : idOf m = idOf n) : m = n := by
  simp only [idOf, decimalText, String.append_right_inj, String.ofList_inj] at h
  rw [← Nat.ofDigitChars_ten_toDigits (n := m), h, Nat.ofDigitChars_ten_toDigits]

/-- Ids are distinct, and none is that of an attempt that is still to come. -/
structure Sound (store : Executions) : Prop where
  nodup : (store.rows.map (·.id)).Nodup
  fresh : ∀ row ∈ store.rows, ∀ n, store.attempts < n → row.id ≠ idOf n

/-- A store without executions is sound. -/
theorem Sound.of_rows_nil (h : store.rows = []) : store.Sound :=
  ⟨by simp [h], by simp [h]⟩

/-- Only the logs and the number of attempts have changed, and that has not fallen. -/
structure Keeps (store store' : Executions) : Prop where
  rows : store'.rows = store.rows
  attempts_le : store.attempts ≤ store'.attempts

theorem Keeps.refl (store : Executions) : store.Keeps store :=
  ⟨rfl, Nat.le_refl _⟩

theorem Sound.keeps (hs : store.Sound) (hk : store.Keeps store') : store'.Sound := by
  refine ⟨hk.rows ▸ hs.nodup, fun row h n hn => ?_⟩
  rw [hk.rows] at h
  exact hs.fresh row h n (Nat.lt_of_le_of_lt hk.attempts_le hn)

/-- In a sound store an id names one row. -/
theorem Sound.eq_of_id (hs : store.Sound) {a b : Execution} (ha : a ∈ store.rows)
    (hb : b ∈ store.rows) (h : a.id = b.id) : a = b :=
  List.inj_on_of_nodup_map hs.nodup ha hb h

/-- Looking up an id finds the row that bears it. -/
theorem get?_some {id : String} {row : Execution} (h : store.get? id = some row) :
    row ∈ store.rows ∧ row.id = id :=
  ⟨List.mem_of_find?_eq_some h, by simpa using List.find?_some h⟩

/-- In a sound store, looking up an id finds a row if and only if the row bears it. -/
theorem Sound.get?_eq_some_iff (hs : store.Sound) {id : String} {row : Execution} :
    store.get? id = some row ↔ row ∈ store.rows ∧ row.id = id := by
  refine ⟨get?_some, fun ⟨hrow, hid⟩ => ?_⟩
  obtain ⟨found, hfound⟩ : ∃ found, store.get? id = some found :=
    Option.isSome_iff_exists.1 (List.find?_isSome.2 ⟨row, hrow, by simpa using hid⟩)
  obtain ⟨hmem, hfid⟩ := get?_some hfound
  rw [hfound, hs.eq_of_id hmem hrow (hfid.trans hid.symm)]

/-- The active execution that is found is a row of the customer on the channel, and active. -/
theorem findActive?_some {customer : String} {channel : Option String} {row : Execution}
    (h : store.findActive? customer channel = some row) :
    row ∈ store.rows ∧ row.customerId = customer ∧ row.channelId = channel ∧
      row.status.isActive = true := by
  have hp := List.find?_some h
  simp only [isActiveOf, Bool.and_eq_true, beq_iff_eq] at hp
  exact ⟨List.mem_reverse.1 (List.mem_of_find?_eq_some h), hp.1.1, hp.1.2, hp.2⟩

/-- The row that the next creation adds. -/
def newRow (store : Executions) (flow customer : String) (channel node : Option String)
    (vars : Object) : Execution :=
  ⟨idOf (store.attempts + 1), flow, customer, channel, node, .running, none, vars, 1, none, none⟩

/-- A creation adds one row at the end, or none if the customer has an active execution on the
channel. Either uses up an attempt. -/
theorem create_eq (store : Executions) (flow customer : String) (channel node : Option String)
    (vars : Object) :
    store.create flow customer channel node vars =
      if store.admits customer channel then
        (some (store.newRow flow customer channel node vars),
          { store with
            rows := store.rows ++ [store.newRow flow customer channel node vars]
            attempts := store.attempts + 1 })
      else (none, { store with attempts := store.attempts + 1 }) := rfl

/-- A creation keeps a store sound: the id that it takes is fresh. -/
theorem Sound.create (hs : store.Sound) (flow customer : String) (channel node : Option String)
    (vars : Object) : (store.create flow customer channel node vars).2.Sound := by
  rw [create_eq]
  split
  · refine ⟨?_, fun row h => ?_⟩
    · rw [List.map_append, List.nodup_append]
      refine ⟨hs.nodup, by simp, fun id hid new hnew => ?_⟩
      obtain ⟨row, hrow, rfl⟩ := List.mem_map.1 hid
      rw [List.mem_singleton.1 hnew]
      exact hs.fresh row hrow _ (Nat.lt_succ_self _)
    · intro n hn hid
      rcases List.mem_append.1 h with hrow | hrow
      · exact hs.fresh row hrow n (Nat.lt_of_succ_lt hn) hid
      · rw [List.mem_singleton.1 hrow] at hid
        exact Nat.ne_of_lt hn (idOf_injective hid)
  · exact hs.keeps ⟨rfl, Nat.le_succ _⟩

/-! ## Writing -/

/-- The rows after a write. -/
def rewrite (store : Executions) (held : Execution) (patch : Patch) : List Execution :=
  store.rows.map fun row => if isHeld held row then patch.apply row else row

/-- What a write makes of the store. -/
def written (store : Executions) (held : Execution) (patch : Patch) (entries : List LogEntry) :
    Executions :=
  { store with
    rows := store.rewrite held patch
    logs := store.logs ++ entries.map (held.id, ·) }

/-- A write goes through if some row is the held one in the version in which it was read. -/
theorem update?_eq (store : Executions) (held : Execution) (patch : Patch)
    (entries : List LogEntry) :
    store.update? held patch entries =
      if store.rows.any (isHeld held) then
        some (patch.apply held, store.written held patch entries)
      else none := rfl

/-- What a write that went through has made. -/
theorem update?_some {held after : Execution} {patch : Patch} {entries : List LogEntry}
    (h : store.update? held patch entries = some (after, store')) :
    after = patch.apply held ∧ store' = store.written held patch entries := by
  rw [update?_eq] at h
  split at h
  · cases h
    exact ⟨rfl, rfl⟩
  · cases h

theorem isHeld_iff {held row : Execution} :
    isHeld held row = true ↔ row.id = held.id ∧ row.version = held.version := by
  simp [isHeld]

/-- A write changes no id. -/
theorem map_id_rewrite (store : Executions) (held : Execution) (patch : Patch) :
    (store.rewrite held patch).map (·.id) = store.rows.map (·.id) := by
  rw [rewrite, List.map_map]
  refine List.map_congr_left fun row _ => ?_
  simp only [Function.comp_apply]
  split <;> rfl

/-- A write keeps a store sound. -/
theorem Sound.written (hs : store.Sound) (held : Execution) (patch : Patch)
    (entries : List LogEntry) : (store.written held patch entries).Sound := by
  refine ⟨?_, fun row h => ?_⟩
  · show ((store.rewrite held patch).map (·.id)).Nodup
    rw [map_id_rewrite]
    exact hs.nodup
  · obtain ⟨before, hbefore, rfl⟩ := List.mem_map.1 h
    have hid : (if isHeld held before then patch.apply before else before).id = before.id := by
      split <;> rfl
    rw [hid]
    exact hs.fresh before hbefore

/-- A write through a copy that is the row itself replaces this row and keeps every other. -/
theorem Sound.mem_rewrite_iff (hs : store.Sound) {held : Execution} (hheld : held ∈ store.rows)
    {patch : Patch} {row : Execution} :
    row ∈ store.rewrite held patch ↔
      row = patch.apply held ∨ row ∈ store.rows ∧ row.id ≠ held.id := by
  simp only [rewrite, List.mem_map]
  constructor
  · rintro ⟨before, hbefore, rfl⟩
    by_cases hid : before.id = held.id
    · obtain rfl := hs.eq_of_id hbefore hheld hid
      simp [isHeld]
    · have hno : isHeld held before = false := by simp [isHeld, hid]
      simp [hno, hbefore, hid]
  · rintro (rfl | ⟨hrow, hid⟩)
    · exact ⟨held, hheld, by simp [isHeld]⟩
    · exact ⟨row, hrow, by simp [isHeld, hid]⟩

/-- After a write through a copy that is the row itself, the row is the patched copy, and every
other id names what it named before. -/
theorem Sound.get?_written (hs : store.Sound) {held : Execution} (hheld : held ∈ store.rows)
    (patch : Patch) (entries : List LogEntry) (id : String) :
    (store.written held patch entries).get? id =
      if id = held.id then some (patch.apply held) else store.get? id := by
  have hw := hs.written held patch entries
  split
  · next h => exact hw.get?_eq_some_iff.2 ⟨(hs.mem_rewrite_iff hheld).2 (.inl rfl), h.symm⟩
  · next h =>
    refine Option.ext fun row => ?_
    rw [hw.get?_eq_some_iff, hs.get?_eq_some_iff]
    show row ∈ store.rewrite held patch ∧ _ ↔ _
    rw [hs.mem_rewrite_iff hheld]
    constructor
    · rintro ⟨rfl | ⟨hrow, -⟩, hid⟩
      · exact absurd hid.symm h
      · exact ⟨hrow, hid⟩
    · rintro ⟨hrow, hid⟩
      exact ⟨.inr ⟨hrow, fun he => h (hid.symm.trans he)⟩, hid⟩

/-! ## Copies -/

/-- A copy of a row, read now or earlier: the row has not gone back behind it, and as long as the
row has the copy's version, it is the copy. -/
structure Precedes (held row : Execution) : Prop where
  id : held.id = row.id
  version_le : held.version ≤ row.version
  eq_of_version : held.version = row.version → held = row

/-- A row is a copy of itself. -/
theorem Precedes.refl (row : Execution) : Precedes row row :=
  ⟨rfl, Nat.le_refl _, fun _ => rfl⟩

/-- A copy of a row is an outdated copy of the row after any write. -/
theorem Precedes.apply {held row : Execution} (h : Precedes held row) (patch : Patch) :
    Precedes held (patch.apply row) :=
  ⟨h.id, Nat.le_succ_of_le h.version_le, fun he => by
    have := h.version_le
    rw [Patch.apply_version] at he
    omega⟩

/-- Whether an execution is a copy of some row of the store. -/
def Knows (store : Executions) (held : Execution) : Prop :=
  ∃ row ∈ store.rows, Precedes held row

/-- A row that is read is known. -/
theorem Knows.of_mem {row : Execution} (h : row ∈ store.rows) : store.Knows row :=
  ⟨row, h, .refl row⟩

theorem Knows.keeps {held : Execution} (h : store.Knows held) (hk : store.Keeps store') :
    store'.Knows held := by
  obtain ⟨row, hrow, hp⟩ := h
  exact ⟨row, hk.rows ▸ hrow, hp⟩

/-- What was known stays known when rows are added. -/
theorem Knows.append {held : Execution} (h : store.Knows held) {rows : List Execution}
    (hrows : store'.rows = store.rows ++ rows) : store'.Knows held :=
  let ⟨row, hrow, hp⟩ := h
  ⟨row, hrows ▸ List.mem_append_left _ hrow, hp⟩

/-- What was known stays known when a row is written. -/
theorem Knows.written {held : Execution} (h : store.Knows held) (writer : Execution)
    (patch : Patch) (entries : List LogEntry) :
    (store.written writer patch entries).Knows held := by
  obtain ⟨row, hrow, hp⟩ := h
  refine ⟨_, List.mem_map.2 ⟨row, hrow, rfl⟩, ?_⟩
  split
  · exact hp.apply patch
  · exact hp

/-- **Compare and swap.** A write through a copy of a row goes through if and only if the copy is
the row as it is now; otherwise the row has a later version. -/
theorem Sound.update?_cases (hs : store.Sound) {held : Execution} (hk : store.Knows held)
    (patch : Patch) (entries : List LogEntry) :
    (store.get? held.id = some held ∧
      store.update? held patch entries =
        some (patch.apply held, store.written held patch entries)) ∨
    (∃ row, store.get? held.id = some row ∧ held.version < row.version ∧
      store.update? held patch entries = none) := by
  obtain ⟨row, hrow, hp⟩ := hk
  have hget : store.get? held.id = some row := hs.get?_eq_some_iff.2 ⟨hrow, hp.id.symm⟩
  rw [update?_eq]
  by_cases hv : held.version = row.version
  · obtain rfl := hp.eq_of_version hv
    refine .inl ⟨hget, if_pos ?_⟩
    exact List.any_eq_true.2 ⟨held, hrow, isHeld_iff.2 ⟨rfl, rfl⟩⟩
  · refine .inr ⟨row, hget, Nat.lt_of_le_of_ne hp.version_le hv, if_neg fun hany => ?_⟩
    obtain ⟨other, hother, hh⟩ := List.any_eq_true.1 hany
    obtain ⟨hid, hver⟩ := isHeld_iff.1 hh
    obtain rfl := hs.eq_of_id hother hrow (hid.trans hp.id)
    exact hv hver.symm

/-! ## Logs -/

/-- Entries that are added for an execution come at the end of its log, and of no other. -/
theorem logOf_added {held : String} (entries : List LogEntry)
    (h : store'.logs = store.logs ++ entries.map (held, ·)) (id : String) :
    store'.logOf id = store.logOf id ++ if id = held then entries else [] := by
  rw [logOf, logOf, h, List.filter_append, List.map_append, List.filter_map, List.map_map]
  refine congrArg _ ?_
  show ((entries.filter fun _ => held == id).map fun entry => entry) = _
  rw [List.map_id']
  split
  · next hid => exact List.filter_eq_self.2 fun _ _ => beq_iff_eq.2 hid.symm
  · next hid => exact List.filter_eq_nil_iff.2 fun _ _ he => hid (beq_iff_eq.1 he).symm

theorem logOf_written (store : Executions) (held : Execution) (patch : Patch)
    (entries : List LogEntry) (id : String) :
    (store.written held patch entries).logOf id =
      store.logOf id ++ if id = held.id then entries else [] :=
  logOf_added entries rfl id

theorem logOf_appendLog (store : Executions) (held : String) (entry : LogEntry) (id : String) :
    (store.appendLog held entry).logOf id =
      store.logOf id ++ if id = held then [entry] else [] :=
  logOf_added [entry] rfl id

end Executions

end ChatFlow

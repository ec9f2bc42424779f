import Mathlib
import ChatFlow.Proofs.Engine.Interleaving

/-!
# No update is lost

Whatever invocations are under way and in whatever order they take their steps, the checkpoints that
are written for an execution form a chain: each was made from the execution as the one before had
left it (`Succession`). A checkpoint whose copy is out of date is not written and changes nothing.
`Machine.serial` is the whole statement.

It rests on the record that a machine keeps: `Recorded` says that the record tells how the rows came
to be what they are, and every step keeps it so, because a write goes through only if the copy is
the row itself (`Executions.Sound.update?_cases`).
-/

namespace ChatFlow

/-- Whether checkpoints lead from one state of an execution to another: each is for the state that
the one before has made. -/
def Succession : Execution → List Checkpoint → Execution → Prop
  | first, [], last => first = last
  | first, c :: rest, last => c.held = first ∧ Succession (c.patch.apply c.held) rest last

/-- A checkpoint for the state that others have led to leads one state further. -/
theorem Succession.concat {first : Execution} {commits : List Checkpoint} {c : Checkpoint}
    (h : Succession first commits c.held) :
    Succession first (commits ++ [c]) (c.patch.apply c.held) := by
  induction commits generalizing first with
  | nil => exact ⟨h.symm, rfl⟩
  | cons d rest ih => exact ⟨h.1, ih h.2⟩

/-- The checkpoints for an execution, in order. -/
def commitsFor (id : String) (commits : List Checkpoint) : List Checkpoint :=
  commits.filter (·.held.id == id)

/-! ## The record -/

/-- Whether the origins of executions and the checkpoints that were written tell how the rows came
to be what they are. -/
structure Recorded (rows origins : List Execution) (commits : List Checkpoint) : Prop where
  work : ∀ c ∈ commits, c.IsWork
  ids : origins.map (·.id) = rows.map (·.id)
  succession : ∀ first ∈ origins, ∀ last ∈ rows, last.id = first.id →
    Succession first (commitsFor first.id commits) last
  passed : ∀ c ∈ commits, ∃ row ∈ rows, row.id = c.held.id ∧ c.held.version < row.version
  nodup : (commits.map fun c => (c.held.id, c.held.version)).Nodup

namespace Recorded

variable {store : Executions} {rows origins : List Execution} {commits : List Checkpoint}

/-- Before anything is written, every row is its own origin. -/
theorem init (hs : store.Sound) : Recorded store.rows store.rows [] where
  work _ hc := by cases hc
  ids := rfl
  succession _ hfirst _ hlast hid := hs.eq_of_id hfirst hlast hid.symm
  passed _ hc := by cases hc
  nodup := List.nodup_nil

/-- No checkpoint was written for a row that is not there. -/
theorem commitsFor_eq_nil (hr : Recorded rows origins commits) {id : String}
    (hnew : ∀ row ∈ rows, row.id ≠ id) : commitsFor id commits = [] := by
  refine List.filter_eq_nil_iff.2 fun c hc hid => ?_
  obtain ⟨row, hrow, hrid, -⟩ := hr.passed c hc
  exact hnew row hrow (hrid.trans (beq_iff_eq.1 hid))

/-- Every origin has a row. -/
theorem exists_row (hr : Recorded rows origins commits) {first : Execution}
    (h : first ∈ origins) : ∃ row ∈ rows, row.id = first.id := by
  have hid : first.id ∈ rows.map (·.id) := hr.ids ▸ List.mem_map_of_mem h
  exact List.mem_map.1 hid

/-- Every row has an origin. -/
theorem exists_origin (hr : Recorded rows origins commits) {row : Execution}
    (h : row ∈ rows) : ∃ first ∈ origins, first.id = row.id := by
  have hid : row.id ∈ origins.map (·.id) := hr.ids ▸ List.mem_map_of_mem h
  exact List.mem_map.1 hid

/-- A row that is created is its own origin, and nothing was written for it. -/
theorem create (hr : Recorded rows origins commits) {row : Execution}
    (hnew : ∀ other ∈ rows, other.id ≠ row.id) :
    Recorded (rows ++ [row]) (origins ++ [row]) commits where
  work := hr.work
  ids := by rw [List.map_append, List.map_append, hr.ids]
  succession first hfirst last hlast hid := by
    rcases List.mem_append.1 hfirst with hfirst | hfirst <;>
      rcases List.mem_append.1 hlast with hlast | hlast
    · exact hr.succession first hfirst last hlast hid
    · obtain ⟨other, hother, hoid⟩ := hr.exists_row hfirst
      rw [List.mem_singleton.1 hlast] at hid
      exact absurd (hoid.trans hid.symm) (hnew other hother)
    · rw [List.mem_singleton.1 hfirst] at hid
      exact absurd hid (hnew last hlast)
    · rw [List.mem_singleton.1 hfirst, List.mem_singleton.1 hlast, hr.commitsFor_eq_nil hnew]
      rfl
  passed c hc :=
    let ⟨row, hrow, h⟩ := hr.passed c hc
    ⟨row, List.mem_append_left _ hrow, h⟩
  nodup := hr.nodup

/-- A checkpoint that is written for the row itself leads one state further. -/
theorem write (hr : Recorded store.rows origins commits) (hs : store.Sound) {c : Checkpoint}
    (hheld : c.held ∈ store.rows) (hw : c.IsWork) :
    Recorded (store.rewrite c.held c.patch) origins (commits ++ [c]) where
  work d hd := by
    rcases List.mem_append.1 hd with hd | hd
    · exact hr.work d hd
    · rw [List.mem_singleton.1 hd]
      exact hw
  ids := by rw [Executions.map_id_rewrite, hr.ids]
  succession first hfirst last hlast hid := by
    rw [commitsFor, List.filter_append]
    rcases (hs.mem_rewrite_iff hheld).1 hlast with rfl | ⟨hrow, hne⟩
    · have hc : c.held.id = first.id := hid
      have hlast := hr.succession first hfirst c.held hheld hc
      simp only [List.filter_cons, hc, beq_self_eq_true, if_true, List.filter_nil]
      exact hlast.concat
    · have hc : (c.held.id == first.id) = false := by
        rw [← hid]
        exact beq_false_of_ne (Ne.symm hne)
      simp only [List.filter_cons, hc, List.filter_nil, Bool.false_eq_true, if_false,
        List.append_nil]
      exact hr.succession first hfirst last hrow hid
  passed d hd := by
    rcases List.mem_append.1 hd with hd | hd
    · obtain ⟨row, hrow, hid, hv⟩ := hr.passed d hd
      by_cases hc : row.id = c.held.id
      · obtain rfl := hs.eq_of_id hrow hheld hc
        exact ⟨c.patch.apply c.held, (hs.mem_rewrite_iff hheld).2 (.inl rfl), hid,
          Nat.lt_succ_of_lt hv⟩
      · exact ⟨row, (hs.mem_rewrite_iff hheld).2 (.inr ⟨hrow, hc⟩), hid, hv⟩
    · rw [List.mem_singleton.1 hd]
      exact ⟨c.patch.apply c.held, (hs.mem_rewrite_iff hheld).2 (.inl rfl), rfl,
        Nat.lt_succ_self _⟩
  nodup := by
    rw [List.map_append, List.nodup_append]
    refine ⟨hr.nodup, by simp, fun key hkey new hnew hsame => ?_⟩
    obtain ⟨d, hd, rfl⟩ := List.mem_map.1 hkey
    rw [List.map_singleton, List.mem_singleton] at hnew
    rw [hnew, Prod.mk.injEq] at hsame
    -- what was written before was for an earlier version than the row has now
    obtain ⟨row, hrow, hid, hv⟩ := hr.passed d hd
    obtain rfl := hs.eq_of_id hrow hheld (hid.trans hsame.1)
    omega

end Recorded

namespace Machine

variable {m : Machine}

/-- Whether the record of a machine tells how its rows came to be what they are. -/
def IsRecorded (m : Machine) : Prop :=
  Recorded m.world.executions.rows m.origins m.commits

/-- A step of a task keeps the record. -/
theorem IsRecorded.after (hr : m.IsRecorded) (hg : m.Good) {i : Nat} {t : Task} (ht : t ∈ m.tasks)
    {result : Except Failure (Task ⊕ Outcome) × World} (h : Turned m.world t result) :
    (m.after i t result).IsRecorded := by
  cases h with
  | ended outcome w' hk hc =>
    show Recorded w'.executions.rows (m.origins ++ w'.executions.rows.drop _) (m.commits ++ _)
    rw [hk.rows, hc, List.drop_length, List.append_nil, List.append_nil]
    exact hr
  | went next w' hk hc hheld hv =>
    show Recorded w'.executions.rows (m.origins ++ w'.executions.rows.drop _) (m.commits ++ _)
    rw [hk.rows, hc, List.drop_length, List.append_nil, List.append_nil]
    exact hr
  | opened departure credentials flow channel customer message initial hc ho =>
    show Recorded (m.world.executions.rows ++ [departure.held])
      (m.origins ++ (m.world.executions.rows ++ [departure.held]).drop _) (m.commits ++ _)
    rw [hc, List.drop_left, List.append_nil]
    obtain ⟨graph, trigger, -, -, -, hrow⟩ := ho
    refine Recorded.create hr fun other hother => ?_
    rw [hrow]
    exact hg.sound.fresh other hother _ (Nat.lt_succ_self _)
  | written c after executions outcome timers htask hu =>
    subst htask
    have hheld := hg.held_mem ht hu
    have hcommits : (Task.writing c).commits m.world = [c] := by
      rw [Task.commits, hu]
      rfl
    obtain ⟨-, rfl⟩ := Executions.update?_some hu
    show Recorded (m.world.executions.rewrite c.held c.patch)
      (m.origins ++ (m.world.executions.rewrite c.held c.patch).drop _) (m.commits ++ _)
    have hlen : (m.world.executions.rewrite c.held c.patch).length =
        m.world.executions.rows.length := List.length_map _
    rw [← hlen, List.drop_length, List.append_nil, hcommits]
    exact Recorded.write hr hg.sound hheld (hg.valid _ ht).2

/-- The record tells of every machine that was started on a sound store how its rows came to be what
they are. -/
theorem ComesFrom.isRecorded {w : World} (h : m.ComesFrom w) (hs : w.executions.Sound) :
    m.IsRecorded :=
  (h.induct hs (Recorded.init hs) (fun _ _ hr => hr) (fun _ _ hr => hr)
    fun _ _ _ _ hg ht hturned hr => hr.after hg ht hturned).2

/-- A checkpoint that is to be written either is for the row as it is, and then it makes of it the
next version and adds its entries to the log; or the row has a later version, and then the
checkpoint is a conflict and changes nothing. -/
theorem Good.commit_cases (hg : m.Good) {c : Checkpoint} (hc : .writing c ∈ m.tasks) :
    (m.world.executions.get? c.held.id = some c.held ∧
      ∃ after store, (Work.commit c.held c.patch c.entries).exec m.world =
          (.ok (some after), { m.world with executions := store }) ∧
        after = c.patch.apply c.held ∧ after.version = c.held.version + 1 ∧
        (∀ id, store.get? id =
          if id = c.held.id then some after else m.world.executions.get? id) ∧
        store.logs = m.world.executions.logs ++ c.entries.map (c.held.id, ·)) ∨
    ((∃ row, m.world.executions.get? c.held.id = some row ∧ c.held.version < row.version) ∧
      (Work.commit c.held c.patch c.entries).exec m.world = (.ok none, m.world) ∧
      (Work.submit c).exec m.world = (.ok ⟨.conflict, some c.held.id, none⟩, m.world)) := by
  rcases hg.sound.update?_cases (hg.known _ hc c.held rfl) c.patch c.entries with
    ⟨hget, hu⟩ | ⟨row, hget, hv, hu⟩
  · refine .inl ⟨hget, c.patch.apply c.held, m.world.executions.written c.held c.patch c.entries,
      ?_, rfl, rfl, fun id => ?_, rfl⟩
    · rw [Work.exec_commit, hu]
    · exact hg.sound.get?_written (Executions.get?_some hget).1 c.patch c.entries id
  · refine .inr ⟨⟨row, hget, hv⟩, ?_, ?_⟩
    · rw [Work.exec_commit, hu]
    · rw [Work.exec_submit, hu]

/-- **No update is lost.** Take any number of invocations that take their steps in any order. A
checkpoint that is to be written either is for the row as it is, and then it makes of it the next
version and adds its entries to the log and no others; or its copy is out of date, and then it is a
conflict and changes nothing. Every checkpoint that was written is the engine's work with the copy
that it is for, no two were written for the same version of an execution, and those for one
execution lead from its creation to its present row, each made from what the one before has left. -/
theorem serial {w : World} (hs : w.executions.Sound) (h : m.ComesFrom w) :
    (∀ c, .writing c ∈ m.tasks →
      (m.world.executions.get? c.held.id = some c.held ∧
        ∃ after store, (Work.commit c.held c.patch c.entries).exec m.world =
            (.ok (some after), { m.world with executions := store }) ∧
          after = c.patch.apply c.held ∧ after.version = c.held.version + 1 ∧
          (∀ id, store.get? id =
            if id = c.held.id then some after else m.world.executions.get? id) ∧
          store.logs = m.world.executions.logs ++ c.entries.map (c.held.id, ·)) ∨
      ((∃ row, m.world.executions.get? c.held.id = some row ∧ c.held.version < row.version) ∧
        (Work.commit c.held c.patch c.entries).exec m.world = (.ok none, m.world) ∧
        (Work.submit c).exec m.world = (.ok ⟨.conflict, some c.held.id, none⟩, m.world))) ∧
    (∀ c ∈ m.commits, c.IsWork) ∧
    (m.commits.map fun c => (c.held.id, c.held.version)).Nodup ∧
    (∀ first ∈ m.origins, ∃ last, m.world.executions.get? first.id = some last ∧
      Succession first (commitsFor first.id m.commits) last) ∧
    (∀ row ∈ m.world.executions.rows, ∃ first ∈ m.origins, first.id = row.id) := by
  have hg := h.good hs
  have hr : Recorded m.world.executions.rows m.origins m.commits := h.isRecorded hs
  refine ⟨fun c hc => hg.commit_cases hc, hr.work, hr.nodup, fun first hfirst => ?_,
    fun row hrow => hr.exists_origin hrow⟩
  obtain ⟨last, hlast, hid⟩ := hr.exists_row hfirst
  have hget : m.world.executions.get? first.id = some last :=
    hg.sound.get?_eq_some_iff.2 ⟨hlast, hid⟩
  exact ⟨last, hget, hr.succession first hfirst last hlast hid⟩

/-- A flow that asks a question. -/
def askingGraph : FlowGraph where
  nodes := [⟨"t", "trigger", .object []⟩, ⟨"q", "waitForReply", .object []⟩]
  edges := [⟨"t", "q", none, 0⟩]

/-- A world that offers this flow. -/
def askingWorld : World := .offering ⟨"f", some "c", .anyMessage, 0, true, true⟩ askingGraph

/-- A message in this world. -/
def greeting : Invocation :=
  .inbound ⟨some "c", ⟨none, none⟩⟩ "x" ⟨.text "text", .text "hi", .null, .null, .null, .null⟩ []

/-- One message gets the question asked. Two more reply to it at the same time: both have read the
execution before either writes it, and the first has written it. -/
def raced : Machine :=
  (start askingWorld).run
    [.invoke greeting, .turn 0, .turn 0, .turn 0, .turn 0, .turn 0,
      .invoke greeting, .invoke greeting, .turn 0, .turn 1, .turn 0, .turn 1, .turn 0]

/-- Of the two replies one was written, for the version that the question had left. -/
theorem serial_raced :
    raced.tasks.length = 1 ∧
      raced.commits.map (fun c => (c.held.id, c.held.version)) = [("exec-1", 1), ("exec-1", 2)] ∧
      ∀ first ∈ raced.origins, ∃ last, raced.world.executions.get? first.id = some last ∧
        Succession first (commitsFor first.id raced.commits) last := by
  have hs : askingWorld.executions.Sound := .of_rows_nil rfl
  have h : raced.ComesFrom askingWorld := ⟨_, rfl⟩
  have hend : (raced.tasks.length, raced.commits.map fun c => (c.held.id, c.held.version)) =
      (1, [("exec-1", 1), ("exec-1", 2)]) := by cbv
  obtain ⟨htasks, hcommits⟩ := Prod.mk.inj hend
  obtain ⟨-, -, -, hchain, -⟩ := serial hs h
  exact ⟨htasks, hcommits, hchain⟩

end Machine

end ChatFlow

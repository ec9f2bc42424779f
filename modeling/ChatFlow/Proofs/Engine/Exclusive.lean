import Mathlib
import ChatFlow.Proofs.Engine.Interleaving

/-!
# One conversation at a time

A customer has at most one active execution on a channel, whatever invocations are under way and in
whatever order they take their steps (`Machine.exclusive`). A creation is refused while there is an
active execution, and a write cannot make an execution active: it goes through only for the row
itself, which was active when it was read (`Executions.Exclusive.write`).

For the start of a flow this means that it creates nothing if the customer is in a conversation
already. If the conversation waits, the start is the same as a message to it, up to the attempt that
the refused creation used up (`Work.startFlow_of_waiting`).
-/

namespace ChatFlow

namespace Executions

variable {store store' : Executions}

/-- Whether no customer has two active executions on one channel. -/
def Exclusive (store : Executions) : Prop :=
  ∀ customer channel, store.rows.countP (isActiveOf customer (some channel)) ≤ 1

theorem Exclusive.of_rows_nil (h : store.rows = []) : store.Exclusive := by
  intro customer channel
  rw [h]
  exact Nat.zero_le 1

theorem Exclusive.keeps (h : store.Exclusive) (hk : store.Keeps store') : store'.Exclusive := by
  intro customer channel
  rw [hk.rows]
  exact h customer channel

/-- An active execution is not found only if there is none. -/
theorem findActive?_eq_none_iff {customer : String} {channel : Option String} :
    store.findActive? customer channel = none ↔
      store.rows.countP (isActiveOf customer channel) = 0 := by
  rw [findActive?, List.find?_eq_none, List.countP_eq_zero]
  simp only [List.mem_reverse]

/-- Adding an active row keeps a store exclusive if the row is admitted. -/
theorem Exclusive.append (h : store.Exclusive) {row : Execution}
    (ha : store.admits row.customerId row.channelId = true)
    (hrows : store'.rows = store.rows ++ [row]) : store'.Exclusive := by
  intro customer channel
  rw [hrows, List.countP_append]
  by_cases hp : isActiveOf customer (some channel) row = true
  · obtain ⟨⟨hcu, hch⟩, -⟩ : (row.customerId = customer ∧ row.channelId = some channel) ∧
        row.status.isActive = true := by
      simpa only [isActiveOf, Bool.and_eq_true, beq_iff_eq] using hp
    rw [hcu, hch, admits, Option.isNone_some, Bool.false_or, Option.isNone_iff_eq_none,
      findActive?_eq_none_iff] at ha
    rw [ha, Nat.zero_add]
    exact List.countP_le_length
  · rw [List.countP_cons_of_neg hp, List.countP_nil]
    exact h customer channel

/-- Writing an active row keeps a store exclusive: the customer and the channel stay. -/
theorem Exclusive.write (h : store.Exclusive) (hs : store.Sound) {held : Execution}
    (hheld : held ∈ store.rows) (ha : held.status.isActive = true) (patch : Patch)
    (entries : List LogEntry) : (store.written held patch entries).Exclusive := by
  intro customer channel
  refine Nat.le_trans ?_ (h customer channel)
  show (store.rewrite held patch).countP _ ≤ _
  rw [rewrite, List.countP_map]
  refine List.countP_mono_left fun row hrow hp => ?_
  rw [Function.comp_apply] at hp
  split at hp
  · next hh =>
    obtain rfl := hs.eq_of_id hrow hheld (isHeld_iff.1 hh).1
    simp only [isActiveOf, Bool.and_eq_true, beq_iff_eq] at hp ⊢
    exact ⟨hp.1, ha⟩
  · exact hp

/-- In an exclusive store the active execution of a customer on a channel is the one that is
found. -/
theorem Exclusive.findActive?_eq (h : store.Exclusive) {customer channel : String}
    {row : Execution} (hrow : row ∈ store.rows)
    (ha : isActiveOf customer (some channel) row = true) :
    store.findActive? customer (some channel) = some row := by
  cases hf : store.findActive? customer (some channel) with
  | none =>
    rw [findActive?_eq_none_iff, List.countP_eq_zero] at hf
    exact absurd ha (hf row hrow)
  | some found =>
    have hfound : found ∈ store.rows := (findActive?_some hf).1
    have hactive : isActiveOf customer (some channel) found = true := List.find?_some hf
    have hone := h customer channel
    rw [List.countP_eq_length_filter] at hone
    have hrow' := List.mem_filter.2 ⟨hrow, ha⟩
    have hfound' := List.mem_filter.2 ⟨hfound, hactive⟩
    rcases hl : store.rows.filter (isActiveOf customer (some channel)) with _ | ⟨only, _ | _⟩
    · rw [hl] at hrow'
      cases hrow'
    · rw [hl, List.mem_singleton] at hrow' hfound'
      rw [hrow', hfound']
    · rw [hl] at hone
      simp only [List.length_cons] at hone
      omega

end Executions

/-! ## Machines -/

namespace Machine

variable {m : Machine}

/-- Whether no customer has two active executions on one channel. -/
def IsExclusive (m : Machine) : Prop := m.world.executions.Exclusive

/-- A step of a task keeps a machine exclusive. -/
theorem IsExclusive.after (he : m.IsExclusive) (hg : m.Good) {i : Nat} {t : Task}
    (ht : t ∈ m.tasks) {result : Except Failure (Task ⊕ Outcome) × World}
    (h : Turned m.world t result) : (m.after i t result).IsExclusive := by
  cases h with
  | ended outcome w' hk hc => exact Executions.Exclusive.keeps he hk
  | went next w' hk hc hheld hv => exact Executions.Exclusive.keeps he hk
  | opened departure credentials flow channel customer message initial hc ho =>
    obtain ⟨graph, trigger, -, -, hadmits, hrow⟩ := ho
    have ha : m.world.executions.admits departure.held.customerId departure.held.channelId =
        true := by
      rw [hrow]
      exact hadmits
    exact Executions.Exclusive.append he ha rfl
  | written c after executions outcome timers htask hu =>
    subst htask
    have hheld := hg.held_mem ht hu
    obtain ⟨-, rfl⟩ := Executions.update?_some hu
    exact Executions.Exclusive.write he hg.sound hheld (hg.valid _ ht).1 c.patch c.entries

/-- A machine that was started without executions is exclusive. -/
theorem ComesFrom.isExclusive {w : World} (h : m.ComesFrom w) (hw : w.executions.rows = []) :
    m.IsExclusive :=
  (h.induct (.of_rows_nil hw) (Executions.Exclusive.of_rows_nil hw) (fun _ _ he => he)
    (fun _ _ he => he) fun _ _ _ _ hg ht hturned he => he.after hg ht hturned).2

end Machine

/-! ## Refused creations

A refused creation leaves only the number of attempts behind. The work that goes on with an
execution does not look at it. -/

namespace Work

variable {α β : Type}

/-- Whether work does the same whatever the number of attempts is, and leaves it alone. -/
def IgnoresAttempts (work : Work α) : Prop :=
  ∀ (w : World) (attempts : Nat),
    work.exec (w.withAttempts attempts) =
      ((work.exec w).1, (work.exec w).2.withAttempts attempts)

/-- Work in a row ignores attempts if all of it does. -/
theorem IgnoresAttempts.bind {work : Work α} {next : α → Work β} (h : work.IgnoresAttempts)
    (hnext : ∀ a, (next a).IgnoresAttempts) : (work >>= next).IgnoresAttempts := by
  intro w attempts
  rw [exec_bind, exec_bind, h w attempts]
  rcases work.exec w with ⟨failure | a, w'⟩
  · rfl
  · exact hnext a w' attempts

theorem ignoresAttempts_pure (a : α) : (pure a : Work α).IgnoresAttempts :=
  fun _ _ => rfl

theorem ignoresAttempts_ofExcept (result : Except Failure α) :
    (MonadExcept.ofExcept result : Work α).IgnoresAttempts := by
  intro w attempts
  rw [exec_ofExcept, exec_ofExcept]

theorem ignoresAttempts_now : now.IgnoresAttempts :=
  fun _ _ => rfl

theorem ignoresAttempts_graphOf (flow : String) : (graphOf flow).IgnoresAttempts := by
  intro w attempts
  rw [exec_graphOf, exec_graphOf]
  rfl

theorem ignoresAttempts_log (id : String) (entry : LogEntry) : (log id entry).IgnoresAttempts :=
  fun _ _ => rfl

theorem ignoresAttempts_settle (held : Execution) (action : Action) (walk : Walk)
    (before : List LogEntry) : (settle held action walk before).IgnoresAttempts := by
  unfold settle
  refine .bind (fun _ _ => rfl) fun _ => ?_
  dsimp only
  split
  · exact .bind (ignoresAttempts_log _ _) fun _ _ _ => rfl
  · exact .bind (ignoresAttempts_ofExcept _) fun _ => ignoresAttempts_pure _
  · exact .bind ignoresAttempts_now fun _ => ignoresAttempts_pure _

theorem ignoresAttempts_run {graph : FlowGraph} {held : Execution} {credentials : Credentials}
    {env : Env} {next : Option String} {before : List LogEntry} {action : Action} :
    (run graph held credentials env next before action).IgnoresAttempts := by
  intro w attempts
  simp only [run, exec_bind, exec_get, proceed_ok]
  exact ignoresAttempts_settle held action _ before w attempts

/-- Going on with an execution ignores attempts. -/
theorem ignoresAttempts_continueWith (held : Execution) (credentials : Credentials)
    (message : InboundMessage) : (continueWith held credentials message).IgnoresAttempts := by
  unfold continueWith
  split
  · split
    · exact ignoresAttempts_pure _
    · refine .bind (ignoresAttempts_graphOf _) fun graph => ?_
      dsimp only
      split
      · exact ignoresAttempts_run
      · exact .bind (ignoresAttempts_ofExcept _) fun _ => ignoresAttempts_run
  · exact .bind (ignoresAttempts_graphOf _) fun _ => ignoresAttempts_run

/-- Submitting a checkpoint ignores attempts. -/
theorem ignoresAttempts_submit (c : Checkpoint) : (submit c).IgnoresAttempts := by
  intro w attempts
  simp only [exec_submit, World.withAttempts, Executions.update?_eq]
  cases w.executions.rows.any (Executions.isHeld c.held) <;> rfl

/-! ## Starts -/

variable {w : World} {flow : String} {channel : ChannelAccess} {customer : String}
  {message : InboundMessage} {initial : Object} {graph : FlowGraph} {trigger : FlowNode}
  {held : Execution}

/-- The start of a flow for a customer who has an active execution is refused, and then it depends
on the execution that is found. -/
theorem exec_startFlow_of_active (hg : w.flows.load? flow = some graph)
    (ht : graph.trigger? = some trigger) (hch : channel.id.isSome = true)
    (hf : w.executions.findActive? customer channel.id = some held) :
    (startFlow flow channel customer message initial).exec w =
      if held.status = .waiting then
        (continueWith held channel.credentials message >>= submit).exec
          (w.withAttempts (w.executions.attempts + 1))
      else (.ok ⟨.conflict, some held.id, some held.status⟩,
        w.withAttempts (w.executions.attempts + 1)) := by
  have ha : w.executions.admits customer channel.id = false := by
    rw [Executions.admits, hf, Option.isNone_some, Bool.or_false, Option.isNone_eq_false_iff]
    exact hch
  rw [startFlow, exec_bind, exec_openFlow, hg]
  simp only [ht, Executions.create_eq, ha, Bool.false_eq_true, if_false, Option.map_none,
    proceed_ok, exec_bind, exec_get]
  have hf' : (w.withAttempts (w.executions.attempts + 1)).executions.findActive? customer
      channel.id = some held := hf
  simp only [World.withAttempts] at hf' ⊢
  rw [hf']
  dsimp only
  split
  · rw [exec_bind]
  · rfl

/-- **A start that finds a conversation waiting** is a message to it. -/
theorem exec_startFlow_of_waiting (hg : w.flows.load? flow = some graph)
    (ht : graph.trigger? = some trigger) (hch : channel.id.isSome = true)
    (hf : w.executions.findActive? customer channel.id = some held)
    (hw : held.status = .waiting) :
    (startFlow flow channel customer message initial).exec w =
      (((handleInbound channel customer message initial).exec w).1,
        ((handleInbound channel customer message initial).exec w).2.withAttempts
          (w.executions.attempts + 1)) := by
  have hinbound : (handleInbound channel customer message initial).exec w =
      (continueWith held channel.credentials message >>= submit).exec w := by
    simp only [handleInbound, receive, exec_bind, exec_get, proceed_ok, hf]
  rw [exec_startFlow_of_active hg ht hch hf, if_pos hw, hinbound]
  exact (ignoresAttempts_continueWith held _ _).bind ignoresAttempts_submit w _

end Work

/-- Going on with an execution keeps the ids. -/
theorem Carried.map_id {held : Execution} {w : World} {result : Except Failure Outcome × World}
    (h : Carried held w result) :
    result.2.executions.rows.map (·.id) = w.executions.rows.map (·.id) := by
  cases h with
  | written c outside after executions hc hu =>
    obtain ⟨-, rfl⟩ := Executions.update?_some hu
    exact Executions.map_id_rewrite w.executions c.held c.patch
  | conflict c outside hc hu => rfl
  | nodeFailed node cause outside hn => rfl
  | refused failure outside hf => rfl

namespace Machine

variable {m : Machine}

/-- **One conversation at a time.** Take any number of invocations that take their steps in any
order, beginning without executions. For every customer and every channel at most one execution is
running or waiting. If there is one, the start of a flow creates none: if it waits, the start comes
to what the message would have come to and has the same effects; if it is running, the start is a
conflict and changes nothing. The refused creation has used up an attempt in either case. -/
theorem exclusive {w : World} (hw : w.executions.rows = []) (h : m.ComesFrom w) :
    (∀ customer channelId, (m.world.executions.rows.filter
      (Executions.isActiveOf customer (some channelId))).length ≤ 1) ∧
    ∀ (flow : String) (graph : FlowGraph) (trigger : FlowNode) (channel : ChannelAccess)
      (channelId customer : String) (message : InboundMessage) (initial : Object)
      (row : Execution),
      m.world.flows.load? flow = some graph → graph.trigger? = some trigger →
      channel.id = some channelId → row ∈ m.world.executions.rows →
      Executions.isActiveOf customer (some channelId) row = true →
      ((Work.startFlow flow channel customer message initial).exec m.world).2.executions.rows.map
        (·.id) = m.world.executions.rows.map (·.id) ∧
      (row.status = .waiting →
        (Work.startFlow flow channel customer message initial).exec m.world =
          (((Work.handleInbound channel customer message initial).exec m.world).1,
            ((Work.handleInbound channel customer message initial).exec m.world).2.withAttempts
              (m.world.executions.attempts + 1))) ∧
      (row.status = .running →
        (Work.startFlow flow channel customer message initial).exec m.world =
          (.ok ⟨.conflict, some row.id, some .running⟩,
            m.world.withAttempts (m.world.executions.attempts + 1))) := by
  have he : m.world.executions.Exclusive := h.isExclusive hw
  constructor
  · intro customer channelId
    rw [← List.countP_eq_length_filter]
    exact he customer channelId
  · intro flow graph trigger channel channelId customer message initial row hg ht hch hrow hactive
    have hf : m.world.executions.findActive? customer channel.id = some row := by
      rw [hch]
      exact he.findActive?_eq hrow hactive
    have hsome : channel.id.isSome = true := by rw [hch, Option.isSome_some]
    have hstart : (Work.startFlow flow channel customer message initial).exec m.world = _ :=
      Work.exec_startFlow_of_active hg ht hsome hf
    refine ⟨?_, fun hwaiting => ?_, fun hrunning => ?_⟩
    · rw [hstart]
      split
      · exact (Work.continueWith_carried row channel.credentials message).map_id
      · rfl
    · exact Work.exec_startFlow_of_waiting hg ht hsome hf hwaiting
    · have hne : row.status ≠ .waiting := by
        rw [hrunning]
        exact ExecutionStatus.noConfusion
      rw [hstart, if_neg hne, hrunning]

/-- A flow that has nothing but a trigger. -/
def bareGraph : FlowGraph := ⟨[⟨"t", "trigger", .object []⟩], []⟩

/-- A channel. -/
def bareChannel : ChannelAccess := ⟨some "c", ⟨none, none⟩⟩

/-- A message that tells nothing. -/
def bareMessage : InboundMessage := ⟨.null, .null, .null, .null, .null, .null⟩

/-- A start of the flow has created its execution and has done nothing else yet. -/
def begun : Machine :=
  (start (.offering ⟨"f", none, .never, 0, false, false⟩ bareGraph)).run
    [.invoke (.start "f" bareChannel "x" bareMessage []), .turn 0]

/-- A second start finds the execution running. -/
theorem exclusive_begun :
    (Work.startFlow "f" bareChannel "x" bareMessage []).exec begun.world =
      (.ok ⟨.conflict, some "exec-1", some .running⟩, begun.world.withAttempts 2) := by
  have h : begun.ComesFrom (.offering ⟨"f", none, .never, 0, false, false⟩ bareGraph) := ⟨_, rfl⟩
  have hrows : begun.world.executions.rows =
      [⟨"exec-1", "f", "x", some "c", some "t", .running, none, [], 1, none, none⟩] := by cbv
  have hrow := hrows ▸ List.mem_singleton_self _
  have hattempts : begun.world.executions.attempts = 1 := by cbv
  obtain ⟨-, hstart⟩ := exclusive rfl h
  obtain ⟨-, -, hrunning⟩ := hstart "f" bareGraph ⟨"t", "trigger", .object []⟩ bareChannel "c" "x"
    bareMessage [] _ (by cbv) rfl rfl hrow rfl
  rw [hrunning rfl, hattempts]

end Machine

end ChatFlow

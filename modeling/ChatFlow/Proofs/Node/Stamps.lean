import ChatFlow.Proofs.Node.Rounds
import ChatFlow.Proofs.Value.Places

/-!
# The time of the last message

A node that takes the time of the last message reads a time stamp in a variable, and stores a text
that is no time stamp itself. If its own variable is the one of the stamp, or lies in it, then the
stamp is gone after one visit: the next visit finds a text with a date in it, or an object, and
takes the time of the clock. A node with any other variable leaves the stamp alone, also where
objects are shared, since a text is no object that is written to.

Main statement: `FlowNode.takes_time`, which time each of many visits takes.
-/

namespace ChatFlow

/-! ## Time stamps -/

/-- Decimal digits are digits. -/
theorem all_isDigit_of_mapM {chars : List Char} {digits : List Nat}
    (h : chars.mapM decimalDigit? = some digits) : chars.all isDigit = true := by
  induction chars generalizing digits with
  | nil => rfl
  | cons c rest ih =>
    rw [List.mapM_cons] at h
    obtain ⟨digit, hdigit, hlater⟩ := Option.bind_eq_some_iff.1 h
    obtain ⟨later, hrest, -⟩ := Option.bind_eq_some_iff.1 hlater
    rw [List.all_cons, ih hrest, isDigit, hdigit]
    rfl

/-- A text that names a number has digits only. -/
theorem isDigits_of_decimalNat? {text : String} {n : Nat} (h : decimalNat? text = some n) :
    isDigits text = true := by
  unfold decimalNat? at h
  split at h
  · cases h
  · next hne =>
    obtain ⟨digits, hdigits, -⟩ := Option.map_eq_some_iff.1 h
    rw [isDigits, all_isDigit_of_mapM hdigits]
    simpa using hne

/-- A text with another character in it than digits is no time stamp. -/
theorem isDigits_of_mem {text : String} {c : Char} (hmem : c ∈ text.toList)
    (hc : isDigit c = false) : isDigits text = false := by
  refine Bool.eq_false_iff.2 fun hdigits => ?_
  unfold isDigits at hdigits
  obtain ⟨-, hall⟩ := Bool.and_eq_true_iff.1 hdigits
  exact absurd (List.all_eq_true.1 hall c hmem) (by rw [hc]; exact Bool.false_ne_true)

/-- The text of a time has a letter between date and time. -/
theorem ZonedMoment.isDigits_isoText (time : ZonedMoment) : isDigits time.isoText = false := by
  refine isDigits_of_mem (c := 'T') ?_ (by decide)
  simp [ZonedMoment.isoText, Moment.isoText]

/-- The text of an object has braces. -/
theorem Value.isDigits_toText_object (fields : Object) :
    isDigits (Value.object fields).toText = false := by
  refine isDigits_of_mem (c := '\x7b') ?_ (by decide)
  simp [Value.toText, Value.toJson]

/-- A text of decimal digits tells a time, if there is such a time. -/
theorem timeOfStamp?_ok {stamp : String} {seconds : Nat} {moment : Moment}
    (hseconds : decimalNat? stamp = some seconds)
    (hmoment : momentOfTimestamp seconds = .ok moment) :
    timeOfStamp? stamp = .ok (some ⟨moment, some 0⟩) := by
  rw [timeOfStamp?, if_pos (isDigits_of_decimalNat? hseconds), hseconds]
  dsimp only
  rw [hmoment]
  rfl

/-- Any other text tells none. -/
theorem timeOfStamp?_none {text : String} (h : isDigits text = false) :
    timeOfStamp? text = .ok none := by
  rw [timeOfStamp?, if_neg (by rw [h]; exact Bool.false_ne_true)]

/-! ## Visits -/

/-- A time is taken by storing and noting its text. -/
def Scene.taking (scene : Scene) (variableName : String) (time : ZonedMoment) :
    Except Failure NodeResult × Scene :=
  (.ok ⟨.leave none, [(variableName, .text time.isoText)]⟩,
    { scene with env := scene.env.write variableName (.text time.isoText) })

/-- A visit takes the time of the stamp, or the one of the clock if the stamp tells none. -/
theorem run_takeTimestamp {scene : Scene} {time? : Option ZonedMoment}
    (h : timeOfStamp? (scene.env.vars.get timestampVariable).toText = .ok time?)
    (variableName : String) :
    (takeTimestamp variableName).run.run scene =
      scene.taking variableName (time?.getD scene.outside.clock.seen) := by
  unfold takeTimestamp
  rw [Act.run_bind, Act.run_vars]
  dsimp only
  rw [Act.run_bind, Act.run_lift, h]
  cases time? <;> rfl

/-- Whether a visit finds the stamp. The first visit does, and so do later ones if the variable that
is assigned is another one than that of the stamp, and not in it. -/
def FindsStamp (variableName : String) (k : Nat) : Prop :=
  k = 0 ∨ firstSegment variableName ≠ timestampVariable

instance (variableName : String) (k : Nat) : Decidable (FindsStamp variableName k) :=
  inferInstanceAs (Decidable (_ ∨ _))

/-- The time that a visit takes: that of the stamp if it finds the stamp, and else what the clock
shows. -/
def timeTaken (variableName : String) (moment : Moment) (k : Nat) (clock : Clock) : ZonedMoment :=
  if FindsStamp variableName k then ⟨moment, some 0⟩ else clock.seen

/-- The variable of the stamp as a visit finds it: the stamp is there, or something else that is no
stamp. -/
structure StampsAt (variableName stamp : String) (k : Nat) (vars : Object) : Prop where
  kept : FindsStamp variableName k → vars.field? timestampVariable = some (.text stamp)
  lost : ¬ FindsStamp variableName k →
    ∃ found, vars.field? timestampVariable = some found ∧ isDigits found.toText = false

namespace StampsAt

variable {variableName stamp : String} {k : Nat} {vars after : Object}

/-- What a visit finds depends on the variable of the stamp only. -/
theorem congr (h : StampsAt variableName stamp k vars)
    (hsame : after.field? timestampVariable = vars.field? timestampVariable) :
    StampsAt variableName stamp k after where
  kept := fun hfinds => hsame.trans (h.kept hfinds)
  lost := fun hlost => hsame ▸ h.lost hlost

/-- What a visit finds, it takes the time from. -/
theorem run_takeTimestamp {scene : Scene} (h : StampsAt variableName stamp k scene.env.vars)
    {seconds : Nat} {moment : Moment} (hseconds : decimalNat? stamp = some seconds)
    (hmoment : momentOfTimestamp seconds = .ok moment) :
    (takeTimestamp variableName).run.run scene =
      scene.taking variableName (timeTaken variableName moment k scene.outside.clock) := by
  unfold timeTaken
  split
  · next hfinds =>
    have htime : timeOfStamp? (scene.env.vars.get timestampVariable).toText =
        .ok (some ⟨moment, some 0⟩) := by
      rw [Object.get, h.kept hfinds]
      exact timeOfStamp?_ok hseconds hmoment
    exact ChatFlow.run_takeTimestamp htime variableName
  · next hfinds =>
    obtain ⟨found, hfound, hdigits⟩ := h.lost hfinds
    have htime : timeOfStamp? (scene.env.vars.get timestampVariable).toText = .ok none := by
      rw [Object.get, hfound]
      exact timeOfStamp?_none hdigits
    exact ChatFlow.run_takeTimestamp htime variableName

/-- **A visit leaves what the next one finds**: the stamp where it assigns another variable, and
otherwise the text of a time, or an object in which the text is. -/
theorem write {env : Env} (h : StampsAt variableName stamp k env.vars) (hrooted : env.IsRooted)
    (time : ZonedMoment) :
    StampsAt variableName stamp (k + 1) (env.write variableName (.text time.isoText)).vars := by
  obtain ⟨rest, hpath, -⟩ := Path.ofText_spec variableName
  rw [Env.write, hpath]
  constructor
  · rintro (hzero | hfirst)
    · cases hzero
    · exact hrooted.text_assign hfirst (h.kept (.inr hfirst)) rest _ none
  · intro hlost
    rw [not_not.1 (not_or.1 hlost).2]
    cases rest with
    | nil => exact ⟨_, hrooted.field?_put_self _ _, time.isDigits_isoText⟩
    | cons next rest =>
      obtain ⟨fields, hobject⟩ := hrooted.object_assign next rest (.text time.isoText) none
      exact ⟨_, hobject, Value.isDigits_toText_object fields⟩

end StampsAt

/-- **Which time each visit takes.** Let a node that takes the time of the last message be visited
again and again, first with a stamp of decimal digits that names a moment. Between visits anything
may change but the variable of the stamp, and the clock may show what it likes. The first visit
stores the text of this moment in the prime meridian's time; and so does every later one, unless the
node's variable is the one of the stamp, or in it: then it stores what the clock shows. What a visit
stores is read in the node's variable, if the objects on the way to it are found nowhere else. -/
theorem FlowNode.takes_time {node : FlowNode} {variableName : String}
    (hc : node.configured? = some (.messageTimestamp variableName)) (recipient : Recipient)
    (visit : Nat → Scene) {stamp : String} {seconds : Nat} {moment : Moment}
    (hstamp : (visit 0).env.vars.field? timestampVariable = some (.text stamp))
    (hseconds : decimalNat? stamp = some seconds) (hmoment : momentOfTimestamp seconds = .ok moment)
    (k : Nat) (hrooted : ∀ j ≤ k, (visit j).env.IsRooted)
    (hkeeps : ∀ j < k, (visit (j + 1)).env.vars.field? timestampVariable =
      ((node.act recipient).run.run (visit j)).2.env.vars.field? timestampVariable) :
    let text := Value.text (timeTaken variableName moment k (visit k).outside.clock).isoText
    let after := (visit k).env.write variableName text
    (node.act recipient).run.run (visit k) =
        (.ok ⟨.leave none, [(variableName, text)]⟩, { visit k with env := after }) ∧
      (variableName ≠ "" → (visit k).env.Owns (Path.ofText variableName) →
        after.vars.read? variableName = .ok (some text)) := by
  intro text after
  have hact : node.act recipient = takeTimestamp variableName := act_of_configured recipient hc
  have hstamps : ∀ j ≤ k, StampsAt variableName stamp j (visit j).env.vars := by
    intro j hj
    induction j with
    | zero => exact ⟨fun _ => hstamp, fun hlost => absurd (.inl rfl) hlost⟩
    | succ j ih =>
      have hbefore := ih (Nat.le_of_succ_le hj)
      have hkept := hkeeps j hj
      rw [hact, hbefore.run_takeTimestamp hseconds hmoment] at hkept
      exact (hbefore.write (hrooted j (Nat.le_of_succ_le hj)) _).congr hkept
  rw [hact]
  refine ⟨(hstamps k (Nat.le_refl k)).run_takeTimestamp hseconds hmoment, fun hne hown => ?_⟩
  exact Object.read?_of_at? hne
    (hown.isWritten_assign (Path.ofText_ne_nil variableName) text none).found

/-! ## Two visits -/

/-- A node that takes the time of the last message. -/
def timeNode (config : Value) : FlowNode := ⟨"t", "getMessageTimestamp", config⟩

/-- A scene with the time stamp of a message, long after the time that the clock shows. -/
def stampScene : Scene :=
  { bareScene with env := .ofVariables [(timestampVariable, .text "1700000000")] }

/-- The moment of the stamp. -/
def stampMoment : Moment := ⟨1700000000000000⟩

theorem isRooted_stampScene : stampScene.env.IsRooted :=
  Env.not_isShared_of_nil rfl []

theorem decimalNat?_stamp : decimalNat? "1700000000" = some 1700000000 := by cbv

theorem momentOfTimestamp_stamp : momentOfTimestamp 1700000000 = .ok stampMoment := by rfl

/-- What a visit finds if nothing else happens between the visits. -/
theorem stampsAt_visits (variableName : String) (k : Nat) :
    ((takeTimestamp variableName).visits stampScene k).outside = stampScene.outside ∧
      ((takeTimestamp variableName).visits stampScene k).env.IsRooted ∧
      StampsAt variableName "1700000000" k
        ((takeTimestamp variableName).visits stampScene k).env.vars := by
  induction k with
  | zero =>
    exact ⟨rfl, isRooted_stampScene, fun _ => rfl, fun hlost => absurd (.inl rfl) hlost⟩
  | succ k ih =>
    obtain ⟨houtside, hrooted, hstamps⟩ := ih
    rw [Act.visits, hstamps.run_takeTimestamp decimalNat?_stamp momentOfTimestamp_stamp]
    exact ⟨houtside, hrooted.assign (Path.ofText_ne_nil variableName) (by simp),
      hstamps.write hrooted _⟩

/-- A node that stores the time of the last message below a variable stores it in its second visit
too. -/
theorem FlowNode.takes_time_twice :
    let act := (timeNode (.object [("variableName", .text "received.at")])).act someRecipient
    (act.run.run (act.visits stampScene 1)).1 =
      .ok ⟨.leave none, [("received.at", .text "2023-11-14T22:13:20+00:00")]⟩ := by
  intro act
  have hc : (timeNode (.object [("variableName", .text "received.at")])).configured? =
      some (.messageTimestamp "received.at") := by rfl
  have hact : act = takeTimestamp "received.at" := act_of_configured someRecipient hc
  have hrooted : ∀ j ≤ 1, (act.visits stampScene j).env.IsRooted :=
    fun j _ => hact ▸ (stampsAt_visits "received.at" j).2.1
  have hvisit := takes_time hc someRecipient (act.visits stampScene) rfl decimalNat?_stamp
    momentOfTimestamp_stamp 1 hrooted fun _ _ => rfl
  have hfinds : FindsStamp "received.at" 1 := .inr (by cbv)
  have htext : ∀ clock, (timeTaken "received.at" stampMoment 1 clock).isoText =
      "2023-11-14T22:13:20+00:00" := by
    intro clock
    rw [timeTaken, if_pos hfinds]
    cbv
  rw [hvisit.1, htext]

/-- **A stamp that is lost**: the node as it is configured by default stores the time of the last
message in its first visit, and what the clock shows in its second. -/
theorem FlowNode.loses_stamp :
    let act := (timeNode (.object [])).act someRecipient
    (timeNode (.object [])).configured? = some (.messageTimestamp timestampVariable) ∧
      (act.run.run stampScene).1 =
        .ok ⟨.leave none, [(timestampVariable, .text "2023-11-14T22:13:20+00:00")]⟩ ∧
      (act.run.run (act.visits stampScene 1)).1 =
        .ok ⟨.leave none, [(timestampVariable, .text "1970-01-01T00:00:00")]⟩ := by
  intro act
  have hc : (timeNode (.object [])).configured? = some (.messageTimestamp timestampVariable) := by
    rfl
  have hact : act = takeTimestamp timestampVariable := act_of_configured someRecipient hc
  have hrun : ∀ k, (act.run.run (act.visits stampScene k)).1 =
      .ok ⟨.leave none, [(timestampVariable, .text
        (timeTaken timestampVariable stampMoment k stampScene.outside.clock).isoText)]⟩ := by
    intro k
    obtain ⟨houtside, -, hstamps⟩ := stampsAt_visits timestampVariable k
    rw [hact, hstamps.run_takeTimestamp decimalNat?_stamp momentOfTimestamp_stamp, houtside]
    rfl
  have hlost : ¬ FindsStamp timestampVariable 1 := by
    rintro (hzero | hother)
    · cases hzero
    · exact hother (by cbv)
  have hfirst : (timeTaken timestampVariable stampMoment 0 stampScene.outside.clock).isoText =
      "2023-11-14T22:13:20+00:00" := by cbv
  have hsecond : (timeTaken timestampVariable stampMoment 1 stampScene.outside.clock).isoText =
      "1970-01-01T00:00:00" := by
    rw [timeTaken, if_neg hlost]
    cbv
  exact ⟨hc, hfirst ▸ hrun 0, hsecond ▸ hrun 1⟩

end ChatFlow

import StoryGraph.Proofs.Engine.Order

/-!
A running engine does not stand still. Main statements: a loop that has not ended can always make a step of its own, at
once or when the command in work is due; it begins a command that waits after a number of its own steps that depends
only on how many wait, whatever callers do meanwhile; and once nothing is in work and nothing waits, everybody has been
answered.
-/

namespace StoryGraph

namespace Actor

theorem one_le_capacity (a : Actor) : 1 ≤ a.capacity := Nat.le_max_right _ _

/-- Nobody stands in line as long as there is a place in the queue. -/
def InLine (a : Actor) : Prop := a.line = [] ∨ a.capacity ≤ a.queue.length

theorem InLine.of_queue {a : Actor} (h : a.InLine) (empty : a.queue = []) : a.line = [] := by
  refine h.resolve_right fun full => ?_
  have place := a.one_le_capacity
  rw [empty, List.length_nil] at full
  omega

theorem InLine.waiting {a : Actor} (h : a.InLine) (empty : a.queue = []) : a.waiting = [] := by
  rw [Actor.waiting, empty, h.of_queue empty]
  rfl

theorem InLine.enter {a : Actor} (h : a.InLine) (m : Message) : (a.enter m).InLine := by
  rw [Actor.enter]
  split
  case isTrue place =>
    simp only [Bool.and_eq_true, List.isEmpty_iff] at place
    exact .inl place.2
  case isFalse full =>
    refine .inr ?_
    simp only [Bool.and_eq_true, decide_eq_true_eq, List.isEmpty_iff, not_and] at full
    show a.capacity ≤ a.queue.length
    cases h with
    | inl none => exact Nat.le_of_not_lt fun place => full place none
    | inr full => exact full

theorem InLine.take {a : Actor} {m : Message} {rest : List Message} (h : a.InLine) (next : a.queue = m :: rest) :
    (a.take rest).InLine := by
  cases line : a.line with
  | nil => exact .inl (by rw [Actor.take, line, List.drop_nil])
  | cons first others =>
    refine .inr ?_
    have full : a.capacity ≤ a.queue.length := h.resolve_left (by simp [line])
    have length : (a.take rest).queue.length = a.queue.length := by simp [Actor.take, line, next]
    rw [length]
    exact full

end Actor

namespace Loop

variable {s : Surroundings} {r : Run} {deeds before after : List Deed} {x y : Loop} {d : Deed}
  {done : List (Nat × Job)}

theorem Step.inLine (h : x.actor.InLine) (step : Step x d y) : y.actor.InLine := by
  cases step with
  | sent alive =>
    rw [Actor.submit_of_alive alive]
    exact h.enter _
  | refused dead =>
    rw [Actor.submit_of_stopped dead]
    exact h
  | raised down =>
    rw [Actor.raise_eq down]
    exact h
  | toldToStop => exact h.enter .stop
  | abandoned | waited | looked | parked | ended => exact h
  | began next => exact h.take next
  | sawFlag | tookWord | leftAlone => exact .inl rfl

theorem Steps.inLine (h : Steps (spawn s r) deeds x) : x.actor.InLine := by
  induction h with
  | nil => exact .inl rfl
  | snoc _ step ih => exact step.inLine ih

/-- A loop that has not ended can go on by itself: it is never stuck, whatever has come before. -/
theorem Progress.moves (h : Progress s r deeds x done) (alive : x.actor.state ≠ .stopped) :
    ∃ t y d z, Step x (.waited t) y ∧ d.isOwn = true ∧ Step y d z := by
  obtain ⟨a, ready⟩ := x
  cases work : a.work with
  | some w =>
    refine ⟨w.result.now, _, .ended w.job, _, .waited (h.due w work) fun v held => ?_, rfl, .ended work rfl⟩
    obtain rfl := Option.some.inj (work.symm.trans held)
    exact Nat.le_refl _
  | none =>
    have now : Step ⟨a, ready⟩ (.waited a.clock) ⟨a, ready⟩ :=
      .waited (Nat.le_refl _) fun v held => absurd (work.symm.trans held) (by simp)
    refine ⟨a.clock, ⟨a, ready⟩, ?_⟩
    cases ready with
    | false =>
      cases told : a.isTold with
      | false => exact ⟨.looked, _, now, rfl, .looked alive work told⟩
      | true => exact ⟨.halted .flag, _, now, rfl, .sawFlag alive work told⟩
    | true =>
      cases queue : a.queue with
      | nil =>
        cases alone : a.abandoned with
        | false => exact ⟨.parked, _, now, rfl, .parked queue alone⟩
        | true => exact ⟨.halted .abandoned, _, now, rfl, .leftAlone queue alone⟩
      | cons m rest =>
        cases m with
        | job j => exact ⟨.began a.clock j, _, now, rfl, .began queue⟩
        | stop => exact ⟨.halted .word, _, now, rfl, .tookWord queue⟩

/-! Each command takes three steps of the loop: it looks at the flag, begins the command, and ends it. -/

/-- How many of the three steps are made. -/
def phase (x : Loop) : Nat := if x.actor.work.isSome then 2 else x.ready.toNat

theorem Progress.turn (h : Progress s r deeds x done) (step : Step x d y) (lasts : y.actor.state ≠ .stopped)
    (goesOn : d ≠ .parked) : turns [d] + x.phase = 3 * (Loop.ended [d]).length + y.phase := by
  cases step with
  | @sent a ready j alive =>
    obtain ⟨queue, line, here⟩ := a.exists_enter (.job j)
    rw [Actor.submit_of_alive alive, here]
    rfl
  | refused dead => exact absurd (by rw [Actor.submit_of_stopped dead]; exact dead) lasts
  | raised down => simp [Actor.raise_eq down, phase, turns, Loop.ended, Deed.isOwn]
  | @toldToStop a =>
    obtain ⟨queue, line, here⟩ := a.exists_enter .stop
    rw [here]
    rfl
  | abandoned | waited => rfl
  | looked alive idle => simp [phase, idle, turns, Loop.ended, Deed.isOwn]
  | parked => exact absurd rfl goesOn
  | began =>
    have idle := (h.ready rfl).1
    simp only at idle
    simp [phase, idle, Actor.hold, turns, Loop.ended, Deed.isOwn]
  | @ended a ready w work =>
    have still : ready = false := Bool.eq_false_iff.2 fun ready =>
      absurd ((h.ready ready).1.symm.trans work) (by simp)
    simp [phase, work, still, Actor.complete, turns, Loop.ended, Deed.isOwn]
  | sawFlag | tookWord | leftAlone => exact absurd rfl lasts

/-- Nothing is begun once the loop has ended. -/
theorem Steps.began_of_stopped (h : Steps x after y) (dead : x.actor.state = .stopped) (away : x.ready = false) :
    began after = [] ∧ y.actor.state = .stopped ∧ y.ready = false := by
  induction h with
  | nil => exact ⟨rfl, dead, away⟩
  | snoc _ step ih =>
    obtain ⟨none, dead, away⟩ := ih
    rw [began_append, none]
    cases step with
    | sent alive | toldToStop alive | looked alive | sawFlag alive => exact absurd dead alive
    | parked | began | tookWord | leftAlone => cases away
    | refused =>
      rw [Actor.submit_of_stopped dead]
      exact ⟨rfl, dead, away⟩
    | raised down =>
      rw [Actor.raise_eq down]
      exact ⟨rfl, dead, away⟩
    | abandoned | waited | ended => exact ⟨rfl, dead, away⟩

/-- Where the loop has parked meanwhile, it has left nothing in the queue. -/
theorem Steps.counted (untold : s.shutdownAt = none) (first : Steps (spawn s r) before x) (later : Steps x after y) :
    y.actor.state = .stopped ∨ sent before <+: (began (before ++ after)).map Prod.snd ∨
      turns after + x.phase = 3 * (ended after).length + y.phase := by
  induction later with
  | nil => exact .inr (.inr (by simp [turns, ended]))
  | @snoc after y d z steps step ih =>
    have reached := first.append steps
    obtain ⟨done, invariant⟩ := reached.invariant untold
    obtain stopped | all | count := ih
    · have away : y.ready = false := Bool.eq_false_iff.2 fun ready => (invariant.progress.ready ready).2 stopped
      exact .inl ((Steps.single step).began_of_stopped stopped away).2.1
    · refine .inr (.inl (all.trans ?_))
      rw [← List.append_assoc, began_append (before ++ after), List.map_append]
      exact List.prefix_append _ _
    · by_cases stopped : z.actor.state = .stopped
      · exact .inl stopped
      by_cases parked : d = .parked
      · subst parked
        cases step with
        | @parked a empty awaited =>
          have none : a.waiting = [] := reached.inLine.waiting empty
          have order := (invariant.order.alive (invariant.progress.ready rfl).2).1
          refine .inr (.inl ?_)
          rw [← List.append_assoc, began_append (before ++ after), List.map_append]
          have all : sent (before ++ after) = (began (before ++ after)).map Prod.snd := by
            rw [order, none, List.append_nil]
          rw [← all, sent_append]
          exact (List.prefix_append _ _).trans (List.prefix_append _ _)
      · refine .inr (.inr ?_)
        have turn := invariant.progress.turn step stopped parked
        rw [turns_append, ended_append, List.length_append]
        omega

/-- Commands that wait are begun within three steps of the loop for each, whatever else happens; if not, the loop has
ended. -/
theorem Steps.dealt (untold : s.shutdownAt = none) (first : Steps (spawn s r) before x) (later : Steps x after y)
    (enough : 3 * x.actor.waiting.length ≤ turns after) :
    y.actor.state = .stopped ∨ sent before <+: (began (before ++ after)).map Prod.snd := by
  obtain stopped | all | count := first.counted untold later
  · exact .inl stopped
  · exact .inr all
  by_cases stopped : y.actor.state = .stopped
  · exact .inl stopped
  refine .inr ?_
  obtain ⟨done, here⟩ := first.invariant untold
  obtain ⟨done', there⟩ := (first.append later).invariant untold
  have alive : x.actor.state ≠ .stopped := fun dead => by
    have away : x.ready = false := Bool.eq_false_iff.2 fun ready => (here.progress.ready ready).2 dead
    exact stopped (later.began_of_stopped dead away).2.1
  have ordered : sent before <+: sent (before ++ after) := by
    rw [sent_append]
    exact List.prefix_append _ _
  refine List.prefix_of_prefix_length_le ordered there.order.fifo (Nat.le_of_not_lt fun fewer => ?_)
  have waiting := congrArg List.length (here.order.alive alive).1
  have whole := congrArg List.length here.progress.whole
  have whole' := congrArg List.length there.progress.whole
  have one : (x.actor.work.map Work.job).toList.length ≤ 1 := by
    cases x.actor.work <;> simp
  have first : 2 * (x.actor.work.map Work.job).toList.length ≤ x.phase := by
    cases work : x.actor.work <;> simp [phase, work]
  have last : y.phase ≤ (y.actor.work.map Work.job).toList.length + 1 := by
    have one := y.ready.toNat_le
    cases work : y.actor.work <;> simp [phase, work, one]
  simp only [List.length_map, List.length_append, began_append, ended_append] at waiting whole whole' fewer
  omega

/-- Nobody is left without an answer when nothing is in work and nothing waits. -/
theorem Invariant.tickets (h : Invariant s r deeds x done) (idle : x.actor.work = none)
    (drained : x.actor.state = .stopped ∨ x.actor.waiting = []) :
    x.actor.answers.map Prod.fst = (sent deeds ++ refused deeds).map Job.ticket := by
  have begun := h.progress.of_idle idle
  have served := Progress.tickets_answered x.actor.surroundings r done
  have declined (e : EngineError) (jobs : List Job) : (declined e jobs).map Prod.fst = jobs.map Job.ticket :=
    List.map_map
  by_cases stopped : x.actor.state = .stopped
  · obtain ⟨queued, inLine, order, answers⟩ := h.order.halted stopped
    simp only [order, answers, begun, served, declined, List.map_append, List.map_map, List.append_assoc]
    rfl
  · obtain ⟨order, none, answers⟩ := h.order.alive stopped
    have waits : x.actor.waiting = [] := drained.resolve_left stopped
    rw [order, none, answers, served, begun, waits, List.append_nil, List.append_nil, List.map_map]
    rfl

end Loop

/-! Letting an engine do what is due. -/

namespace Actor

/-- The engine has stopped, or is at work, or has nothing to do and somebody may still come. -/
def Settled (a : Actor) : Prop :=
  a.state = .stopped ∨ a.work.isSome ∨ a.queue = [] ∧ a.abandoned = false ∧ a.isTold = false

theorem settled_settle (a : Actor) : a.settle.Settled := by
  fun_induction settle a with
  | case1 a stopped => exact .inl stopped
  | case2 a w busy => exact .inr (.inl (by rw [busy]; rfl))
  | case3 | case4 | case6 => exact .inl rfl
  | case5 a idle down empty awaited => exact .inr (.inr ⟨empty, Bool.eq_false_iff.2 awaited, Bool.eq_false_iff.2 down⟩)
  | case7 a idle down j rest next w now alive ih => exact ih
  | case8 => exact .inr (.inl rfl)

/-- Waiting ends when it has what it waits for, or when nothing is in work. -/
theorem settled_waitUntil {a : Actor} (settled : a.Settled) (holds : Actor → Bool) :
    (a.waitUntil holds).Settled ∧ (holds (a.waitUntil holds) = true ∨ (a.waitUntil holds).work = none) := by
  fun_induction waitUntil holds a with
  | case1 a there => exact ⟨settled, .inl there⟩
  | case2 a _ w work ih => exact ih (settled_settle _)
  | case3 a _ idle => exact ⟨settled, .inr idle⟩

end Actor

end StoryGraph

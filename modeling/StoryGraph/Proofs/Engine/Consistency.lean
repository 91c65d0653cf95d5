import StoryGraph.Proofs.Engine.Uses
import StoryGraph.Proofs.Walk.Alone

/-!
A running engine against requests that are made one after the other. Main statement: whatever callers do and
whenever the flag goes up, the engine has begun a first part of the commands that it was sent, in order and one
at a time; what it has come to, and what it has answered, is what comes of the same requests made one after the
other, with the flag going up at the same moment; the commands that are left are turned away; and no command is left
waiting for ever.
-/

namespace StoryGraph

/-- What happened before an earlier instant is the same if all is the same before a later one. -/
theorem Run.before_mono {r r' : Run} {t t' : Nat} (le : t ≤ t') (h : r.before t' = r'.before t') :
    r.before t = r'.before t := by
  have part {α : Type} (l : List (Nat × α)) : (l.filter fun e => decide (e.1 < t)) =
      (l.filter fun e => decide (e.1 < t')).filter fun e => decide (e.1 < t) := by
    rw [List.filter_filter]
    refine List.filter_congr fun e _ => ?_
    rw [← Bool.decide_and]
    exact decide_eq_decide.2 (by omega)
  obtain ⟨events, logs⟩ := Prod.mk.inj h
  rw [before, before, part r.events, part r.logs, events, logs, ← part, ← part]

namespace Loop

variable {s : Surroundings} {r : Run} {deeds before after : List Deed} {x y z : Loop} {d : Deed}
  {done : List (Nat × Job)}

theorem Steps.split (h : Steps x (before ++ after) z) : ∃ y, Steps x before y ∧ Steps y after z := by
  generalize all : before ++ after = deeds at h
  induction h generalizing after with
  | nil =>
    obtain ⟨rfl, rfl⟩ := List.append_eq_nil_iff.1 all
    exact ⟨x, .nil, .nil⟩
  | @snoc deeds y d z steps step ih =>
    cases after.eq_nil_or_concat with
    | inl none =>
      subst none
      rw [List.append_nil] at all
      subst all
      exact ⟨z, .snoc steps step, .nil⟩
    | inr some =>
      obtain ⟨init, last, rfl⟩ := some
      rw [List.concat_eq_append, ← List.append_assoc] at all
      obtain ⟨rfl, same⟩ := List.append_inj' all rfl
      obtain rfl := List.singleton_inj.1 same
      obtain ⟨y', first, later⟩ := ih rfl
      rw [List.concat_eq_append]
      exact ⟨y', first, .snoc later step⟩

theorem Steps.eq_of_nil (h : Steps x [] y) : y = x := by
  generalize none : [] = deeds at h
  cases h with
  | nil => rfl
  | snoc => simp at none

theorem Steps.head (h : Steps x (d :: after) z) : ∃ y, Step x d y ∧ Steps y after z := by
  have h : Steps x ([d] ++ after) z := h
  obtain ⟨y, first, later⟩ := h.split
  generalize one : [d] = deeds at first
  cases first with
  | nil => cases one
  | @snoc deeds u d' _ steps step =>
    obtain ⟨rfl, same⟩ := List.append_inj' ((List.nil_append [d]).trans one) rfl
    obtain rfl := List.singleton_inj.1 same
    rw [steps.eq_of_nil] at step
    exact ⟨y, step, later⟩

/-- Once the flag is up a command is begun only if the loop has looked before, and none after that. -/
theorem Steps.began_of_isTold (h : Steps x after y) (up : x.actor.isTold = true) :
    (began after).length + y.ready.toNat ≤ x.ready.toNat ∧ y.actor.isTold = true := by
  induction h with
  | nil => exact ⟨Nat.le_of_eq (Nat.zero_add _), up⟩
  | snoc _ step ih =>
    obtain ⟨few, up⟩ := ih
    rw [began_append, List.length_append]
    cases step with
    | raised down | looked alive idle down => exact absurd (up.symm.trans down) (by simp)
    | @sent a ready j alive =>
      obtain ⟨queue, line, here⟩ := a.exists_enter (.job j)
      rw [Actor.submit_of_alive alive, here]
      exact ⟨few, up⟩
    | refused dead =>
      rw [Actor.submit_of_stopped dead]
      exact ⟨few, up⟩
    | @toldToStop a ready alive =>
      obtain ⟨queue, line, here⟩ := a.exists_enter .stop
      rw [here]
      exact ⟨few, up⟩
    | abandoned | waited | ended | sawFlag => exact ⟨few, up⟩
    | parked | tookWord | leftAlone => exact ⟨Nat.le_of_succ_le few, up⟩
    | began => exact ⟨few, up⟩

/-- What has been sent and logged before now is never taken back, whatever happens next. -/
theorem Progress.kept (h : Progress s r deeds x done) (step : Step x d y) :
    x.actor.clock ≤ y.actor.clock ∧
      y.actor.lastRun.before x.actor.clock = x.actor.lastRun.before x.actor.clock := by
  cases step with
  | @sent a ready j alive =>
    obtain ⟨queue, line, here⟩ := a.exists_enter (.job j)
    rw [Actor.submit_of_alive alive, here]
    exact ⟨Nat.le_refl _, rfl⟩
  | refused dead =>
    rw [Actor.submit_of_stopped dead]
    exact ⟨Nat.le_refl _, rfl⟩
  | @toldToStop a ready alive =>
    obtain ⟨queue, line, here⟩ := a.exists_enter .stop
    rw [here]
    exact ⟨Nat.le_refl _, rfl⟩
  | abandoned | looked | parked | sawFlag | tookWord | leftAlone => exact ⟨Nat.le_refl _, rfl⟩
  | waited later => exact ⟨later, rfl⟩
  | @raised a ready k down early late =>
    rw [Actor.raise_eq down]
    refine ⟨Nat.le_refl _, ?_⟩
    cases work : a.work with
    | none => simp only [Actor.lastRun, work, Option.map_none]
    | some w =>
      obtain ⟨u, -, here⟩ := h.of_busy work
      have start : w.start = a.run.resume u := congrArg Work.start here
      have result : (w.job.command.perform a.surroundings w.start).2 = w.result := by
        rw [start]
        exact (congrArg Work.result here).symm
      simp only [Actor.lastRun, work, Option.map_some, Actor.revise_eq, Surroundings.work]
      cases Surroundings.perform_agrees (s := a.surroundings) (o := some ⟨a.clock, k⟩) w.job.command w.start with
      | inl same => rw [same, result]
      | inr parted => rw [parted.before_eq (Actor.shutdownAt_of_isTold down), result]
  | @began a j rest next =>
    have idle : a.work = none := (h.ready rfl).1
    refine ⟨Nat.le_refl _, ?_⟩
    simp only [Actor.lastRun, Actor.hold, idle, Actor.begin_eq, Surroundings.work]
    exact (a.surroundings.perform_onward j.command (a.run.resume a.clock)).before_eq (Nat.le_refl _)
  | @ended a ready w work due =>
    refine ⟨Nat.le_of_eq due.symm, ?_⟩
    simp only [Actor.lastRun, Actor.complete, work]

theorem Steps.kept (untold : s.shutdownAt = none) (first : Steps (spawn s r) before x) (later : Steps x after y) :
    x.actor.clock ≤ y.actor.clock ∧
      y.actor.lastRun.before x.actor.clock = x.actor.lastRun.before x.actor.clock := by
  induction later with
  | nil => exact ⟨Nat.le_refl _, rfl⟩
  | snoc steps step ih =>
    obtain ⟨done, invariant⟩ := (first.append steps).invariant untold
    obtain ⟨le, same⟩ := invariant.progress.kept step
    exact ⟨Nat.le_trans ih.1 le, (Run.before_mono ih.1 same).trans ih.2⟩

/-- An engine after a history, against requests that are made one after the other. -/
structure Consistent (s : Surroundings) (r : Run) (deeds : List Deed) (x : Loop) : Prop where
  /-- What is begun comes first among what was sent, in the same order. -/
  fifo : (began deeds).map Prod.snd <+: sent deeds
  /-- All of it is carried out but for the command in work. -/
  whole : (began deeds).map Prod.snd = ended deeds ++ (x.actor.work.map Work.job).toList
  /-- A command is begun when all before it are carried out. -/
  serial : ∀ before t j after, deeds = before ++ .began t j :: after →
    ended before = (began before).map Prod.snd
  /-- The world, and what the host was sent, are those of the requests one after the other. -/
  run : x.actor.lastRun = ((s.told (raised deeds)).serve (requests (began deeds)) r).2
  /-- What has been sent and logged is never taken back. -/
  kept : ∀ before after y, deeds = before ++ after → Steps (spawn s r) before y → Steps y after x →
    x.actor.lastRun.before y.actor.clock = y.actor.lastRun.before y.actor.clock
  /-- As long as the engine runs, the commands that are not begun wait, and those that are carried out are
  answered as the requests are. -/
  alive : x.actor.state ≠ .stopped → sent deeds = (began deeds).map Prod.snd ++ x.actor.waiting ∧
    refused deeds = [] ∧ x.actor.answers = List.zipWith (fun j reply => (j.ticket, .ok reply)) (ended deeds)
      ((s.told (raised deeds)).serve (requests (began deeds)) r).1
  /-- When it has stopped, nothing is in work, and the other commands are turned away. -/
  halted : x.actor.state = .stopped → x.actor.work = none ∧ ∃ queued inLine,
    sent deeds = (began deeds).map Prod.snd ++ (queued ++ inLine) ∧
      x.actor.answers = List.zipWith (fun j reply => (j.ticket, .ok reply)) (ended deeds)
          ((s.told (raised deeds)).serve (requests (began deeds)) r).1 ++
        (declined .channelClosed queued ++ declined .notRunning (inLine ++ refused deeds))
  /-- Nothing is begun once the loop has ended, be it that it has seen the flag. -/
  seen : ∀ before why after, deeds = before ++ .halted why :: after → began after = []
  /-- Once the flag is up, one command may be begun still: the loop may have looked just before. -/
  told : ∀ before m after, deeds = before ++ .raised m :: after → (began after).length ≤ 1
  /-- The requests that only ask make no difference to the world and to what the host is sent. -/
  queries : x.actor.lastRun.resume 0 = ((s.told (raised deeds)).serve
    (requests ((began deeds).filter fun b => !b.2.command.isQuery)) r).2.resume 0
  /-- As long as the engine runs, its loop can go on by itself, at once or when the command in work is due. -/
  moves : x.actor.state ≠ .stopped → ∃ t y d z, Step x (.waited t) y ∧ d.isOwn = true ∧ Step y d z
  /-- A command that waits is begun before the loop has made three steps for each that waits, or the loop has ended:
  callers that come meanwhile cannot put it off. -/
  dealt : ∀ before after y, deeds = before ++ after → Steps (spawn s r) before y → Steps y after x →
    3 * y.actor.waiting.length ≤ turns after →
      x.actor.state = .stopped ∨ sent before <+: (began deeds).map Prod.snd
  /-- When nothing is in work and nothing waits, each command that was brought has one answer. -/
  answered : x.actor.work = none → x.actor.state = .stopped ∨ x.actor.waiting = [] →
    x.actor.answers.map Prod.fst = (sent deeds ++ refused deeds).map Job.ticket

theorem Steps.serial (untold : s.shutdownAt = none) {t : Nat} {j : Job}
    (h : Steps (spawn s r) (before ++ .began t j :: after) x) : ended before = (began before).map Prod.snd := by
  obtain ⟨y, first, later⟩ := h.split
  obtain ⟨done, invariant⟩ := first.invariant untold
  obtain ⟨z, step, -⟩ := later.head
  cases step with
  | began next =>
    rw [invariant.progress.ended, invariant.progress.of_idle (invariant.progress.ready rfl).1]

theorem Steps.seen {why : Halt} (h : Steps (spawn s r) (before ++ .halted why :: after) x) :
    began after = [] := by
  obtain ⟨y, -, later⟩ := h.split
  obtain ⟨z, step, rest⟩ := later.head
  cases step with
  | sawFlag | tookWord | leftAlone => exact (rest.began_of_stopped rfl rfl).1

theorem Steps.told {m : Moment} (h : Steps (spawn s r) (before ++ .raised m :: after) x) :
    (began after).length ≤ 1 := by
  obtain ⟨y, -, later⟩ := h.split
  obtain ⟨z, step, rest⟩ := later.head
  cases step with
  | @raised a ready k down =>
    have up : (a.raise k).isTold = true := by
      rw [Actor.raise_eq down]
      rfl
    have few := (rest.began_of_isTold up).1
    have one := ready.toNat_le
    simp only at few
    omega

theorem Invariant.consistent (untold : s.shutdownAt = none) (h : Steps (spawn s r) deeds x)
    (invariant : Invariant s r deeds x done) : Consistent s r deeds x := by
  have answered := invariant.tickets
  obtain ⟨progress, order⟩ := invariant
  have run := progress.lastRun_eq
  have answers := progress.answered_eq
  rw [progress.surroundings] at run answers order
  rw [answers] at order
  have queries := (Surroundings.serve_without_queries (s := s.told (raised deeds)) (requests (began deeds)) r r rfl).1
  rw [requests, List.filter_map] at queries
  exact {
    fifo := order.fifo
    whole := progress.whole
    run
    serial := fun before t j after all => (all ▸ h).serial untold
    kept := fun before after y _ first later => (first.kept untold later).2
    alive := order.alive
    halted := fun stopped => ⟨progress.halted stopped, order.halted stopped⟩
    seen := fun before why after all => (all ▸ h).seen
    told := fun before m after all => (all ▸ h).told
    queries := by
      rw [run]
      exact queries
    moves := progress.moves
    dealt := fun before after y all first later enough => all ▸ first.dealt untold later enough
    answered }

/-- A running engine is as good as requests that are made one after the other, whatever happens to it; and whatever a
host does with it, it has come to where it is by a history in which the host's commands were brought. Callers that do
not wait for an answer bring the same commands. An engine that is left alone stops, or is at work, or has nothing to do;
whoever waits for an answer gets it, and when the engine is told to shut down it stops and everybody has an answer. -/
theorem running_engine_consistent (s : Surroundings) (untold : s.shutdownAt = none) (r : Run) :
    (∀ deeds x, Steps (spawn s r) deeds x → Consistent s r deeds x) ∧
      (∀ a : Actor, a.settle.Settled) ∧
      ∀ uses : List Use,
        let a := uses.foldl (fun a u => u.apply a) (spawn s r).actor
        let jobs := uses.filterMap Use.job?
        (∃ deeds, Steps (spawn s r) deeds ⟨a, false⟩ ∧ sent deeds ++ refused deeds = jobs) ∧
          a.shutdown.join.state = .stopped ∧
          ∀ j ∈ jobs, ((a.await j.ticket).answer? j.ticket).isSome ∧ (a.join.answer? j.ticket).isSome := by
  refine ⟨fun deeds x h => ?_, Actor.settled_settle, fun uses => ?_⟩
  · obtain ⟨done, invariant⟩ := h.invariant untold
    exact invariant.consistent untold h
  · have reached := reaches_uses untold r uses
    exact ⟨reached, Actor.state_join (Actor.isTold_shutdown _), fun j mem =>
      ⟨reached.await untold mem, reached.join untold mem⟩⟩

/-! A history: the player is paid, a minute is to pass, and the flag goes up in its first second. -/

namespace Errands

/-- A minute in nanoseconds. -/
def minute : Latent := ⟨"rest", Port.exec, 60000000000⟩

def delay : Handler := fun c => { world := c.world, result := .ok { next := .wait minute } }

/-- An engine in which every delay takes a minute, whatever its node says. -/
def engine : Surroundings :=
  { registry := Registry.builtins.register (.flow .delay) delay, library := [], settings := {}, draws := .ofSeed 7 }

def nap : Node := { id := "rest", typeTag := "Flow_Delay" }

def pay : Job := ⟨0, .setProperty "Player" "" "Gold" (.int 5)⟩

def rest : Job := ⟨1, .executeNode nap⟩

def look : Job := ⟨2, .snapshot⟩

def turn : Job := ⟨3, .advanceTurn⟩

def history : List Deed :=
  [.sent pay, .sent rest, .sent look, .looked, .began 0 pay, .ended pay, .looked, .began 0 rest, .waited 1000,
    .raised ⟨1000, 0⟩, .toldToStop, .ended rest, .halted .flag, .refused turn]

def brought : Actor :=
  { surroundings := engine, run := { world := {} }, queue := [.job pay, .job rest, .job look] }

def paid : Actor := ((brought.take [.job rest, .job look]).hold (brought.begin pay)).complete (brought.begin pay)

def resting : Actor := { (paid.take [.job look]).hold (paid.begin rest) with clock := 1000 }

def told : Actor := (resting.raise 0).enter .stop

def woken : Work := (paid.begin rest).revise told.surroundings

def last : Actor := (told.complete woken).stop.submit 3 .advanceTurn

theorem result_rest {s : Surroundings} (registry : s.registry = engine.registry) (settings : s.settings = {})
    (timer : s.timer = Pause.millis) (r : Run) : (s.work rest r).result = (r.pause s 60000).2 := by
  have kind : nap.kind? = some (.flow .delay) := by
    rw [Node.kind?, NodeType.ofTag?_eq]
    decide
  have handler : s.registry.handlerFor nap = some delay := by
    rw [registry, Registry.handlerFor, kind]
    rfl
  have room : 0 < s.settings.maxWalkSteps := by
    rw [settings]
    decide
  have answer : delay (s.callAlone nap r) = { world := r.world, result := .ok { next := .wait minute } } := rfl
  have millis : s.timer minute.nanos = 60000 := by
    rw [timer]
    decide
  have paused := Surroundings.run_single_of_wait handler room answer rfl rfl
  rw [Walk.absorb_answered r rfl, millis] at paused
  exact paused

theorem result_woken : woken.result = { paid.run with now := 1000 } := by
  rw [woken, Actor.begin_eq, Actor.revise_eq]
  exact result_rest (s := told.surroundings) rfl rfl rfl (paid.run.resume paid.clock)

theorem steps : Steps (spawn engine { world := {} }) history ⟨last, false⟩ := by
  have alive {a : Actor} (starting : a.state = .starting) : a.state ≠ .stopped := by simp [starting]
  have brings : Steps (spawn engine { world := {} }) [.sent pay, .sent rest, .sent look] ⟨brought, false⟩ :=
    .cons (.sent (alive rfl)) (.cons (.sent (alive rfl)) (.cons (.sent (alive rfl)) .nil))
  have pays : Steps ⟨brought, false⟩ [.looked, .began 0 pay, .ended pay] ⟨paid, false⟩ := by
    have ended : Step ⟨(brought.take [.job rest, .job look]).hold (brought.begin pay), false⟩ (.ended pay)
        ⟨paid, false⟩ := .ended (w := brought.begin pay) rfl rfl
    exact .cons (.looked (by decide) rfl rfl) (.cons (.began rfl) (.cons ended .nil))
  have rests : Steps ⟨paid, false⟩ [.looked, .began 0 rest, .waited 1000] ⟨resting, false⟩ := by
    have began : Step ⟨paid, true⟩ (.began paid.clock rest) ⟨(paid.take [.job look]).hold (paid.begin rest), false⟩ :=
      .began rfl
    have waited : Step ⟨(paid.take [.job look]).hold (paid.begin rest), false⟩ (.waited 1000) ⟨resting, false⟩ := by
      refine .waited (Nat.zero_le _) fun w held => ?_
      obtain rfl := Option.some.inj held
      have whole := result_rest (s := engine) rfl rfl rfl (paid.run.resume paid.clock)
      rw [Actor.begin_eq]
      exact whole ▸ Nat.le_add_left ..
    exact .cons (.looked (by decide) rfl rfl) (.cons began (.cons waited .nil))
  have shuts : Steps ⟨resting, false⟩ [.raised ⟨1000, 0⟩, .toldToStop] ⟨told, false⟩ := by
    have cut := result_rest (s := { engine with shutdownAt := some ⟨1000, 0⟩ }) rfl rfl rfl (paid.run.resume paid.clock)
    have early : resting.pausesBefore 1000 = 0 := congrArg Run.pauses cut
    exact .cons (.raised rfl (Nat.le_of_eq early) (Nat.zero_le _)) (.cons (.toldToStop (by decide)) .nil)
  have stops : Steps ⟨told, false⟩ [.ended rest, .halted .flag, .refused turn] ⟨last, false⟩ := by
    have ended : Step ⟨told, false⟩ (.ended rest) ⟨told.complete woken, false⟩ :=
      .ended (w := woken) rfl (congrArg Run.now result_woken)
    exact .cons ended (.cons (.sawFlag (by decide) rfl rfl) (.cons (.refused rfl) .nil))
  exact brings.append (pays.append (rests.append (shuts.append stops)))

end Errands

theorem running_engine_consistent_errands :
    let s := Errands.engine
    let r : Run := { world := {} }
    let x : Loop := ⟨Errands.last, false⟩
    let uses : List Use := [.submit 0 Errands.pay.command, .submit 1 Errands.rest.command,
      .submit 2 Errands.look.command, .settle, .advance 1000]
    let a := uses.foldl (fun a u => u.apply a) (spawn s r).actor
    s.shutdownAt = none ∧
      (Steps (spawn s r) Errands.history x ∧ Consistent s r Errands.history x ∧ x.actor.state = .stopped ∧
        x.actor.run = { world := { player := { gold := 5 } }, now := 1000 } ∧
        x.actor.answers.map (fun e => (e.1, e.2.toOption.isSome)) = [(0, true), (1, true), (2, false), (3, false)]) ∧
      a.shutdown.join.state = .stopped ∧
        ∀ j ∈ [Errands.pay, Errands.rest, Errands.look], (a.join.answer? j.ticket).isSome := by
  intro s r x uses a
  have untold : s.shutdownAt = none := rfl
  obtain ⟨consistent, -, reached⟩ := running_engine_consistent s untold r
  obtain ⟨-, stopped, answered⟩ := reached uses
  have run : x.actor.run = { world := { player := { gold := 5 } }, now := 1000 } := Errands.result_woken
  exact ⟨untold, ⟨Errands.steps, consistent _ _ Errands.steps, rfl, run, rfl⟩, stopped, fun j mem => (answered j mem).2⟩

end Loop

end StoryGraph

import StoryGraph.Proofs.Engine.Loop
import StoryGraph.Proofs.Engine.Serve

/-!
How far a running engine has come: the commands that it has carried out, the run after them, and the command in
work with the run that it will come to. Each step of the loop is followed, the flag going up included: that leaves
alone what has been carried out, and the command in work goes on as it would have gone from its beginning in an
engine told to shut down then.
-/

namespace StoryGraph

/-- A command in work from its beginning. -/
def Surroundings.work (s : Surroundings) (j : Job) (start : Run) : Work :=
  ⟨j, start, (j.command.perform s start).1, (j.command.perform s start).2⟩

namespace Actor

theorem begin_eq (a : Actor) (j : Job) : a.begin j = a.surroundings.work j (a.run.resume a.clock) := by
  simp only [begin, Surroundings.work, Run.resume]

theorem revise_eq (s : Surroundings) (w : Work) : w.revise s = s.work w.job w.start := by
  simp only [Work.revise, Surroundings.work]

theorem shutdownAt_of_isTold {a : Actor} (down : a.isTold = false) : a.surroundings.shutdownAt = none := by
  simpa [isTold] using down

theorem raise_eq {a : Actor} (down : a.isTold = false) (k : Nat) :
    a.raise k = { a with
      surroundings := a.surroundings.told (some ⟨a.clock, k⟩)
      work := a.work.map (Work.revise (a.surroundings.told (some ⟨a.clock, k⟩))) } := by
  rw [raise, down]
  rfl

/-- More pauses are over at a later instant. -/
theorem pausesBefore_mono (a : Actor) {t t' : Nat} (le : t ≤ t') : a.pausesBefore t ≤ a.pausesBefore t' := by
  simp only [pausesBefore]
  cases a.work with
  | none => exact Nat.le_refl _
  | some w =>
    simp only [revise_eq]
    exact a.surroundings.pauses_told_mono w.job.command w.start (Nat.le_refl 0) le

/-- The commands that are not begun yet. -/
def waiting (a : Actor) : List Job := (a.queue ++ a.line).filterMap Message.job?

theorem waiting_enter (a : Actor) (m : Message) : (a.enter m).waiting = a.waiting ++ m.job?.toList := by
  have new : [m].filterMap Message.job? = m.job?.toList := by cases m <;> rfl
  simp only [enter, waiting]
  split
  case isTrue place =>
    have line : a.line = [] := by simp at place; exact place.2
    simp [line, new]
  case isFalse => simp [new]

theorem submit_of_alive {a : Actor} (alive : a.state ≠ .stopped) (j : Job) :
    a.submit j.ticket j.command = a.enter (.job j) := by
  rw [submit, if_neg (by simpa using alive)]

theorem submit_of_stopped {a : Actor} (dead : a.state = .stopped) (j : Job) :
    a.submit j.ticket j.command = { a with answers := a.answers ++ [(j.ticket, .error .notRunning)] } := by
  rw [submit, if_pos (by simpa using dead)]

theorem exists_enter (a : Actor) (m : Message) : ∃ queue line, a.enter m = { a with queue, line } := by
  rw [enter]
  split
  · exact ⟨_, _, rfl⟩
  · exact ⟨_, _, rfl⟩

theorem waiting_take (a : Actor) (rest : List Message) :
    (a.take rest).waiting = rest.filterMap Message.job? ++ a.line.filterMap Message.job? := by
  simp only [take, waiting, List.append_assoc, List.take_append_drop, List.filterMap_append]

end Actor

namespace Loop

variable {s : Surroundings} {r : Run} {deeds : List Deed} {x y : Loop} {d : Deed} {done : List (Nat × Job)}

/-- The answers to commands that are carried out. -/
def answered (s : Surroundings) (r : Run) (done : List (Nat × Job)) : List (Nat × Except EngineError Reply) :=
  List.zipWith (fun b reply => (b.2.ticket, .ok reply)) done (s.serve (requests done) r).1

/-- How far the engine has come, where `done` are the commands that it has carried out. -/
structure Progress (s : Surroundings) (r : Run) (deeds : List Deed) (x : Loop) (done : List (Nat × Job)) :
    Prop where
  surroundings : x.actor.surroundings = s.told (raised deeds)
  ended : ended deeds = done.map Prod.snd
  run : x.actor.run = (x.actor.surroundings.serve (requests done) r).2
  work : (x.actor.work = none ∧ began deeds = done) ∨ ∃ t j, began deeds = done ++ [(t, j)] ∧
    x.actor.work = some (x.actor.surroundings.work j (x.actor.run.resume t))
  ready : x.ready = true → x.actor.work = none ∧ x.actor.state ≠ .stopped
  halted : x.actor.state = .stopped → x.actor.work = none
  due : ∀ w, x.actor.work = some w → x.actor.clock ≤ w.result.now

namespace Progress

theorem spawn (untold : s.shutdownAt = none) : Progress s r [] (spawn s r) [] where
  surroundings := by
    cases s
    cases untold
    rfl
  ended := rfl
  run := rfl
  work := .inl ⟨rfl, rfl⟩
  ready h := nomatch h
  halted h := nomatch h
  due w h := nomatch h

theorem of_idle (h : Progress s r deeds x done) (idle : x.actor.work = none) : Loop.began deeds = done := by
  cases h.work with
  | inl still => exact still.2
  | inr busy =>
    obtain ⟨t, j, -, held⟩ := busy
    exact absurd (idle.symm.trans held) (by simp)

theorem of_busy {w : Work} (h : Progress s r deeds x done) (held : x.actor.work = some w) :
    ∃ t, Loop.began deeds = done ++ [(t, w.job)] ∧
      w = x.actor.surroundings.work w.job (x.actor.run.resume t) := by
  cases h.work with
  | inl still => exact absurd (still.1.symm.trans held) (by simp)
  | inr busy =>
    obtain ⟨t, j, begun, work⟩ := busy
    have same : w = _ := Option.some.inj (held.symm.trans work)
    obtain rfl : w.job = j := congrArg Work.job same
    exact ⟨t, begun, same⟩

/-- A step that leaves the run and the work as they are. -/
theorem still (h : Progress s r deeds x done) (surroundings : y.actor.surroundings = x.actor.surroundings)
    (run : y.actor.run = x.actor.run) (work : y.actor.work = x.actor.work)
    (due : ∀ w, x.actor.work = some w → y.actor.clock ≤ w.result.now)
    (ready : y.ready = true → x.actor.work = none ∧ y.actor.state ≠ .stopped)
    (halted : y.actor.state = .stopped → x.actor.work = none)
    (silent : raised [d] = none ∧ Loop.ended [d] = [] ∧ began [d] = []) :
    Progress s r (deeds ++ [d]) y done where
  surroundings := by rw [surroundings, raised_append, silent.1, Option.or_none, h.surroundings]
  ended := by rw [ended_append, silent.2.1, List.append_nil, h.ended]
  run := by rw [run, surroundings, h.run]
  work := by
    rw [work, began_append, silent.2.2, List.append_nil, run, surroundings]
    exact h.work
  ready := by
    rw [work]
    exact ready
  halted := by
    rw [work]
    exact halted
  due := by
    rw [work]
    exact due

theorem began {a : Actor} {j : Job} {rest : List Message} (h : Progress s r deeds ⟨a, true⟩ done) :
    Progress s r (deeds ++ [.began a.clock j]) ⟨(a.take rest).hold (a.begin j), false⟩ done := by
  have idle : a.work = none := (h.ready rfl).1
  have begun := h.of_idle idle
  have onward := a.surroundings.perform_onward j.command (a.run.resume a.clock)
  constructor
  case surroundings =>
    rw [raised_append]
    exact h.surroundings.trans (congrArg s.told (Option.or_none).symm)
  case ended =>
    rw [ended_append, h.ended]
    exact List.append_nil _
  case run => exact h.run
  case work =>
    refine .inr ⟨a.clock, j, ?_, ?_⟩
    · rw [began_append, begun]
      rfl
    · rw [a.begin_eq]
      rfl
  case ready => exact fun h => nomatch h
  case halted => exact fun stopped => nomatch stopped
  case due =>
    intro w hw
    cases hw
    rw [a.begin_eq]
    exact onward.now

/-- The command in work comes after those that are carried out. -/
theorem serve_busy {t : Nat} {w : Work} (h : Progress s r deeds x done)
    (here : w = x.actor.surroundings.work w.job (x.actor.run.resume t)) :
    x.actor.surroundings.serve (requests (done ++ [(t, w.job)])) r =
      ((x.actor.surroundings.serve (requests done) r).1 ++ [w.reply], w.result) := by
  have performed : w.job.command.perform x.actor.surroundings (x.actor.run.resume t) = (w.reply, w.result) :=
    Prod.ext (congrArg Work.reply here).symm (congrArg Work.result here).symm
  have run := h.run.symm
  rw [requests] at run
  simp only [requests, List.map_append, List.map_cons, List.map_nil, Surroundings.serve_append,
    Surroundings.serve, run, performed]

/-- All that is begun is carried out but for the command in work. -/
theorem whole (h : Progress s r deeds x done) :
    (Loop.began deeds).map Prod.snd = Loop.ended deeds ++ (x.actor.work.map Work.job).toList := by
  rw [h.ended]
  cases work : x.actor.work with
  | none =>
    rw [h.of_idle work]
    exact (List.append_nil _).symm
  | some w =>
    obtain ⟨t, begun, -⟩ := h.of_busy work
    rw [begun, List.map_append]
    rfl

theorem length_served (s : Surroundings) (r : Run) (done : List (Nat × Job)) :
    done.length = (s.serve (requests done) r).1.length := by
  rw [Surroundings.length_serve, requests, List.length_map]

/-- Each command that is carried out is answered once. -/
theorem tickets_answered (s : Surroundings) (r : Run) (done : List (Nat × Job)) :
    (answered s r done).map Prod.fst = done.map fun b => b.2.ticket := by
  rw [answered, List.map_zipWith]
  have enough := Nat.le_of_eq (length_served s r done)
  generalize (s.serve (requests done) r).1 = replies at enough
  induction done generalizing replies with
  | nil => rfl
  | cons b rest ih =>
    cases replies with
    | nil => cases enough
    | cons reply replies => exact congrArg (b.2.ticket :: ·) (ih replies (Nat.le_of_succ_le_succ enough))

theorem complete {a : Actor} {ready : Bool} {w : Work} (h : Progress s r deeds ⟨a, ready⟩ done)
    (work : a.work = some w) :
    ∃ t, Progress s r (deeds ++ [.ended w.job]) ⟨a.complete w, ready⟩ (done ++ [(t, w.job)]) ∧
      answered a.surroundings r (done ++ [(t, w.job)]) =
        answered a.surroundings r done ++ [(w.job.ticket, .ok w.reply)] := by
  obtain ⟨t, begun, here⟩ := h.of_busy work
  have served : a.surroundings.serve (requests (done ++ [(t, w.job)])) r = _ := h.serve_busy here
  refine ⟨t, ?_, ?_⟩
  · constructor
    case surroundings =>
      rw [raised_append]
      exact h.surroundings.trans (congrArg s.told (Option.or_none).symm)
    case ended =>
      rw [ended_append, h.ended, List.map_append]
      rfl
    case run => exact (congrArg Prod.snd served).symm
    case work =>
      left
      rw [began_append, begun]
      exact ⟨rfl, List.append_nil _⟩
    case ready => exact fun ready => absurd ((h.ready ready).1.symm.trans work) (by simp)
    case halted => exact fun _ => rfl
    case due => exact fun w hw => nomatch hw
  · rw [answered, served, List.zipWith_append (length_served a.surroundings r done)]
    rfl

/-- The run, the command in work included, is that of the requests for all that is begun. -/
theorem lastRun_eq (h : Progress s r deeds x done) :
    x.actor.lastRun = (x.actor.surroundings.serve (requests (Loop.began deeds)) r).2 := by
  rw [Actor.lastRun]
  cases work : x.actor.work with
  | none =>
    rw [h.of_idle work]
    exact h.run
  | some w =>
    obtain ⟨t, begun, here⟩ := h.of_busy work
    rw [begun, h.serve_busy here]

theorem zipWith_surplus {α β γ : Type} (f : α → β → γ) {l : List α} {l' : List β} (more : List β)
    (same : l.length = l'.length) : List.zipWith f l (l' ++ more) = List.zipWith f l l' := by
  have both : List.zipWith f (l ++ []) (l' ++ more) = List.zipWith f l l' ++ List.zipWith f [] more :=
    List.zipWith_append same
  rwa [List.append_nil, List.zipWith_nil_left, List.append_nil] at both

/-- The answers are the first of the replies to those requests. -/
theorem answered_eq (h : Progress s r deeds x done) :
    answered x.actor.surroundings r done = List.zipWith (fun j reply => (j.ticket, .ok reply)) (Loop.ended deeds)
      (x.actor.surroundings.serve (requests (Loop.began deeds)) r).1 := by
  rw [answered, h.ended, List.zipWith_map_left]
  cases work : x.actor.work with
  | none => rw [h.of_idle work]
  | some w =>
    obtain ⟨t, begun, here⟩ := h.of_busy work
    rw [begun, h.serve_busy here]
    exact (zipWith_surplus _ [w.reply] (length_served x.actor.surroundings r done)).symm

/-- The pauses that were made before the work began come before all that the work makes. -/
theorem pauses_le_pausesBefore {a : Actor} {ready : Bool} (h : Progress s r deeds ⟨a, ready⟩ done) (t : Nat) :
    a.run.pauses ≤ a.pausesBefore t := by
  rw [Actor.pausesBefore]
  cases work : a.work with
  | none => exact Nat.le_refl _
  | some w =>
    obtain ⟨u, -, here⟩ := h.of_busy work
    simp only [Actor.revise_eq]
    have start : w.start = a.run.resume u := congrArg Work.start here
    rw [start]
    exact (Surroundings.perform_onward _ w.job.command (a.run.resume u)).pauses

theorem raise {a : Actor} {ready : Bool} {k : Nat} (h : Progress s r deeds ⟨a, ready⟩ done)
    (down : a.isTold = false) (early : a.pausesBefore a.clock ≤ k) :
    Progress s r (deeds ++ [.raised ⟨a.clock, k⟩]) ⟨a.raise k, ready⟩ done ∧
      answered (a.raise k).surroundings r done = answered a.surroundings r done := by
  have untold := Actor.shutdownAt_of_isTold down
  have here : a.surroundings = s.told (Loop.raised deeds) := h.surroundings
  have served : (a.surroundings.told (some ⟨a.clock, k⟩)).serve (requests done) r =
      a.surroundings.serve (requests done) r := by
    refine Surroundings.serve_told untold (requests done) r ?_
    rw [← h.run]
    exact Nat.le_trans (h.pauses_le_pausesBefore a.clock) early
  rw [Actor.raise_eq down]
  refine ⟨?_, ?_⟩
  · constructor
    case surroundings =>
      have first : Loop.raised deeds = none := by
        rw [here] at untold
        exact untold
      rw [raised_append, first, here]
      rfl
    case ended =>
      rw [ended_append, h.ended]
      exact List.append_nil _
    case run => exact h.run.trans (congrArg Prod.snd served).symm
    case work =>
      rw [began_append, show Loop.began [.raised ⟨a.clock, k⟩] = [] from rfl, List.append_nil]
      cases h.work with
      | inl still =>
        refine .inl ⟨?_, still.2⟩
        have idle : a.work = none := still.1
        simp only [idle, Option.map_none]
      | inr busy =>
        obtain ⟨u, j, begun, held⟩ := busy
        refine .inr ⟨u, j, begun, ?_⟩
        have held : a.work = some (a.surroundings.work j (a.run.resume u)) := held
        simp only [held, Option.map_some, Actor.revise_eq]
        rfl
    case ready =>
      intro up
      have idle : a.work = none := (h.ready up).1
      exact ⟨by simp only [idle, Option.map_none], (h.ready up).2⟩
    case halted =>
      intro stopped
      have idle : a.work = none := h.halted stopped
      simp only [idle, Option.map_none]
    case due =>
      intro w' hw
      obtain ⟨w, held, rfl⟩ := Option.map_eq_some_iff.1 hw
      rw [Actor.revise_eq]
      cases Surroundings.perform_agrees (s := a.surroundings) (o := some ⟨a.clock, k⟩) w.job.command w.start with
      | inl same =>
        obtain ⟨u, -, here⟩ := h.of_busy held
        have start : w.start = a.run.resume u := congrArg Work.start here
        have result : w.result = (w.job.command.perform a.surroundings w.start).2 := by
          rw [start]
          exact congrArg Work.result here
        have due : a.clock ≤ w.result.now := h.due w held
        rw [result, ← same] at due
        exact due
      | inr parted => exact (parted.hasCome untold).2
  · simp only [answered, served]

end Progress

end Loop

end StoryGraph

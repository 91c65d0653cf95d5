import StoryGraph.Proofs.Engine.Progress

/-!
What becomes of the commands that are sent to a running engine: they wait in the order in which they came, those
that are carried out are answered in that order, and those that are left when the loop ends are turned away. Main
statement: this and the progress of the engine hold after every history.
-/

namespace StoryGraph

namespace Loop

variable {s : Surroundings} {r : Run} {deeds : List Deed} {x y : Loop} {d : Deed} {done : List (Nat × Job)}

/-- Answers to commands that are not carried out. -/
def declined (e : EngineError) (jobs : List Job) : List (Nat × Except EngineError Reply) :=
  jobs.map fun j => (j.ticket, .error e)

/-- What has become of the commands that were sent, where `served` answers those that are carried out. -/
structure Order (deeds : List Deed) (x : Loop) (served : List (Nat × Except EngineError Reply)) : Prop where
  alive : x.actor.state ≠ .stopped → sent deeds = (began deeds).map Prod.snd ++ x.actor.waiting ∧
    refused deeds = [] ∧ x.actor.answers = served
  halted : x.actor.state = .stopped → ∃ queued inLine,
    sent deeds = (began deeds).map Prod.snd ++ (queued ++ inLine) ∧
      x.actor.answers = served ++ (declined .channelClosed queued ++ declined .notRunning (inLine ++ refused deeds))

namespace Order

variable {served : List (Nat × Except EngineError Reply)}

/-- What is begun comes first among what was sent, in the same order. -/
theorem fifo (h : Order deeds x served) : (Loop.began deeds).map Prod.snd <+: Loop.sent deeds := by
  by_cases stopped : x.actor.state = .stopped
  · obtain ⟨queued, inLine, sent, -⟩ := h.halted stopped
    exact ⟨_, sent.symm⟩
  · exact ⟨_, (h.alive stopped).1.symm⟩

theorem spawn : Order [] (spawn s r) [] where
  alive _ := ⟨rfl, rfl, rfl⟩
  halted h := nomatch h

theorem still (h : Order deeds x served) (state : y.actor.state = .stopped ↔ x.actor.state = .stopped)
    (waiting : y.actor.waiting = x.actor.waiting) (answers : y.actor.answers = x.actor.answers)
    (silent : Loop.sent [d] = [] ∧ Loop.began [d] = [] ∧ Loop.refused [d] = []) :
    Order (deeds ++ [d]) y served := by
  obtain ⟨sent, began, refused⟩ := silent
  constructor
  · intro alive
    simp only [sent_append, began_append, refused_append, sent, began, refused, List.append_nil, waiting, answers]
    exact h.alive fun stopped => alive (state.2 stopped)
  · intro stopped
    simp only [sent_append, began_append, refused_append, sent, began, refused, List.append_nil, answers]
    exact h.halted (state.1 stopped)

theorem sent {a : Actor} {ready : Bool} {j : Job} (h : Order deeds ⟨a, ready⟩ served) (alive : a.state ≠ .stopped) :
    Order (deeds ++ [.sent j]) ⟨a.submit j.ticket j.command, ready⟩ served := by
  obtain ⟨order, refused, answers⟩ := h.alive alive
  rw [Actor.submit_of_alive alive]
  obtain ⟨queue, line, here⟩ := a.exists_enter (.job j)
  constructor
  · intro _
    refine ⟨?_, ?_, ?_⟩
    · rw [sent_append, began_append, order, a.waiting_enter]
      simp [Loop.sent, Loop.began, Message.job?]
    · rw [refused_append, refused]
      rfl
    · rw [here]
      exact answers
  · intro stopped
    rw [here] at stopped
    exact absurd stopped alive

theorem refused {a : Actor} {ready : Bool} {j : Job} (h : Order deeds ⟨a, ready⟩ served)
    (dead : a.state = .stopped) :
    Order (deeds ++ [.refused j]) ⟨a.submit j.ticket j.command, ready⟩ served := by
  obtain ⟨queued, inLine, order, answers⟩ := h.halted dead
  have answers : a.answers = _ := answers
  rw [Actor.submit_of_stopped dead]
  constructor
  · exact fun alive => absurd dead alive
  · intro _
    refine ⟨queued, inLine, ?_, ?_⟩
    · rw [sent_append, began_append, order]
      simp [Loop.sent, Loop.began]
    · have new : Loop.refused (deeds ++ [.refused j]) = Loop.refused deeds ++ [j] := refused_append _ _
      simp [answers, new, declined]

theorem began {a : Actor} {ready : Bool} {j : Job} {rest : List Message} {t : Nat} {w : Work}
    (h : Order deeds ⟨a, true⟩ served) (alive : a.state ≠ .stopped) (next : a.queue = .job j :: rest) :
    Order (deeds ++ [.began t j]) ⟨(a.take rest).hold w, ready⟩ served := by
  obtain ⟨order, refused, answers⟩ := h.alive alive
  constructor
  · intro _
    refine ⟨?_, ?_, answers⟩
    · have waiting : a.waiting = j :: (a.take rest).waiting := by
        rw [a.waiting_take]
        simp [Actor.waiting, next, Message.job?]
      rw [sent_append, began_append, order, show (Loop.mk a true).actor.waiting = _ from waiting]
      simp [Loop.sent, Loop.began]
      rfl
    · rw [refused_append, refused]
      rfl
  · intro stopped
    cases stopped

theorem complete {a : Actor} {ready : Bool} {w : Work} (h : Order deeds ⟨a, ready⟩ served)
    (alive : a.state ≠ .stopped) :
    Order (deeds ++ [.ended w.job]) ⟨a.complete w, ready⟩ (served ++ [(w.job.ticket, .ok w.reply)]) := by
  obtain ⟨order, refused, answers⟩ := h.alive alive
  have answers : a.answers = served := answers
  constructor
  · intro _
    refine ⟨?_, ?_, ?_⟩
    · rw [sent_append, began_append, order]
      simp [Loop.sent, Loop.began]
      rfl
    · rw [refused_append, refused]
      rfl
    · rw [← answers]
      rfl
  · exact fun stopped => absurd stopped alive

/-- The word to stop is nobody's command. -/
theorem take_stop {a : Actor} {ready : Bool} {rest : List Message} (h : Order deeds ⟨a, ready⟩ served)
    (alive : a.state ≠ .stopped) (next : a.queue = .stop :: rest) : Order deeds ⟨a.take rest, ready⟩ served := by
  obtain ⟨order, refused, answers⟩ := h.alive alive
  have waiting : (a.take rest).waiting = a.waiting := by
    rw [a.waiting_take, Actor.waiting, next, List.filterMap_append]
    rfl
  constructor
  · exact fun _ => ⟨order.trans (by rw [waiting]), refused, answers⟩
  · intro stopped
    cases stopped

theorem stop {a : Actor} {ready : Bool} {why : Halt} (h : Order deeds ⟨a, ready⟩ served)
    (alive : a.state ≠ .stopped) : Order (deeds ++ [.halted why]) ⟨a.stop, false⟩ served := by
  obtain ⟨order, refused, answers⟩ := h.alive alive
  have answers : a.answers = served := answers
  constructor
  · exact fun alive => absurd rfl alive
  · intro _
    refine ⟨a.queue.filterMap Message.job?, a.line.filterMap Message.job?, ?_, ?_⟩
    · rw [sent_append, began_append, order]
      simp [Loop.sent, Loop.began, Actor.waiting]
    · have none : Loop.refused (deeds ++ [.halted why]) = [] := by
        rw [refused_append, refused]
        rfl
      simp [Actor.stop, answers, none, declined]

end Order

/-- What holds of an engine after every history. -/
structure Invariant (s : Surroundings) (r : Run) (deeds : List Deed) (x : Loop) (done : List (Nat × Job)) :
    Prop where
  progress : Progress s r deeds x done
  order : Order deeds x (answered x.actor.surroundings r done)

theorem Invariant.step (h : Invariant s r deeds x done) (step : Step x d y) :
    ∃ done, Invariant s r (deeds ++ [d]) y done := by
  obtain ⟨progress, order⟩ := h
  cases step with
  | @sent a ready j alive =>
    refine ⟨done, ?_, ?_⟩
    · obtain ⟨queue, line, here⟩ := a.exists_enter (.job j)
      rw [Actor.submit_of_alive alive, here]
      exact progress.still rfl rfl rfl progress.due progress.ready progress.halted ⟨rfl, rfl, rfl⟩
    · obtain ⟨queue, line, here⟩ := a.exists_enter (.job j)
      have same : (a.submit j.ticket j.command).surroundings = a.surroundings := by
        rw [Actor.submit_of_alive alive, here]
      rw [same]
      exact order.sent alive
  | @refused a ready j dead =>
    refine ⟨done, ?_, ?_⟩
    · rw [Actor.submit_of_stopped dead]
      exact progress.still rfl rfl rfl progress.due progress.ready progress.halted ⟨rfl, rfl, rfl⟩
    · have same : (a.submit j.ticket j.command).surroundings = a.surroundings := by
        rw [Actor.submit_of_stopped dead]
      rw [same]
      exact order.refused dead
  | @raised a ready k down early late =>
    obtain ⟨progress, same⟩ := progress.raise down early
    refine ⟨done, progress, ?_⟩
    rw [same, Actor.raise_eq down]
    exact order.still Iff.rfl rfl rfl ⟨rfl, rfl, rfl⟩
  | @toldToStop a ready alive =>
    obtain ⟨queue, line, here⟩ := a.exists_enter .stop
    have waiting := a.waiting_enter .stop
    rw [here] at waiting ⊢
    refine ⟨done, ?_, ?_⟩
    · exact progress.still rfl rfl rfl progress.due progress.ready progress.halted ⟨rfl, rfl, rfl⟩
    · exact order.still Iff.rfl (waiting.trans (List.append_nil _)) rfl ⟨rfl, rfl, rfl⟩
  | abandoned =>
    refine ⟨done, ?_, ?_⟩
    · exact progress.still rfl rfl rfl progress.due progress.ready progress.halted ⟨rfl, rfl, rfl⟩
    · exact order.still Iff.rfl rfl rfl ⟨rfl, rfl, rfl⟩
  | waited later due =>
    refine ⟨done, ?_, ?_⟩
    · exact progress.still rfl rfl rfl due progress.ready progress.halted ⟨rfl, rfl, rfl⟩
    · exact order.still Iff.rfl rfl rfl ⟨rfl, rfl, rfl⟩
  | looked alive idle down =>
    refine ⟨done, ?_, ?_⟩
    · exact progress.still rfl rfl rfl progress.due (fun _ => ⟨idle, alive⟩) progress.halted ⟨rfl, rfl, rfl⟩
    · exact order.still Iff.rfl rfl rfl ⟨rfl, rfl, rfl⟩
  | @parked a empty awaited =>
    obtain ⟨idle, alive⟩ := progress.ready rfl
    refine ⟨done, ?_, ?_⟩
    · exact progress.still rfl rfl rfl progress.due (fun h => nomatch h) (fun _ => idle) ⟨rfl, rfl, rfl⟩
    · exact order.still ⟨(fun h => nomatch h), fun h => absurd h alive⟩ rfl rfl ⟨rfl, rfl, rfl⟩
  | began next => exact ⟨done, progress.began, order.began (progress.ready rfl).2 next⟩
  | @ended a ready w work due =>
    have alive : a.state ≠ .stopped := fun stopped => by
      have idle : a.work = none := progress.halted stopped
      exact absurd (idle.symm.trans work) (by simp)
    obtain ⟨t, progress, answers⟩ := progress.complete work
    refine ⟨_, progress, ?_⟩
    have served : answered (a.complete w).surroundings r (done ++ [(t, w.job)]) = _ := answers
    rw [served]
    exact order.complete alive
  | sawFlag alive idle up =>
    refine ⟨done, ?_, order.stop alive⟩
    exact progress.still rfl rfl rfl progress.due (fun h => nomatch h) (fun _ => idle) ⟨rfl, rfl, rfl⟩
  | tookWord next =>
    obtain ⟨idle, alive⟩ := progress.ready rfl
    refine ⟨done, ?_, (order.take_stop alive next).stop (fun h => nomatch h)⟩
    exact progress.still rfl rfl rfl progress.due (fun h => nomatch h) (fun _ => idle) ⟨rfl, rfl, rfl⟩
  | leftAlone empty alone =>
    obtain ⟨idle, alive⟩ := progress.ready rfl
    refine ⟨done, ?_, order.stop alive⟩
    exact progress.still rfl rfl rfl progress.due (fun h => nomatch h) (fun _ => idle) ⟨rfl, rfl, rfl⟩

theorem Steps.invariant (untold : s.shutdownAt = none) (h : Steps (spawn s r) deeds x) :
    ∃ done, Invariant s r deeds x done := by
  induction h with
  | nil => exact ⟨[], .spawn untold, .spawn⟩
  | snoc _ step ih =>
    obtain ⟨done, invariant⟩ := ih
    exact invariant.step step

end Loop

end StoryGraph

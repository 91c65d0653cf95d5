import StoryGraph.Proofs.Engine.Liveness

/-!
What a host does with a running engine: it puts in commands, waits for time to pass or for an answer, and shuts
the engine down. Each of these lets the engine do all that is due. Main statements: whatever a host does, the
engine has come to where it is by a history in which the host's commands were brought; who waits for an answer gets
it; and an engine that is told to shut down stops.
-/

namespace StoryGraph

/-- Something that a host does. -/
inductive Use where
  | submit (ticket : Nat) (c : Command)
  | shutdown
  | abandon
  | settle
  | advance (t : Nat)
  | await (ticket : Nat)
  | awaitPlace (ticket : Nat)
  | join

def Use.apply : Use → Actor → Actor
  | submit ticket c => Actor.submit ticket c
  | shutdown => Actor.shutdown
  | abandon => Actor.abandon
  | settle => Actor.settle
  | advance t => Actor.advance t
  | await ticket => Actor.await ticket
  | awaitPlace ticket => Actor.awaitPlace ticket
  | join => Actor.join

/-- The command that the host brings. -/
def Use.job? : Use → Option Job
  | submit ticket c => some ⟨ticket, c⟩
  | shutdown | abandon | settle | advance _ | await _ | awaitPlace _ | join => none

namespace Actor

theorem settle_of_busy {a : Actor} {w : Work} (work : a.work = some w) : a.settle = a := by
  rw [settle]
  cases a.state <;> simp only [work]

/-- The loop ends where it finds the flag up. -/
theorem state_settle {a : Actor} (up : a.isTold = true) (idle : a.work = none) : a.settle.state = .stopped := by
  cases state : a.state with
  | stopped =>
    rw [settle]
    simp only [state]
  | starting | running | stopping =>
    rw [settle]
    simp only [state, idle, up, if_true]
    rfl

theorem waitUntil_of_holds {holds : Actor → Bool} {a : Actor} (h : holds a = true) : a.waitUntil holds = a := by
  rw [waitUntil]
  exact if_pos h

/-- An engine that is told to shut down stops, after the command in work at the latest. -/
theorem state_join {a : Actor} (up : a.isTold = true) : a.join.state = .stopped := by
  rw [join]
  cases work : a.work with
  | none =>
    have stopped := state_settle up work
    rw [waitUntil_of_holds (by simpa using stopped)]
    exact stopped
  | some w =>
    rw [settle_of_busy work, waitUntil]
    split
    case isTrue stopped => simpa using stopped
    case isFalse alive =>
      have stopped : (a.proceed w).state = .stopped := state_settle up rfl
      split
      case h_1 w' held =>
        obtain rfl := Option.some.inj (work.symm.trans held)
        rw [waitUntil_of_holds (by simpa using stopped)]
        exact stopped
      case h_2 idle => exact absurd (idle.symm.trans work) (by simp)

theorem isTold_shutdown (a : Actor) : a.shutdown.isTold = true := by
  have told : (a.raise (a.pausesBefore (a.clock + 1))).isTold = true := by
    cases down : a.isTold with
    | false =>
      rw [raise_eq down]
      rfl
    | true => rwa [raise, if_pos down]
  rw [shutdown]
  split
  case isTrue => exact told
  case isFalse =>
    obtain ⟨queue, line, here⟩ := (a.raise (a.pausesBefore (a.clock + 1))).exists_enter .stop
    rw [here]
    exact told

theorem isSome_answer?_iff {a : Actor} {ticket : Nat} :
    (a.answer? ticket).isSome ↔ ticket ∈ a.answers.map Prod.fst := by
  rw [answer?, Option.isSome_map, List.find?_isSome, List.mem_map]
  exact exists_congr fun e => and_congr_right' beq_iff_eq

end Actor

namespace Loop

variable {s : Surroundings} {r : Run} {a b : Actor} {jobs : List Job}

/-- A new engine that was brought these commands comes by some history to where it is, and its loop is about to look at
the flag. -/
def Reaches (s : Surroundings) (r : Run) (jobs : List Job) (a : Actor) : Prop :=
  ∃ deeds, Steps (spawn s r) deeds ⟨a, false⟩ ∧ sent deeds ++ refused deeds = jobs

theorem Reaches.steps {deeds : List Deed} (h : Reaches s r jobs a) (later : Steps ⟨a, false⟩ deeds ⟨b, false⟩)
    (alone : sent deeds = [] ∧ refused deeds = [] := by exact ⟨rfl, rfl⟩) : Reaches s r jobs b := by
  obtain ⟨before, reached, brought⟩ := h
  refine ⟨_, reached.append later, ?_⟩
  rw [sent_append, refused_append, alone.1, alone.2, List.append_nil, List.append_nil, brought]

theorem Reaches.step {d : Deed} (h : Reaches s r jobs a) (later : Step ⟨a, false⟩ d ⟨b, false⟩)
    (alone : sent [d] = [] ∧ refused [d] = [] := by exact ⟨rfl, rfl⟩) : Reaches s r jobs b :=
  h.steps (.single later) alone

/-- The command in work is not overdue. -/
theorem Reaches.due {w : Work} (untold : s.shutdownAt = none) (h : Reaches s r jobs a) (work : a.work = some w) :
    a.clock ≤ w.result.now := by
  obtain ⟨deeds, reached, -⟩ := h
  obtain ⟨done, invariant⟩ := reached.invariant untold
  exact invariant.progress.due w work

theorem Reaches.idle (untold : s.shutdownAt = none) (h : Reaches s r jobs a) (stopped : a.state = .stopped) :
    a.work = none := by
  obtain ⟨deeds, reached, -⟩ := h
  obtain ⟨done, invariant⟩ := reached.invariant untold
  exact invariant.progress.halted stopped

theorem Reaches.settle (h : Reaches s r jobs a) : Reaches s r jobs a.settle := by
  fun_induction Actor.settle a with
  | case1 | case2 => exact h
  | case3 a idle up alive => exact h.step (.sawFlag alive idle up)
  | case4 a idle down empty alone alive =>
    have looked : Step ⟨a, false⟩ .looked ⟨a, true⟩ := .looked alive idle (by simpa using down)
    exact h.steps (.snoc (.single looked) (.leftAlone empty alone))
  | case5 a idle down empty awaited alive =>
    have looked : Step ⟨a, false⟩ .looked ⟨a, true⟩ := .looked alive idle (by simpa using down)
    exact h.steps (.snoc (.single looked) (.parked empty (by simpa using awaited)))
  | case6 a idle down rest next alive =>
    have looked : Step ⟨a, false⟩ .looked ⟨a, true⟩ := .looked alive idle (by simpa using down)
    exact h.steps (.snoc (.single looked) (.tookWord next))
  | case7 a idle down j rest next w now alive ih =>
    have looked : Step ⟨a, false⟩ .looked ⟨a, true⟩ := .looked alive idle (by simpa using down)
    have began := h.steps (.snoc (.single looked) (.began next))
    have ended : Step ⟨(a.take rest).hold w, false⟩ (.ended w.job) ⟨(a.take rest).complete w, false⟩ :=
      .ended rfl (beq_iff_eq.1 now)
    exact ih (began.step ended)
  | case8 a idle down j rest next w due alive =>
    have looked : Step ⟨a, false⟩ .looked ⟨a, true⟩ := .looked alive idle (by simpa using down)
    exact h.steps (.snoc (.single looked) (.began next))

/-- The command in work comes to its end, and what follows at once is done. -/
theorem Reaches.proceed {w : Work} (untold : s.shutdownAt = none) (h : Reaches s r jobs a) (work : a.work = some w) :
    Reaches s r jobs (a.proceed w) := by
  have due := h.due untold work
  have waited : Step ⟨a, false⟩ (.waited w.result.now) ⟨{ a with clock := w.result.now }, false⟩ := by
    refine .waited due fun v held => ?_
    obtain rfl := Option.some.inj (work.symm.trans held)
    exact Nat.le_refl _
  have ended : Step ⟨{ a with clock := w.result.now }, false⟩ (.ended w.job) ⟨a.complete w, false⟩ :=
    .ended work rfl
  exact (h.steps (.snoc (.single waited) ended)).settle

theorem Reaches.advance (untold : s.shutdownAt = none) (h : Reaches s r jobs a) (t : Nat) :
    Reaches s r jobs (a.advance t) := by
  fun_induction Actor.advance t a with
  | case1 a w work early ih => exact ih (h.proceed untold work)
  | case2 a w work late =>
    refine h.step (.waited (Nat.le_max_left _ _) fun v held => ?_)
    obtain rfl := Option.some.inj (work.symm.trans held)
    have due := h.due untold work
    omega
  | case3 a idle =>
    refine h.step (.waited (Nat.le_max_left _ _) fun v held => ?_)
    exact absurd (idle.symm.trans held) (by simp)

theorem Reaches.waitUntil (untold : s.shutdownAt = none) (h : Reaches s r jobs a) (holds : Actor → Bool) :
    Reaches s r jobs (a.waitUntil holds) := by
  fun_induction Actor.waitUntil holds a with
  | case1 | case3 => exact h
  | case2 a _ w work ih => exact ih (h.proceed untold work)

theorem Reaches.submit (untold : s.shutdownAt = none) (h : Reaches s r jobs a) (j : Job) :
    Reaches s r (jobs ++ [j]) (a.submit j.ticket j.command) := by
  obtain ⟨deeds, reached, brought⟩ := h
  by_cases stopped : a.state = .stopped
  · refine ⟨_, .snoc reached (.refused stopped), ?_⟩
    rw [sent_append, refused_append, ← brought]
    simp [sent, refused]
  · obtain ⟨done, invariant⟩ := reached.invariant untold
    have none : refused deeds = [] := (invariant.order.alive stopped).2.1
    refine ⟨_, .snoc reached (.sent stopped), ?_⟩
    rw [sent_append, refused_append, ← brought, none]
    simp [sent, refused]

theorem Reaches.shutdown (h : Reaches s r jobs a) : Reaches s r jobs a.shutdown := by
  have raised : Reaches s r jobs (a.raise (a.pausesBefore (a.clock + 1))) := by
    cases down : a.isTold with
    | false => exact h.step (.raised down (a.pausesBefore_mono (Nat.le_succ _)) (Nat.le_refl _))
    | true => simpa only [Actor.raise, down, if_true] using h
  rw [Actor.shutdown]
  split
  case isTrue => exact raised
  case isFalse alive => exact raised.step (.toldToStop (by simpa using alive))

theorem Reaches.use (untold : s.shutdownAt = none) (h : Reaches s r jobs a) (u : Use) :
    Reaches s r (jobs ++ u.job?.toList) (u.apply a) := by
  have quiet {b : Actor} (h : Reaches s r jobs b) : Reaches s r (jobs ++ []) b := by rwa [List.append_nil]
  cases u with
  | submit ticket c => exact h.submit untold ⟨ticket, c⟩
  | shutdown => exact quiet h.shutdown
  | abandon => exact quiet (h.step .abandoned)
  | settle => exact quiet h.settle
  | advance t => exact quiet (h.advance untold t)
  | await ticket => exact quiet (h.settle.waitUntil untold _)
  | awaitPlace ticket =>
    refine quiet ?_
    simp only [Use.apply, Actor.awaitPlace]
    split
    · exact h.settle.waitUntil untold _
    · exact h
  | join => exact quiet (h.settle.waitUntil untold _)

/-- Whatever a host does, the engine has come to where it is by a history. -/
theorem reaches_uses (untold : s.shutdownAt = none) (r : Run) (uses : List Use) :
    Reaches s r (uses.filterMap Use.job?) (uses.foldl (fun a u => u.apply a) (spawn s r).actor) := by
  suffices later : ∀ jobs a, Reaches s r jobs a →
      Reaches s r (jobs ++ uses.filterMap Use.job?) (uses.foldl (fun a u => u.apply a) a) from
    later [] _ ⟨[], .nil, rfl⟩
  induction uses with
  | nil =>
    intro jobs a h
    rwa [List.filterMap_nil, List.append_nil]
  | cons u rest ih =>
    intro jobs a h
    have first : (u :: rest).filterMap Use.job? = u.job?.toList ++ rest.filterMap Use.job? := by
      rw [List.filterMap_cons]
      cases u.job? <;> rfl
    rw [first, ← List.append_assoc]
    exact ih _ (u.apply a) (h.use untold u)

/-- Where nothing is in work after all that is due has been done, everybody has been answered. -/
theorem Reaches.answered (untold : s.shutdownAt = none) (h : Reaches s r jobs a) (settled : a.Settled)
    (idle : a.work = none) {j : Job} (mem : j ∈ jobs) : (a.answer? j.ticket).isSome := by
  obtain ⟨deeds, reached, rfl⟩ := h
  obtain ⟨done, invariant⟩ := reached.invariant untold
  have drained : a.state = .stopped ∨ a.waiting = [] := by
    obtain stopped | busy | ⟨empty, -, -⟩ := settled
    · exact .inl stopped
    · exact absurd busy (by simp [idle])
    · exact .inr (reached.inLine.waiting empty)
  rw [Actor.isSome_answer?_iff, invariant.tickets idle drained]
  exact List.mem_map_of_mem mem

/-- Whoever waits for an answer gets it. -/
theorem Reaches.await (untold : s.shutdownAt = none) (h : Reaches s r jobs a) {j : Job} (mem : j ∈ jobs) :
    ((a.await j.ticket).answer? j.ticket).isSome := by
  obtain ⟨settled, there | idle⟩ := Actor.settled_waitUntil a.settled_settle fun a => (a.answer? j.ticket).isSome
  · exact there
  · exact (h.settle.waitUntil untold _).answered untold settled idle mem

/-- Whoever has brought a command is answered when the engine is at its end. -/
theorem Reaches.join (untold : s.shutdownAt = none) (h : Reaches s r jobs a) {j : Job} (mem : j ∈ jobs) :
    (a.join.answer? j.ticket).isSome := by
  have reached : Reaches s r jobs a.join := h.settle.waitUntil untold _
  obtain ⟨settled, stopped | idle⟩ := Actor.settled_waitUntil a.settled_settle fun a => a.state == .stopped
  · exact reached.answered untold settled (reached.idle untold (beq_iff_eq.1 stopped)) mem
  · exact reached.answered untold settled idle mem

end Loop

end StoryGraph

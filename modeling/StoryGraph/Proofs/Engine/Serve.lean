import StoryGraph.Proofs.Walk.Parting

/-!
Requests one after the other, as they come from a host that holds the engine itself: each begins at an instant
of its own, and is carried out to its end before the next one begins. Main statements: to be told to shut down
after all of them changes nothing, and requests that only ask change nothing for the others.
-/

namespace StoryGraph

/-- The run as it goes on at an instant. -/
def Run.resume (r : Run) (t : Nat) : Run := { r with now := t }

namespace Surroundings

/-- Carries out requests in order, each from its own instant on. -/
def serve (s : Surroundings) : List (Nat × Command) → Run → List Reply × Run
  | [], r => ([], r)
  | (t, c) :: rest, r =>
    let (reply, r) := c.perform s (r.resume t)
    let (later, r) := s.serve rest r
    (reply :: later, r)

variable {s : Surroundings}

theorem serve_append (before after : List (Nat × Command)) (r : Run) :
    s.serve (before ++ after) r =
      ((s.serve before r).1 ++ (s.serve after (s.serve before r).2).1, (s.serve after (s.serve before r).2).2) := by
  induction before generalizing r with
  | nil => rfl
  | cons call rest ih => simp only [List.cons_append, serve, ih]

theorem length_serve (calls : List (Nat × Command)) (r : Run) : (s.serve calls r).1.length = calls.length := by
  induction calls generalizing r with
  | nil => rfl
  | cons call rest ih => simp only [serve, List.length_cons, ih]

theorem pauses_le_serve (calls : List (Nat × Command)) (r : Run) : r.pauses ≤ (s.serve calls r).2.pauses := by
  induction calls generalizing r with
  | nil => exact Nat.le_refl _
  | cons call rest ih =>
    have here := (s.perform_onward call.2 (r.resume call.1)).pauses
    exact Nat.le_trans here (ih _)

/-- Being told to shut down after all pauses that the requests made is of no effect on them. -/
theorem serve_told {m : Moment} (untold : s.shutdownAt = none) (calls : List (Nat × Command)) (r : Run)
    (late : (s.serve calls r).2.pauses ≤ m.pauses) : (s.told (some m)).serve calls r = s.serve calls r := by
  induction calls generalizing r with
  | nil => rfl
  | cons call rest ih =>
    simp only [serve] at late ⊢
    cases perform_agrees (s := s) (o := some m) call.2 (r.resume call.1) with
    | inl same => rw [same, ih _ late]
    | inr parted =>
      have early := parted.pauses_lt untold
      have more := pauses_le_serve (s := s) rest (call.2.perform s (r.resume call.1)).2
      omega

end Surroundings

/-- Whether a request only asks. -/
def Command.isQuery : Command → Bool
  | .getProperty _ _ _ => true
  | .snapshot => true
  | _ => false

namespace Surroundings

variable {s : Surroundings}

theorem perform_query (s : Surroundings) {c : Command} (query : c.isQuery = true) (r : Run) :
    (c.perform s r).2 = r := by
  cases c with
  | getProperty | snapshot => rfl
  | trigger | executeNode | setProperty | advanceTurn => cases query

/-- Without the requests that only ask, the others come to the same and are answered the same. -/
theorem serve_without_queries (calls : List (Nat × Command)) (r r' : Run)
    (alike : r.resume 0 = r'.resume 0) :
    let others := calls.filter fun call => !call.2.isQuery
    (s.serve calls r).2.resume 0 = (s.serve others r').2.resume 0 ∧
      (calls.zip (s.serve calls r).1).filter (fun answer => !answer.1.2.isQuery) =
        others.zip (s.serve others r').1 := by
  induction calls generalizing r r' with
  | nil => exact ⟨alike, rfl⟩
  | cons call rest ih =>
    have same (t : Nat) : r.resume t = r'.resume t := congrArg (fun r => r.resume t) alike
    cases query : call.2.isQuery with
    | true =>
      have unchanged := s.perform_query query (r.resume call.1)
      have later := ih (r.resume call.1) r' alike
      simp only [List.filter_cons, query, serve, unchanged, List.zip_cons_cons, Bool.not_true,
        Bool.false_eq_true, if_false]
      exact later
    | false =>
      have later := ih (call.2.perform s (r.resume call.1)).2 _ rfl
      simp only [List.filter_cons, query, serve, List.zip_cons_cons, Bool.not_false, if_true, ← same]
      exact ⟨later.1, by rw [later.2]⟩

end Surroundings

end StoryGraph

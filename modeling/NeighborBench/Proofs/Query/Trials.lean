import NeighborBench.Proofs.Query.Building
import NeighborBench.Proofs.World

/-! # Trials

A run of trials sends a search for the first row of each batch that the queries answer, one after
another, until a search fails.
-/

namespace NeighborBench

/-- The first rows of the batches that up to so many reads answer, and what the reads leave. The
reads end at the end of the rows or at an empty batch; no read may fail or answer ids. -/
inductive Yields {δ : Type} [Dataset δ] : Nat → δ → List (List Single) → δ → Prop where
  | spent (queries : δ) : Yields 0 queries [] queries
  | finished (n : Nat) (queries rest : δ) (read : Dataset.read 1 queries = (.ok none, rest)) :
    Yields (n + 1) queries [] rest
  | empty (n : Nat) (queries rest : δ)
    (read : Dataset.read 1 queries = (.ok (some (.vectors [])), rest)) :
    Yields (n + 1) queries [] rest
  | row (n : Nat) (queries next rest : δ) (vector : List Single) (others vectors : List (List Single))
    (read : Dataset.read 1 queries = (.ok (some (.vectors (vector :: others))), next))
    (more : Yields n next vectors rest) : Yields (n + 1) queries (vector :: vectors) rest

theorem Yields.length_le {δ : Type} [Dataset δ] {n : Nat} {queries rest : δ}
    {vectors : List (List Single)} (yields : Yields n queries vectors rest) :
    vectors.length ≤ n := by
  induction yields with
  | spent => exact Nat.le_refl 0
  | finished => exact Nat.zero_le _
  | empty => exact Nat.zero_le _
  | row _ _ _ _ _ _ _ _ _ ih => exact Nat.succ_le_succ ih

/-- The answer that a trial is made of. -/
def Trial.reply (t : Trial) : SearchReply := ⟨t.took, t.hits⟩

namespace QueryStep

variable {ω δ : Type}

/-! ## Steps whose searches are noted -/

structure Noted (s : QueryStep (StateM (World ω)) δ) : Prop where
  client : ∃ client : Client (StateM ω), s.client = client.noted
  clock : ∃ clock : StateM ω Nat, s.clock = unnoted clock

theorem noted_of_connect (services : Services (StateM ω) δ) (connection : Connection)
    (client : Client (StateM (World ω))) (before after : World ω)
    (h : services.noted.connect connection before = (.ok client, after)) :
    ∃ inner : Client (StateM ω), client = inner.noted := by
  change ((services.connect connection before.outside).1.map Client.noted, _) = _ at h
  rcases hconnect : services.connect connection before.outside with ⟨answer, outside⟩
  rw [hconnect] at h
  cases answer with
  | error reason => cases h
  | ok inner =>
    cases h
    exact ⟨inner, rfl⟩

theorem Built.noted [Dataset δ] {services : Services (StateM ω) δ} {config : StepConfig}
    {p : QueryParameters} {s : QueryStep (StateM (World ω)) δ}
    (built : Built services.noted config p s) : s.Noted := by
  obtain ⟨before, after, hclient⟩ := built.client
  exact ⟨noted_of_connect services p.connection s.client before after hclient,
    services.clock, built.clock⟩

/-! ## One trial after another -/

/-- What trials over some vectors send and how they end. Each search has its answer before the next
is sent, and the first that fails is the last. -/
inductive Trialled (s : QueryStep (StateM (World ω)) δ) :
    Nat → List (List Single) → List Event → Except StepError (List Trial) → Prop where
  | finished (trial : Nat) : Trialled s trial [] [] (.ok [])
  | failed (trial : Nat) (vector : List Single) (vectors : List (List Single))
    (fault : SearchFault) :
    Trialled s trial (vector :: vectors) [.searched (s.request vector) (.error fault)]
      (.error (.transport trial fault))
  | answered (trial : Nat) (vector : List Single) (vectors : List (List Single)) (t : Trial)
    (events : List Event) (outcome : Except StepError (List Trial))
    (more : Trialled s (trial + 1) vectors events outcome) :
    Trialled s trial (vector :: vectors) (.searched (s.request vector) (.ok t.reply) :: events)
      (outcome.map (t :: ·))

theorem Trialled.all_answered {s : QueryStep (StateM (World ω)) δ} {trial : Nat}
    {vectors : List (List Single)} {events : List Event} {outcome : Except StepError (List Trial)}
    (h : s.Trialled trial vectors events outcome)
    (answered : ∀ request fault, .searched request (.error fault) ∉ events) :
    ∃ trials : List Trial, trials.length = vectors.length ∧ outcome = .ok trials ∧
      events = List.zipWith (fun vector t => .searched (s.request vector) (.ok t.reply))
        vectors trials := by
  induction h with
  | finished => exact ⟨[], rfl, rfl, rfl⟩
  | failed trial vector vectors fault =>
    exact absurd (List.mem_singleton.mpr rfl) (answered (s.request vector) fault)
  | answered trial vector vectors t events outcome more ih =>
    obtain ⟨trials, hlength, rfl, hevents⟩ := ih fun request fault hmem =>
      answered request fault (List.mem_cons_of_mem _ hmem)
    refine ⟨t :: trials, ?_, rfl, ?_⟩
    · rw [List.length_cons, List.length_cons, hlength]
    · rw [List.zipWith_cons_cons, ← hevents]

theorem search_run {s : QueryStep (StateM (World ω)) δ} (noted : s.Noted) (request : SearchRequest)
    {β : Type} (next : Nat → Except SearchFault SearchReply → Nat → StateM (World ω) β)
    (w : World ω) :
    ∃ start answer stop outside,
      (do
        let start ← s.clock
        let answer ← s.client request
        let stop ← s.clock
        next start answer stop : StateM (World ω) β).run w =
      (next start answer stop).run ⟨outside, w.events ++ [.searched request answer]⟩ := by
  obtain ⟨client, hclient⟩ := noted.client
  obtain ⟨clock, hclock⟩ := noted.clock
  rw [hclient, hclock]
  exact ⟨_, _, _, _, rfl⟩

variable [Dataset δ]

theorem trials_trialled {s : QueryStep (StateM (World ω)) δ} (noted : s.Noted) {n : Nat}
    {queries rest : δ} {vectors : List (List Single)} (yields : Yields n queries vectors rest)
    (trial : Nat) (w : World ω) :
    ∃ outcome left outside events,
      (s.trials n trial queries).run w = ((outcome, left), ⟨outside, w.events ++ events⟩) ∧
      s.Trialled trial vectors events outcome ∧ (∀ trials, outcome = .ok trials → left = rest) := by
  induction yields generalizing trial w with
  | spent queries =>
    -- No trial is left.
    refine ⟨.ok [], queries, w.outside, [], ?_, .finished trial, fun _ _ => rfl⟩
    rw [List.append_nil]
    rfl
  | finished n queries rest read =>
    refine ⟨.ok [], rest, w.outside, [], ?_, .finished trial, fun _ _ => rfl⟩
    rw [trials, nextVector, read, List.append_nil]
    rfl
  | empty n queries rest read =>
    -- A batch without rows ends the trials as the last row does.
    refine ⟨.ok [], rest, w.outside, [], ?_, .finished trial, fun _ _ => rfl⟩
    rw [trials, nextVector, read, List.append_nil]
    rfl
  | row n queries next rest vector others vectors read more ih =>
    rw [trials, nextVector, read]
    simp only [Rows.asVectors, List.head?_cons]
    obtain ⟨start, answer, stop, outside, hsearch⟩ := search_run noted (s.request vector) _ w
    rw [hsearch]
    -- A search that fails ends the run here; after any other the next trial starts from `next`.
    cases answer with
    | error fault =>
      refine ⟨.error (.transport trial fault), next, outside, [.searched _ (.error fault)], rfl,
        .failed trial vector vectors fault, ?_⟩
      intro trials h
      cases h
    | ok reply =>
      obtain ⟨outcome, left, last, events, hrun, htrialled, hleft⟩ :=
        ih (trial + 1) ⟨outside, w.events ++ [.searched (s.request vector) (.ok reply)]⟩
      let this : Trial := ⟨reply.took, milliseconds (stop - start), reply.hits⟩
      refine ⟨outcome.map (this :: ·), left, last,
        .searched (s.request vector) (.ok this.reply) :: events, ?_,
        .answered trial vector vectors this events outcome htrialled, ?_⟩
      · rw [StateT.run_bind, hrun, List.append_assoc]
        rfl
      · intro trials h
        cases outcome with
        | error e => cases h
        | ok trials => exact hleft trials rfl

end QueryStep

end NeighborBench

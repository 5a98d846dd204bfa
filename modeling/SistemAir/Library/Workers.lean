import Mathlib.Algebra.BigOperators.Group.Finset.Basic
import Mathlib.Algebra.BigOperators.Group.Finset.Piecewise
import Mathlib.Algebra.Order.BigOperators.Group.Finset
import Mathlib.Data.Fintype.BigOperators
import SistemAir.Library.Pool

/-! Workers that serve requests over one shared state. A worker whose program has ended
takes the next request, and between two statements of one worker the others go on. -/
namespace StatementProgram

inductive Work (ι ρ ω : Type)
  | take (i : ι) (request : ρ)
  | event (e : Event ι ω)

namespace Prog
variable {S : Type → Type} {ε α : Type}

def finished : Prog S ε α → Bool
  | call _ _ => false
  | _ => true

theorem Only.mono {P Q : (β : Type) → S β → Prop} {p : Prog S ε α} (hp : p.Only P)
    (h : ∀ {β : Type} (statement : S β), P _ statement → Q _ statement) : p.Only Q := by
  induction p with
  | done value => trivial
  | fail error => trivial
  | call statement next ih => exact ⟨h statement hp.1, fun answer => ih answer (hp.2 answer)⟩

theorem Only.stepOnce {P : (β : Type) → S β → Prop} {σ : Type} {exec : Exec S ε σ}
    {p : Prog S ε α} (hp : p.Only P) (s : σ) : (p.stepOnce exec s).1.Only P := by
  cases p with
  | done value => trivial
  | fail error => trivial
  | call statement next =>
    rw [Prog.stepOnce]
    split
    · exact hp.2 _
    · trivial

theorem only_true (p : Prog S ε α) : p.Only fun _ _ => True := by
  induction p with
  | done value => trivial
  | fail error => trivial
  | call statement next ih => exact ⟨trivial, ih⟩

section Follows
variable {Φ : Type} {allow : Protocol S Φ} {P : (β : Type) → S β → Prop}

theorem Only.follows {p : Prog S ε α} (hp : p.Only P)
    (hallow : ∀ φ {β : Type} (statement : S β), P _ statement →
      ∃ after, allow φ _ statement = some after) (φ : Φ) :
    p.Follows allow (fun _ _ => True) φ := by
  induction p generalizing φ with
  | done value => trivial
  | fail error => trivial
  | call statement next ih =>
    obtain ⟨after, hafter⟩ := hallow φ statement hp.1
    exact ⟨after, hafter, fun answer => ih answer (hp.2 answer) (after answer)⟩

theorem Follows.extend {allow' : Protocol S Φ}
    (hextend : ∀ φ {β : Type} (statement : S β) (after : β → Φ),
      allow φ _ statement = some after → allow' φ _ statement = some after)
    {ends : α → Φ → Prop} {p : Prog S ε α} {φ : Φ} (hp : p.Follows allow ends φ) :
    p.Follows allow' ends φ := by
  induction p generalizing φ with
  | done value => exact hp
  | fail error => trivial
  | call statement next ih =>
    obtain ⟨after, hafter, hnext⟩ := hp
    exact ⟨after, hextend φ statement after hafter, fun answer => ih answer (hnext answer)⟩

end Follows

end Prog

namespace Pool
open Prog
variable {S : Type → Type} {ε α ι ρ σ ω : Type} [DecidableEq ι]
variable (exec : Exec S ε σ) (env : ω → σ → σ) (program : ρ → Prog S ε α)

/-- A worker that is still busy takes no request. -/
def work (pool : Pool S ε α ι σ) : Work ι ρ ω → Pool S ε α ι σ
  | .take i request =>
    if (pool.threads i).finished then
      ⟨Function.update pool.threads i (program request), pool.state⟩
    else pool
  | .event e => pool.step exec env e

def Idle (pool : Pool S ε α ι σ) : Prop := ∀ i, (pool.threads i).finished = true

theorem run_events (pool : Pool S ε α ι σ) (events : List (Event ι ω)) :
    Trace.run (work exec env program) pool (events.map .event) =
      Trace.run (step exec env) pool events := by
  induction events generalizing pool with
  | nil => rfl
  | cons e events ih => exact ih (pool.step exec env e)

theorem finished_ended (result : Except ε α) : (ended result : Prog S ε α).finished = true := by
  cases result <;> rfl

theorem work_alone {pool : Pool S ε α ι σ} (hpool : pool.Idle) (i : ι) (request : ρ) :
    ∃ works : List (Work ι ρ ω),
      (Trace.run (work exec env program) pool works).Idle ∧
        (Trace.run (work exec env program) pool works).state =
          ((program request).run exec pool.state).2 := by
  obtain ⟨n, hn⟩ := run_alone exec env
    (⟨Function.update pool.threads i (program request), pool.state⟩ : Pool S ε α ι σ) i
  refine ⟨.take i request :: (List.replicate n (.run i)).map .event, ?_⟩
  rw [Trace.run_cons, run_events, work, if_pos (hpool i), hn]
  simp only [Function.update_self, Function.update_idem]
  refine ⟨fun j => ?_, trivial⟩
  by_cases hj : j = i
  · subst hj
    dsimp only
    rw [Function.update_self]
    exact finished_ended _
  · dsimp only
    rw [Function.update_of_ne hj]
    exact hpool j

/-! ## The request a worker is at -/

theorem left_unique_of_first {β : Type*} {b : β} {left right left' right' : List β}
    (h : b ∉ left) (h' : b ∉ left') (hsame : left ++ b :: right = left' ++ b :: right') :
    left = left' := by
  induction left generalizing left' with
  | nil =>
    cases left' with
    | nil => rfl
    | cons c left' =>
      obtain ⟨rfl, -⟩ := List.cons.inj hsame
      exact absurd List.mem_cons_self h'
  | cons c left ih =>
    cases left' with
    | nil =>
      obtain ⟨rfl, -⟩ := List.cons.inj hsame
      exact absurd List.mem_cons_self h
    | cons d left' =>
      obtain ⟨rfl, hrest⟩ := List.cons.inj hsame
      rw [List.mem_cons, not_or] at h h'
      rw [ih h.2 h'.2 hrest]

section Serving
variable {exec env program} {pool : Pool S ε α ι σ} {i : ι}

theorem threads_work {w : Work ι ρ ω} (hbusy : (pool.threads i).finished = false)
    (hw : w ≠ .event (.run i)) : (pool.work exec env program w).threads i = pool.threads i := by
  cases w with
  | take j request =>
    rw [work]
    split
    · rename_i hfree
      have hne : i ≠ j := by
        rintro rfl
        rw [hbusy] at hfree
        cases hfree
      exact Function.update_of_ne hne ..
    · rfl
  | event e =>
    cases e with
    | env change => rfl
    | run j => exact step_run_of_ne exec env pool fun heq => hw (heq ▸ rfl)

theorem state_work_cases (exec : Exec S ε σ) (env : ω → σ → σ) (program : ρ → Prog S ε α)
    (pool : Pool S ε α ι σ) (w : Work ι ρ ω) :
    (pool.work exec env program w).state = pool.state ∨
    (∃ change, (pool.work exec env program w).state = env change pool.state) ∨
    ∃ (i : ι) (β : Type) (statement : S β) (next : β → Prog S ε α) (answer : β),
      w = .event (.run i) ∧ pool.threads i = .call statement next ∧
        exec _ statement pool.state = .ok (answer, (pool.work exec env program w).state) := by
  cases w with
  | take i request =>
    refine .inl ?_
    rw [Pool.work]
    split <;> rfl
  | event e =>
    cases e with
    | env change => exact .inr (.inl ⟨change, rfl⟩)
    | run i =>
      simp only [Pool.work, step]
      cases hp : pool.threads i with
      | done value => exact .inl rfl
      | fail error => exact .inl rfl
      | call statement next =>
        simp only [Prog.stepOnce]
        cases hout : exec _ statement pool.state with
        | error error => exact .inl rfl
        | ok result => exact .inr (.inr ⟨i, _, statement, next, result.1, rfl, hp, hout⟩)

theorem take_of_busy {w : Work ι ρ ω} (hfree : (pool.threads i).finished = true)
    (hbusy : ((pool.work exec env program w).threads i).finished = false) :
    ∃ request, w = .take i request := by
  suffices hkept : (∀ request, w ≠ .take i request) →
      (pool.work exec env program w).threads i = pool.threads i by
    by_contra hnone
    rw [not_exists] at hnone
    rw [hkept hnone, hfree] at hbusy
    cases hbusy
  intro hw
  cases w with
  | take j request =>
    rw [work]
    split
    · exact Function.update_of_ne (fun heq : i = j => hw request (by rw [heq])) ..
    · rfl
  | event e =>
    cases e with
    | env change => rfl
    | run j =>
      by_cases heq : i = j
      · subst heq
        rw [work, step_run_self]
        cases hp : pool.threads i with
        | done value => rfl
        | fail error => rfl
        | call statement next =>
          rw [hp] at hfree
          cases hfree
      · exact step_run_of_ne exec env pool heq

variable (exec env program pool i) in
/-- Worker `i` took `request` after `before` and has not ended it since. -/
structure Serving (before : List (Work ι ρ ω)) (request : ρ) (since : List (Work ι ρ ω)) :
    Prop where
  free : ((Trace.run (work exec env program) pool before).threads i).finished = true
  busy : ∀ done, done <+: since →
    ((Trace.run (work exec env program) pool
      (before ++ .take i request :: done)).threads i).finished = false

variable {before since : List (Work ι ρ ω)} {request : ρ}

theorem Serving.of_prefix (h : Serving exec env program pool i before request since)
    {done : List (Work ι ρ ω)} (hdone : done <+: since) :
    Serving exec env program pool i before request done :=
  ⟨h.free, fun done' hdone' => h.busy done' (hdone'.trans hdone)⟩

theorem Serving.concat (h : Serving exec env program pool i before request since)
    {w : Work ι ρ ω}
    (hbusy : ((Trace.run (work exec env program) pool
      (before ++ .take i request :: since ++ [w])).threads i).finished = false) :
    Serving exec env program pool i before request (since ++ [w]) := by
  refine ⟨h.free, fun done hdone => ?_⟩
  rcases List.prefix_concat_iff.mp hdone with rfl | hdone
  · simpa using hbusy
  · exact h.busy done hdone

theorem serving_of_busy (hidle : pool.Idle) {works : List (Work ι ρ ω)}
    (hbusy : ((Trace.run (work exec env program) pool works).threads i).finished = false) :
    ∃ before request since, works = before ++ .take i request :: since ∧
      Serving exec env program pool i before request since := by
  induction works using List.reverseRecOn with
  | nil =>
    rw [Trace.run_nil, hidle i] at hbusy
    cases hbusy
  | append_singleton works w ih =>
    cases hfree : ((Trace.run (work exec env program) pool works).threads i).finished with
    | true =>
      have hafter := hbusy
      rw [Trace.run_concat] at hafter
      obtain ⟨request, rfl⟩ := take_of_busy hfree hafter
      refine ⟨works, request, [], rfl, hfree, fun done hdone => ?_⟩
      obtain rfl := List.prefix_nil.mp hdone
      exact hbusy
    | false =>
      obtain ⟨before, request, since, rfl, h⟩ := ih hfree
      exact ⟨before, request, since ++ [w], by simp, h.concat hbusy⟩

theorem Serving.threads_take (h : Serving exec env program pool i before request since) :
    (Trace.run (work exec env program) pool (before ++ [.take i request])).threads i =
      program request := by
  rw [Trace.run_concat, work, if_pos h.free]
  exact Function.update_self ..

theorem Serving.threads_eq (h : Serving exec env program pool i before request since)
    (hquiet : .event (.run i) ∉ since) :
    (Trace.run (work exec env program) pool (before ++ .take i request :: since)).threads i =
      program request := by
  induction since using List.reverseRecOn with
  | nil => exact h.threads_take
  | append_singleton since w ih =>
    rw [List.mem_append, not_or] at hquiet
    have hbusy := h.busy since (List.prefix_append ..)
    rw [← List.cons_append, ← List.append_assoc, Trace.run_concat, threads_work hbusy]
    · exact ih (h.of_prefix (List.prefix_append ..)) hquiet.1
    · exact fun heq => hquiet.2 (by rw [heq]; exact List.mem_singleton_self _)

theorem Serving.threads_of {Q : Prog S ε α → Prop}
    (hQ : ∀ (p : Prog S ε α) (s : σ), Q p → Q (p.stepOnce exec s).1)
    {later : List (Work ι ρ ω)}
    (h : Serving exec env program pool i before request (since ++ later))
    (hsince : Q ((Trace.run (work exec env program) pool
      (before ++ .take i request :: since)).threads i)) :
    Q ((Trace.run (work exec env program) pool
      (before ++ .take i request :: (since ++ later))).threads i) := by
  induction later using List.reverseRecOn with
  | nil => rwa [List.append_nil]
  | append_singleton later w ih =>
    have hprefix : since ++ later <+: since ++ (later ++ [w]) := ⟨[w], by simp⟩
    have hbusy := h.busy _ hprefix
    have hbefore := ih (h.of_prefix hprefix)
    rw [← List.append_assoc, ← List.cons_append, ← List.append_assoc, Trace.run_concat]
    by_cases hw : w = .event (.run i)
    · subst hw
      rw [work, step_run_self]
      exact hQ _ _ hbefore
    · rw [threads_work hbusy hw]
      exact hbefore

theorem Serving.only {P : (β : Type) → S β → Prop}
    (h : Serving exec env program pool i before request since) (hprogram : (program request).Only P) :
    ((Trace.run (work exec env program) pool
      (before ++ .take i request :: since)).threads i).Only P := by
  have hserving : Serving exec env program pool i before request ([] ++ since) := h
  refine hserving.threads_of (Q := fun p => p.Only P) (fun p s hp => hp.stepOnce s) ?_
  rw [h.threads_take]
  exact hprogram

theorem Serving.only_rest {P : (β : Type) → S β → Prop} {quiet later : List (Work ι ρ ω)}
    (h : Serving exec env program pool i before request (quiet ++ .event (.run i) :: later))
    (hquiet : .event (.run i) ∉ quiet)
    (hrest : ((program request).stepOnce exec (Trace.run (work exec env program) pool
      (before ++ .take i request :: quiet)).state).1.Only P) :
    ((Trace.run (work exec env program) pool
      (before ++ .take i request :: (quiet ++ .event (.run i) :: later))).threads i).Only P := by
  have hstart := (h.of_prefix (List.prefix_append ..)).threads_eq hquiet
  have hsplit : quiet ++ .event (.run i) :: later = quiet ++ [.event (.run i)] ++ later := by simp
  rw [hsplit] at h ⊢
  refine h.threads_of (Q := fun p => p.Only P) (fun p s hp => hp.stepOnce s) ?_
  rw [← List.cons_append, ← List.append_assoc, Trace.run_concat, work, step_run_self, hstart]
  exact hrest

theorem Serving.unique {before' since' : List (Work ι ρ ω)} {request' : ρ}
    (h : Serving exec env program pool i before request since)
    (h' : Serving exec env program pool i before' request' since')
    (hsame : before ++ .take i request :: since = before' ++ .take i request' :: since') :
    before = before' ∧ request = request' ∧ since = since' := by
  have hlater {before₁ since₁ before₂ since₂ : List (Work ι ρ ω)} {request₁ request₂ : ρ}
      (h₁ : Serving exec env program pool i before₁ request₁ since₁)
      (h₂ : Serving exec env program pool i before₂ request₂ since₂)
      (mid : List (Work ι ρ ω)) (hbefore : before₂ = before₁ ++ mid)
      (hrest : Work.take i request₁ :: since₁ = mid ++ .take i request₂ :: since₂) :
      before₁ = before₂ ∧ request₁ = request₂ ∧ since₁ = since₂ := by
    cases mid with
    | nil =>
      obtain ⟨hhead, rfl⟩ := List.cons.inj hrest
      cases hhead
      exact ⟨by rw [hbefore, List.append_nil], rfl, rfl⟩
    | cons w mid =>
      -- Worker `i` would have been busy where it took the later request.
      obtain ⟨rfl, rfl⟩ := List.cons.inj hrest
      have hfree := h₂.free
      rw [hbefore, h₁.busy mid (List.prefix_append ..)] at hfree
      cases hfree
  rcases List.append_eq_append_iff.mp hsame with ⟨mid, hbefore, hrest⟩ | ⟨mid, hbefore, hrest⟩
  · exact hlater h h' mid hbefore hrest
  · obtain ⟨rfl, rfl, rfl⟩ := hlater h' h mid hbefore hrest
    exact ⟨rfl, rfl, rfl⟩

end Serving

section Round
variable {A : Prog S ε α → Prop} {C : σ → Prop} {p : Prog S ε α} {f : σ → σ}
  (works : ι → List (Work ι ρ ω))

/-- One worker after another comes to the same point of its program, and each does the same to
the state. -/
theorem run_round
    (hone : ∀ (pool : Pool S ε α ι σ) i, A (pool.threads i) → C pool.state →
      Trace.run (work exec env program) pool (works i) =
        ⟨Function.update pool.threads i p, f pool.state⟩ ∧ C (f pool.state))
    {workers : List ι} (hnodup : workers.Nodup) {pool : Pool S ε α ι σ}
    (hthreads : ∀ i ∈ workers, A (pool.threads i)) (hstate : C pool.state) :
    ∃ pool', Trace.run (work exec env program) pool (workers.flatMap works) = pool' ∧
      (∀ i ∈ workers, pool'.threads i = p) ∧
      (∀ i ∉ workers, pool'.threads i = pool.threads i) ∧
      pool'.state = f^[workers.length] pool.state ∧ C pool'.state := by
  induction workers generalizing pool with
  | nil =>
    refine ⟨pool, rfl, fun i hi => ?_, fun _ _ => rfl, rfl, hstate⟩
    cases hi
  | cons j workers ih =>
    obtain ⟨hfresh, hrest⟩ := List.nodup_cons.mp hnodup
    obtain ⟨hrun, hafter⟩ := hone pool j (hthreads j List.mem_cons_self) hstate
    have hothers (i : ι) (hi : i ∈ workers) : A (Function.update pool.threads j p i) := by
      have hne : i ≠ j := fun heq => hfresh (heq ▸ hi)
      rw [Function.update_of_ne hne]
      exact hthreads i (List.mem_cons_of_mem j hi)
    obtain ⟨pool', hrun', hin, hout, hstate', hC⟩ :=
      @ih hrest ⟨Function.update pool.threads j p, f pool.state⟩ hothers hafter
    refine ⟨pool', ?_, fun i hi => ?_, fun i hi => ?_, hstate', hC⟩
    · rw [List.flatMap_cons, Trace.run_append, hrun, hrun']
    · rcases List.mem_cons.mp hi with rfl | hi
      · exact (hout i hfresh).trans (Function.update_self ..)
      · exact hin i hi
    · rw [List.mem_cons, not_or] at hi
      exact (hout i hi.2).trans (Function.update_of_ne hi.1 ..)

end Round

/-! ## Invariants over the phases of all workers -/

section Protocol
variable {Φ : Type} {exec env program} {allow : Protocol S Φ} {init : Φ}
  {V : σ → Prop} {may : σ → ω → Prop} {J : (ι → Φ) → σ → Prop}

def Admits (may : σ → ω → Prop) (pool : Pool S ε α ι σ) : Work ι ρ ω → Prop
  | .event (.env change) => may pool.state change
  | _ => True

instance Admits.decidable [∀ s change, Decidable (may s change)] (pool : Pool S ε α ι σ) :
    (w : Work ι ρ ω) → Decidable (Admits may pool w)
  | .event (.env change) => inferInstanceAs (Decidable (may pool.state change))
  | .event (.run _) => inferInstanceAs (Decidable True)
  | .take _ _ => inferInstanceAs (Decidable True)

omit [DecidableEq ι] in
theorem admits_true (pool : Pool S ε α ι σ) (w : Work ι ρ ω) : Admits (fun _ _ => True) pool w := by
  cases w with
  | take i request => trivial
  | event e => cases e <;> trivial

variable (allow J) in
/-- Every worker is in a phase of the protocol, and phases and state satisfy `J`. -/
def Keeps (pool : Pool S ε α ι σ) : Prop :=
  ∃ φ : ι → Φ, (∀ i, (pool.threads i).Follows allow (fun _ _ => True) (φ i)) ∧ J φ pool.state

/-- In a state that `V` holds of, `J` survives a request that is taken, an allowed statement
and the surroundings. -/
structure Invariant (exec : Exec S ε σ) (env : ω → σ → σ) (allow : Protocol S Φ) (init : Φ)
    (V : σ → Prop) (may : σ → ω → Prop) (J : (ι → Φ) → σ → Prop) : Prop where
  take : ∀ φ s i, J φ s → J (Function.update φ i init) s
  run : ∀ φ s i {β : Type} (statement : S β) (after : β → Φ) (answer : β) (s' : σ), V s →
    J φ s → allow (φ i) _ statement = some after → exec _ statement s = .ok (answer, s') →
      J (Function.update φ i (after answer)) s'
  env : ∀ φ s change, J φ s → may s change → J φ (env change s)

variable (hJ : Invariant exec env allow init V may J)
  (hprogram : ∀ request, (program request).Follows allow (fun _ _ => True) init)

include hJ hprogram

theorem Keeps.work {pool : Pool S ε α ι σ} (hpool : pool.Keeps allow J) (hV : V pool.state)
    (w : Work ι ρ ω) (hw : pool.Admits may w) : (pool.work exec env program w).Keeps allow J := by
  obtain ⟨φ, hthreads, hstate⟩ := hpool
  -- Only worker `i` has moved.
  have hmoved (i : ι) (p : Prog S ε α) (x : Φ) (hp : p.Follows allow (fun _ _ => True) x) (j : ι) :
      (Function.update pool.threads i p j).Follows allow (fun _ _ => True)
        (Function.update φ i x j) := by
    by_cases hj : j = i
    · subst hj
      rw [Function.update_self, Function.update_self]
      exact hp
    · rw [Function.update_of_ne hj, Function.update_of_ne hj]
      exact hthreads j
  cases w with
  | take i request =>
    rw [Pool.work]
    split
    · exact ⟨_, hmoved i _ init (hprogram request), hJ.take φ pool.state i hstate⟩
    · exact ⟨φ, hthreads, hstate⟩
  | event e =>
    cases e with
    | env change => exact ⟨φ, hthreads, hJ.env φ pool.state change hstate hw⟩
    | run i =>
      have hsame : (pool.threads i).stepOnce exec pool.state = (pool.threads i, pool.state) →
          (pool.step exec env (.run i)).Keeps allow J := by
        intro hstep
        refine ⟨φ, fun j => ?_, ?_⟩
        · simp only [step, hstep, Function.update_eq_self]
          exact hthreads j
        · simp only [step, hstep]
          exact hstate
      have hthread := hthreads i
      cases hp : pool.threads i with
      | done value => exact hsame (by rw [hp]; rfl)
      | fail error => exact hsame (by rw [hp]; rfl)
      | call statement next =>
        rw [hp] at hthread
        obtain ⟨after, hafter, hnext⟩ := hthread
        cases hout : exec _ statement pool.state with
        | error error =>
          refine ⟨φ, fun j => ?_, ?_⟩
          · simp only [Pool.work, step, hp, Prog.stepOnce, hout]
            have hfail := hmoved i (.fail error) (φ i) trivial j
            rwa [Function.update_eq_self i φ] at hfail
          · simp only [Pool.work, step, hp, Prog.stepOnce, hout]
            exact hstate
        | ok result =>
          obtain ⟨answer, s'⟩ := result
          refine ⟨Function.update φ i (after answer), ?_, ?_⟩
          · simp only [Pool.work, step, hp, Prog.stepOnce, hout]
            exact hmoved i (next answer) (after answer) (hnext answer)
          · simp only [Pool.work, step, hp, Prog.stepOnce, hout]
            exact hJ.run φ pool.state i statement after answer s' hV hstate hafter hout

theorem always_keeps {pool : Pool S ε α ι σ} (hpool : pool.Keeps allow J)
    {works : List (Work ι ρ ω)}
    (hV : Trace.Always (fun pool => V pool.state) (work exec env program) pool works)
    (hworks : Trace.Admissible (Admits may) (work exec env program) pool works) :
    Trace.Always (Keeps allow J) (work exec env program) pool works :=
  Trace.always_of_admissible (fun _ w hpool hw => Keeps.work hJ hprogram hpool hw.1 w hw.2)
    (hworks.and_always hV) hpool

omit [DecidableEq ι] hJ hprogram in
theorem Idle.keeps {pool : Pool S ε α ι σ} (hidle : pool.Idle) (φ : ι → Φ)
    (hstate : J φ pool.state) : pool.Keeps allow J := by
  refine ⟨φ, fun i => ?_, hstate⟩
  have hfinished := hidle i
  cases hp : pool.threads i with
  | done value => trivial
  | fail error => trivial
  | call statement next =>
    rw [hp] at hfinished
    cases hfinished

end Protocol

/-! ## Workers that issue statements of some kind only -/

section Only
variable {P : (β : Type) → S β → Prop} {I : σ → Prop} {may : σ → ω → Prop}

noncomputable def freely (P : (β : Type) → S β → Prop) : Protocol S Unit := by
  classical exact fun _ β statement => if P β statement then some fun _ => () else none

theorem follows_freely_iff {p : Prog S ε α} {φ : Unit} :
    p.Follows (freely P) (fun _ _ => True) φ ↔ p.Only P := by
  induction p generalizing φ with
  | done value => exact Iff.rfl
  | fail error => exact Iff.rfl
  | call statement next ih =>
    constructor
    · rintro ⟨after, hafter, hnext⟩
      refine ⟨?_, fun answer => ih answer |>.mp (hnext answer)⟩
      by_contra hnot
      rw [freely, if_neg hnot] at hafter
      cases hafter
    · rintro ⟨hstatement, hnext⟩
      exact ⟨_, if_pos hstatement, fun answer => ih answer |>.mpr (hnext answer)⟩

theorem always_only (hprogram : ∀ request, (program request).Only P)
    (hexec : ∀ {β : Type} (statement : S β) (s : σ) (answer : β) (s' : σ), P _ statement → I s →
      exec _ statement s = .ok (answer, s') → I s')
    (henv : ∀ s change, I s → may s change → I (env change s))
    {pool : Pool S ε α ι σ} (hthreads : ∀ i, (pool.threads i).Only P) (hI : I pool.state)
    {works : List (Work ι ρ ω)}
    (hworks : Trace.Admissible (Admits may) (work exec env program) pool works) :
    Trace.Always (fun pool => (∀ i, (pool.threads i).Only P) ∧ I pool.state)
      (work exec env program) pool works := by
  have hrun (φ : ι → Unit) (s : σ) (i : ι) {β : Type} (statement : S β) (after : β → Unit)
      (answer : β) (s' : σ) (h : I s) (hafter : freely P (φ i) _ statement = some after)
      (hout : exec _ statement s = .ok (answer, s')) : I s' := by
    refine hexec statement s answer s' ?_ h hout
    by_contra hnot
    rw [freely, if_neg hnot] at hafter
    cases hafter
  have hJ : Invariant exec env (freely P) () (fun _ => True) may (fun _ : ι → Unit => I) :=
    ⟨fun _ _ _ h => h, fun φ s i _ statement after answer s' _ => hrun φ s i statement after answer s',
      fun _ s change => henv s change⟩
  have hkeeps := always_keeps hJ (fun request => follows_freely_iff.mpr (hprogram request))
    ⟨fun _ => (), fun i => follows_freely_iff.mpr (hthreads i), hI⟩ (fun _ _ => trivial) hworks
  intro done hdone
  obtain ⟨φ, hfollows, hstate⟩ := hkeeps done hdone
  exact ⟨fun i => follows_freely_iff.mp (hfollows i), hstate⟩

omit [DecidableEq ι] in
theorem Idle.only {pool : Pool S ε α ι σ} (hidle : pool.Idle) (i : ι) :
    (pool.threads i).Only P := by
  have hfinished := hidle i
  cases hp : pool.threads i with
  | done value => trivial
  | fail error => trivial
  | call statement next =>
    rw [hp] at hfinished
    cases hfinished

end Only

/-! ## Counting the workers in a phase -/

section InFlight
variable {Φ : Type} [Fintype ι] (P : Φ → Bool) (φ : ι → Φ)

def inFlight : Nat := ∑ i, (P (φ i)).toNat

omit [DecidableEq ι] in
theorem inFlight_le_card : inFlight P φ ≤ Fintype.card ι := by
  calc inFlight P φ ≤ ∑ _i : ι, 1 := Finset.sum_le_sum fun i _ => Bool.toNat_le (P (φ i))
    _ = Fintype.card ι := by simp

theorem inFlight_update (i : ι) (x : Φ) :
    inFlight P (Function.update φ i x) + (P (φ i)).toNat = inFlight P φ + (P x).toNat := by
  have hsum : inFlight P (Function.update φ i x) =
      ∑ j, Function.update (fun j => (P (φ j)).toNat) i (P x).toNat j := by
    refine Finset.sum_congr rfl fun j _ => ?_
    by_cases hj : j = i
    · subst hj
      rw [Function.update_self, Function.update_self]
    · rw [Function.update_of_ne hj, Function.update_of_ne hj]
  have hrest : (P (φ i)).toNat + ∑ j ∈ Finset.univ.erase i, (P (φ j)).toNat = inFlight P φ :=
    Finset.add_sum_erase Finset.univ (fun j => (P (φ j)).toNat) (Finset.mem_univ i)
  rw [hsum, Finset.sum_update_of_mem (Finset.mem_univ i), Finset.sdiff_singleton_eq_erase]
  omega

end InFlight

end Pool

end StatementProgram

import Mathlib.Data.List.Induction
import SistemAir.Library.Program
import SistemAir.Library.Trace

/-! Programs interleaved over one shared state. At each event either one program
executes its next statement or the surroundings change the state. -/
namespace StatementProgram

inductive Event (ι ω : Type)
  | run (i : ι)
  | env (change : ω)
  deriving DecidableEq, Repr

theorem Event.exists_first_env {ι ω : Type} {events : List (Event ι ω)}
    (h : ∃ change, Event.env change ∈ events) :
    ∃ runs change, runs ++ [.env change] <+: events ∧ ∀ other, Event.env other ∉ runs := by
  induction events with
  | nil =>
    obtain ⟨change, hmem⟩ := h
    cases hmem
  | cons e events ih =>
    cases e with
    | env change =>
      exact ⟨[], change, List.prefix_append [_] events, fun _ => List.not_mem_nil⟩
    | run i =>
      obtain ⟨change, hmem⟩ := h
      have htail := (List.mem_cons.mp hmem).resolve_left nofun
      obtain ⟨runs, change', hprefix, hruns⟩ := ih ⟨change, htail⟩
      refine ⟨.run i :: runs, change', List.cons_prefix_cons.mpr ⟨rfl, hprefix⟩, fun other => ?_⟩
      rw [List.mem_cons, not_or]
      exact ⟨nofun, hruns other⟩

structure Pool (S : Type → Type) (ε α ι σ : Type) where
  threads : ι → Prog S ε α
  state : σ

namespace Pool
variable {S : Type → Type} {ε α ι σ ω : Type} [DecidableEq ι]
variable (exec : Exec S ε σ) (env : ω → σ → σ)

def step (pool : Pool S ε α ι σ) : Event ι ω → Pool S ε α ι σ
  | .run i =>
    let out := (pool.threads i).stepOnce exec pool.state
    ⟨Function.update pool.threads i out.1, out.2⟩
  | .env change => ⟨pool.threads, env change pool.state⟩

theorem step_run_self (pool : Pool S ε α ι σ) (i : ι) :
    (pool.step exec env (.run i)).threads i =
      ((pool.threads i).stepOnce exec pool.state).1 :=
  Function.update_self ..

theorem step_run_of_ne (pool : Pool S ε α ι σ) {i j : ι} (hne : j ≠ i) :
    (pool.step exec env (.run i)).threads j = pool.threads j :=
  Function.update_of_ne hne ..

def ended : Except ε α → Prog S ε α
  | .ok value => .done value
  | .error error => .fail error

theorem run_alone (pool : Pool S ε α ι σ) (i : ι) :
    ∃ n, Trace.run (step exec env) pool (List.replicate n (.run i)) =
      ⟨Function.update pool.threads i (ended ((pool.threads i).run exec pool.state).1),
        ((pool.threads i).run exec pool.state).2⟩ := by
  obtain ⟨threads, state⟩ := pool
  simp only
  generalize hp : threads i = p
  induction p generalizing threads state with
  | done value =>
    refine ⟨0, ?_⟩
    simp [Prog.run, ended, ← hp]
  | fail error =>
    refine ⟨0, ?_⟩
    simp [Prog.run, ended, ← hp]
  | call statement next ih =>
    cases hexec : exec _ statement state with
    | error error =>
      refine ⟨1, ?_⟩
      rw [Prog.run_call_error exec hexec]
      simp [step, hp, Prog.stepOnce, hexec, ended]
    | ok result =>
      obtain ⟨answer, state'⟩ := result
      obtain ⟨n, hn⟩ := ih answer (Function.update threads i (next answer)) state'
        (Function.update_self ..)
      refine ⟨n + 1, ?_⟩
      rw [Prog.run_call_ok exec hexec, List.replicate_succ, Trace.run_cons]
      simp only [step, hp, Prog.stepOnce, hexec]
      rw [hn, Function.update_idem]

section Under
variable {exec env} {may : (β : Type) → S β → β → Prop} {ok : (β : Type) → S β → Prop}
  {ends : α → Prop} {I : σ → Prop}

theorem step_under {pool : Pool S ε α ι σ} {e : Event ι ω} (hI : I pool.state)
    (hthreads : ∀ i, (pool.threads i).Under may ok ends)
    (hexec : ∀ {β : Type} (statement : S β) (answer : β) (s' : σ), ok _ statement →
      exec _ statement pool.state = .ok (answer, s') → may _ statement answer ∧ I s')
    (henv : ∀ change, e = .env change → I (env change pool.state)) :
    I (pool.step exec env e).state ∧
      ∀ i, ((pool.step exec env e).threads i).Under may ok ends := by
  cases e with
  | env change => exact ⟨henv change rfl, hthreads⟩
  | run i =>
    have hown : I ((pool.threads i).stepOnce exec pool.state).2 ∧
        ((pool.threads i).stepOnce exec pool.state).1.Under may ok ends := by
      have hthread := hthreads i
      cases hp : pool.threads i with
      | done value =>
        rw [hp] at hthread
        exact ⟨hI, hthread⟩
      | fail error => exact ⟨hI, trivial⟩
      | call statement next =>
        rw [hp] at hthread
        cases hout : exec _ statement pool.state with
        | error error =>
          simp only [Prog.stepOnce, hout]
          exact ⟨hI, trivial⟩
        | ok result =>
          obtain ⟨answer, s'⟩ := result
          obtain ⟨hmay, hI'⟩ := hexec statement answer s' hthread.1 hout
          simp only [Prog.stepOnce, hout]
          exact ⟨hI', hthread.2 answer hmay⟩
    refine ⟨hown.1, fun j => ?_⟩
    by_cases hj : j = i
    · subst hj
      rw [step_run_self]
      exact hown.2
    · rw [step_run_of_ne _ _ _ hj]
      exact hthreads j

/-- What the programs assume of their answers is met where, in every state on the way that
satisfies `I`, a statement is answered so and keeps `I`, and the surroundings keep it. -/
theorem run_under {pool : Pool S ε α ι σ} {events : List (Event ι ω)} (hI : I pool.state)
    (hthreads : ∀ i, (pool.threads i).Under may ok ends)
    (hexec : ∀ done, done <+: events → I (Trace.run (step exec env) pool done).state →
      ∀ {β : Type} (statement : S β) (answer : β) (s' : σ), ok _ statement →
        exec _ statement (Trace.run (step exec env) pool done).state = .ok (answer, s') →
          may _ statement answer ∧ I s')
    (henv : ∀ done change, done ++ [.env change] <+: events →
      I (Trace.run (step exec env) pool done).state →
        I (env change (Trace.run (step exec env) pool done).state)) :
    I (Trace.run (step exec env) pool events).state ∧
      ∀ i, ((Trace.run (step exec env) pool events).threads i).Under may ok ends := by
  induction events using List.reverseRecOn with
  | nil => exact ⟨hI, hthreads⟩
  | append_singleton events e ih =>
    obtain ⟨hbefore, hthreads'⟩ := ih
      (fun done hdone => hexec done (hdone.trans (List.prefix_append _ _)))
      (fun done change hdone => henv done change (hdone.trans (List.prefix_append _ _)))
    rw [Trace.run_concat]
    refine step_under hbefore hthreads' (hexec events (List.prefix_append _ _) hbefore) ?_
    rintro change rfl
    exact henv events change List.prefix_rfl hbefore

end Under

end Pool

end StatementProgram

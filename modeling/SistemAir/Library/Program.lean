import Mathlib.Logic.Function.Basic

/-! Requests as programs over database statements. A program is the tree of the
statements it issues, each answer choosing the rest; it can be run in one piece
or one statement at a time among others. -/
namespace StatementProgram

inductive Prog (S : Type → Type) (ε α : Type) : Type 1 where
  | done (value : α) : Prog S ε α
  | fail (error : ε) : Prog S ε α
  | call {β : Type} (statement : S β) (next : β → Prog S ε α) : Prog S ε α

/-- What a statement answers, and the state it leaves; an error leaves none. -/
abbrev Exec (S : Type → Type) (ε σ : Type) := (β : Type) → S β → σ → Except ε (β × σ)

namespace Prog
variable {S : Type → Type} {ε α β γ σ : Type}

def bind : Prog S ε α → (α → Prog S ε β) → Prog S ε β
  | done value, f => f value
  | fail error, _ => fail error
  | call statement next, f => call statement fun answer => (next answer).bind f

instance : Monad (Prog S ε) where
  pure := done
  bind := bind

def perform (statement : S α) : Prog S ε α := call statement done

@[simp] theorem perform_bind (statement : S α) (f : α → Prog S ε β) :
    ((perform statement : Prog S ε α) >>= f) = call statement f := rfl

@[simp] theorem call_bind (statement : S γ) (next : γ → Prog S ε α) (f : α → Prog S ε β) :
    (call statement next >>= f) = call statement fun answer => next answer >>= f := rfl

section Run
variable (exec : Exec S ε σ)

/-- Go on with a statement's answer; its error ends the program in the state `s`
the statement was issued in. -/
def resume (s : σ) (next : γ → σ → Except ε α × σ) : Except ε (γ × σ) → Except ε α × σ
  | .ok (answer, s') => next answer s'
  | .error error => (.error error, s)

def run : Prog S ε α → σ → Except ε α × σ
  | done value, s => (.ok value, s)
  | fail error, s => (.error error, s)
  | call statement next, s => resume s (fun answer s' => (next answer).run s') (exec _ statement s)

@[simp] theorem run_pure (value : α) (s : σ) :
    (pure value : Prog S ε α).run exec s = (.ok value, s) := rfl

@[simp] theorem run_fail (error : ε) (s : σ) :
    (fail error : Prog S ε α).run exec s = (.error error, s) := rfl

theorem run_call (statement : S γ) (next : γ → Prog S ε α) (s : σ) :
    (call statement next).run exec s =
      resume s (fun answer s' => (next answer).run exec s') (exec _ statement s) := rfl

theorem run_call_ok {statement : S γ} {s s' : σ} {answer : γ}
    (h : exec _ statement s = .ok (answer, s')) (next : γ → Prog S ε α) :
    (call statement next).run exec s = (next answer).run exec s' := by
  rw [run_call, h, resume]

theorem run_call_error {statement : S γ} {s : σ} {error : ε}
    (h : exec _ statement s = .error error) (next : γ → Prog S ε α) :
    (call statement next).run exec s = (.error error, s) := by
  rw [run_call, h, resume]

theorem run_ite {c : Prop} [Decidable c] {p q : Prog S ε α} {s : σ} {yes no : Except ε α × σ}
    (hyes : c → p.run exec s = yes) (hno : ¬c → q.run exec s = no) :
    (if c then p else q).run exec s = if c then yes else no := by
  split
  · exact hyes ‹_›
  · exact hno ‹_›

theorem run_bind_ok {p : Prog S ε α} {s s' : σ} {value : α}
    (h : p.run exec s = (.ok value, s')) (f : α → Prog S ε β) :
    (p >>= f).run exec s = (f value).run exec s' := by
  induction p generalizing s with
  | done v =>
    cases h
    rfl
  | fail error => cases h
  | call statement next ih =>
    rw [call_bind]
    cases hexec : exec _ statement s with
    | error error =>
      rw [run_call_error exec hexec] at h
      cases h
    | ok result =>
      obtain ⟨answer, t⟩ := result
      rw [run_call_ok exec hexec] at h ⊢
      exact ih answer h

theorem run_bind_error {p : Prog S ε α} {s s' : σ} {error : ε}
    (h : p.run exec s = (.error error, s')) (f : α → Prog S ε β) :
    (p >>= f).run exec s = (.error error, s') := by
  induction p generalizing s with
  | done v => cases h
  | fail e =>
    cases h
    rfl
  | call statement next ih =>
    rw [call_bind]
    cases hexec : exec _ statement s with
    | error e =>
      rw [run_call_error exec hexec] at h ⊢
      cases h
      rfl
    | ok result =>
      obtain ⟨answer, t⟩ := result
      rw [run_call_ok exec hexec] at h ⊢
      exact ih answer h

theorem run_bind_pure (p : Prog S ε α) (s : σ) (f : α → β) :
    (p >>= fun value => pure (f value)).run exec s =
      ((p.run exec s).1.map f, (p.run exec s).2) := by
  cases hrun : p.run exec s with
  | mk result s' =>
    cases result with
    | error error => rw [run_bind_error exec hrun]; rfl
    | ok value => rw [run_bind_ok exec hrun]; rfl

/-- One statement; a finished program stays as it is. -/
def stepOnce : Prog S ε α → σ → Prog S ε α × σ
  | call statement next, s =>
    match exec _ statement s with
    | .ok (answer, s') => (next answer, s')
    | .error error => (fail error, s)
  | p, s => (p, s)

end Run

/-! What a program may return, whatever its statements answer. -/

section Returns

def Returns (P : α → Prop) : Prog S ε α → Prop
  | done value => P value
  | fail _ => True
  | call _ next => ∀ answer, (next answer).Returns P

theorem returns_of_forall {P : α → Prop} (h : ∀ value, P value) (p : Prog S ε α) : p.Returns P := by
  induction p with
  | done value => exact h value
  | fail error => trivial
  | call statement next ih => exact ih

theorem Returns.bind {P : α → Prop} {Q : β → Prop} {p : Prog S ε α} {f : α → Prog S ε β}
    (hp : p.Returns P) (hf : ∀ value, P value → (f value).Returns Q) : (p >>= f).Returns Q := by
  induction p with
  | done value => exact hf value hp
  | fail error => trivial
  | call statement next ih => exact fun answer => ih answer (hp answer)

theorem returns_bind {Q : β → Prop} {p : Prog S ε α} {f : α → Prog S ε β}
    (hf : ∀ value, (f value).Returns Q) : (p >>= f).Returns Q :=
  Returns.bind (returns_of_forall (fun _ => trivial) p) (P := fun _ => True) fun value _ => hf value

theorem Returns.run {P : α → Prop} {exec : Exec S ε σ} {p : Prog S ε α} (hp : p.Returns P)
    {s : σ} {value : α} (h : (p.run exec s).1 = .ok value) : P value := by
  induction p generalizing s with
  | done v =>
    cases h
    exact hp
  | fail error => cases h
  | call statement next ih =>
    rw [run_call] at h
    cases hexec : exec _ statement s with
    | error error =>
      rw [hexec] at h
      cases h
    | ok result =>
      rw [hexec] at h
      exact ih result.1 (hp result.1) h

end Returns

/-! A program over part of the statements of a larger set. -/

section Lift
variable {T : Type → Type} (f : {β : Type} → S β → T β)

def lift : Prog S ε α → Prog T ε α
  | done value => done value
  | fail error => fail error
  | call statement next => call (f statement) fun answer => (next answer).lift

theorem run_lift {exec : Exec S ε σ} {exec' : Exec T ε σ}
    (h : ∀ {β : Type} (statement : S β) (s : σ), exec' _ (f statement) s = exec _ statement s)
    (p : Prog S ε α) (s : σ) : (p.lift f).run exec' s = p.run exec s := by
  induction p generalizing s with
  | done value => rfl
  | fail error => rfl
  | call statement next ih =>
    rw [lift, run_call, run_call, h]
    cases exec _ statement s with
    | error error => rfl
    | ok result => exact ih result.1 result.2

end Lift

/-! An environment that moves between the statements of a program: before its `n`-th
statement the state becomes `tick n` of what it was. -/

section Ticking

def ticking (tick : Nat → σ → σ) (exec : Exec S ε σ) : Exec S ε (σ × Nat) :=
  fun β statement s =>
    (exec β statement (tick s.2 s.1)).map fun result => (result.1, (result.2, s.2 + 1))

theorem ticking_ok {tick : Nat → σ → σ} {exec : Exec S ε σ} {statement : S γ} {s s' : σ} {n : Nat}
    {answer : γ} (h : exec _ statement (tick n s) = .ok (answer, s')) :
    ticking tick exec _ statement (s, n) = .ok (answer, (s', n + 1)) := by
  simp only [ticking, h]
  rfl

theorem run_ticking (tick : Nat → σ → σ) (exec : Exec S ε σ) {C : σ → Prop}
    (htick : ∀ n s, C s → tick n s = s)
    (hexec : ∀ {β : Type} (statement : S β) (s : σ) (answer : β) (s' : σ), C s →
      exec _ statement s = .ok (answer, s') → C s')
    (p : Prog S ε α) {s : σ} (hs : C s) (n : Nat) :
    (p.run (ticking tick exec) (s, n)).1 = (p.run exec s).1 ∧
      (p.run (ticking tick exec) (s, n)).2.1 = (p.run exec s).2 := by
  induction p generalizing s n with
  | done value => exact ⟨rfl, rfl⟩
  | fail error => exact ⟨rfl, rfl⟩
  | call statement next ih =>
    have hstate := htick n s hs
    cases hout : exec _ statement s with
    | error error =>
      have hticking : ticking tick exec _ statement (s, n) = .error error := by
        simp only [ticking, hstate, hout]
        rfl
      rw [run_call_error _ hticking, run_call_error _ hout]
      exact ⟨rfl, rfl⟩
    | ok result =>
      obtain ⟨answer, s'⟩ := result
      have hticking : ticking tick exec _ statement (s, n) = .ok (answer, (s', n + 1)) :=
        ticking_ok (by rw [hstate]; exact hout)
      rw [run_call_ok _ hticking, run_call_ok _ hout]
      exact ih answer (hexec statement s answer s' hs hout) (n + 1)

end Ticking

/-! Whether a run comes to a statement of some kind. -/

section Issues

def Issues (exec : Exec S ε σ) (P : (β : Type) → S β → Bool) : Prog S ε α → σ → Prop
  | done _, _ => False
  | fail _, _ => False
  | call statement next, s => P _ statement = true ∨
      match exec _ statement s with
      | .ok (answer, s') => (next answer).Issues exec P s'
      | .error _ => False

theorem issues_call_ok {exec : Exec S ε σ} {P : (β : Type) → S β → Bool} {statement : S γ}
    {s s' : σ} {answer : γ} (h : exec _ statement s = .ok (answer, s')) (next : γ → Prog S ε α) :
    (call statement next).Issues exec P s ↔
      P _ statement = true ∨ (next answer).Issues exec P s' := by
  simp only [Issues, h]

end Issues

/-! Two runs from states related by `R`. A program is blind to what `R` leaves open
when no statement on any of its paths can tell two related states apart. -/

section Blind
variable {exec : Exec S ε σ} {R : σ → σ → Prop}

def Alike (R : σ → σ → Prop) : Except ε (α × σ) → Except ε (α × σ) → Prop
  | .ok (answer, s), .ok (answer', s') => answer = answer' ∧ R s s'
  | .error error, .error error' => error = error'
  | _, _ => False

variable (exec R) in
def Blind : Prog S ε α → Prop
  | done _ => True
  | fail _ => True
  | call statement next =>
    (∀ s s', R s s' → Alike R (exec _ statement s) (exec _ statement s')) ∧
      ∀ answer, (next answer).Blind

theorem Blind.bind {p : Prog S ε α} {f : α → Prog S ε β} (hp : p.Blind exec R)
    (hf : ∀ value, (f value).Blind exec R) : (p >>= f).Blind exec R := by
  induction p with
  | done value => exact hf value
  | fail error => trivial
  | call statement next ih => exact ⟨hp.1, fun answer => ih answer (hp.2 answer)⟩

theorem Blind.run_eq {p : Prog S ε α} (hp : p.Blind exec R) {s s' : σ} (h : R s s') :
    (p.run exec s).1 = (p.run exec s').1 := by
  induction p generalizing s s' with
  | done value => rfl
  | fail error => rfl
  | call statement next ih =>
    have halike := hp.1 s s' h
    rw [run_call, run_call]
    cases hs : exec _ statement s with
    | error error =>
      cases hs' : exec _ statement s' with
      | error error' =>
        rw [hs, hs'] at halike
        exact congrArg Except.error halike
      | ok result => rw [hs, hs'] at halike; exact halike.elim
    | ok result =>
      cases hs' : exec _ statement s' with
      | error error => rw [hs, hs'] at halike; exact halike.elim
      | ok result' =>
        rw [hs, hs'] at halike
        obtain ⟨hanswer, hrel⟩ := halike
        rw [resume, resume, hanswer]
        exact ih _ (hp.2 _) hrel

theorem Blind.run_related {p : Prog S ε α} (hp : p.Blind exec R) {s s' : σ} (h : R s s') :
    R (p.run exec s).2 (p.run exec s').2 := by
  induction p generalizing s s' with
  | done value => exact h
  | fail error => exact h
  | call statement next ih =>
    have halike := hp.1 s s' h
    rw [run_call, run_call]
    cases hs : exec _ statement s with
    | error error =>
      cases hs' : exec _ statement s' with
      | error error' => exact h
      | ok result => rw [hs, hs'] at halike; exact halike.elim
    | ok result =>
      cases hs' : exec _ statement s' with
      | error error => rw [hs, hs'] at halike; exact halike.elim
      | ok result' =>
        rw [hs, hs'] at halike
        obtain ⟨hanswer, hrel⟩ := halike
        rw [resume, resume, hanswer]
        exact ih _ (hp.2 _) hrel

end Blind

/-! The statements on the paths of a program. -/

section Only
variable {P : (β : Type) → S β → Prop}

def Only (P : (β : Type) → S β → Prop) : Prog S ε α → Prop
  | done _ => True
  | fail _ => True
  | call statement next => P _ statement ∧ ∀ answer, (next answer).Only P

@[simp] theorem only_pure (value : α) : (pure value : Prog S ε α).Only P := trivial

theorem Only.ite {c : Prop} [Decidable c] {p q : Prog S ε α} (hp : p.Only P) (hq : q.Only P) :
    (if c then p else q).Only P := by
  split
  · exact hp
  · exact hq

theorem Only.bind {p : Prog S ε α} {f : α → Prog S ε β} (hp : p.Only P)
    (hf : ∀ value, (f value).Only P) : (p >>= f).Only P := by
  induction p with
  | done value => exact hf value
  | fail error => trivial
  | call statement next ih => exact ⟨hp.1, fun answer => ih answer (hp.2 answer)⟩

theorem Only.blind {exec : Exec S ε σ} {R : σ → σ → Prop}
    (h : ∀ {β : Type} (statement : S β), P _ statement → ∀ s s', R s s' →
      Alike R (exec _ statement s) (exec _ statement s')) {p : Prog S ε α} (hp : p.Only P) :
    p.Blind exec R := by
  induction p with
  | done value => trivial
  | fail error => trivial
  | call statement next ih =>
    exact ⟨fun s s' hs => h statement hp.1 s s' hs, fun answer => ih answer (hp.2 answer)⟩

theorem Only.run_keeps {exec : Exec S ε σ} {I : σ → Prop}
    (h : ∀ {β : Type} (statement : S β) (s : σ) (answer : β) (s' : σ), P _ statement → I s →
      exec _ statement s = .ok (answer, s') → I s') {p : Prog S ε α} (hp : p.Only P) {s : σ}
    (hs : I s) : I (p.run exec s).2 := by
  induction p generalizing s with
  | done value => exact hs
  | fail error => exact hs
  | call statement next ih =>
    cases hexec : exec _ statement s with
    | error error =>
      rw [run_call_error exec hexec]
      exact hs
    | ok result =>
      obtain ⟨answer, s'⟩ := result
      rw [run_call_ok exec hexec]
      exact ih answer (hp.2 answer) (h statement s answer s' hp.1 hs hexec)

end Only

/-! Programs under interference: others change the state between the statements, and all a
program can count on is how its statements are answered. -/

section Under
variable (may : (β : Type) → S β → β → Prop) (ok : (β : Type) → S β → Prop)

/-- While its statements are answered as `may` has it, the program issues only statements
that are `ok` and returns what `ends` admits. -/
def Under (ends : α → Prop) : Prog S ε α → Prop
  | done value => ends value
  | fail _ => True
  | call statement next => ok _ statement ∧
      ∀ answer, may _ statement answer → (next answer).Under ends

variable {may ok} {ends : α → Prop}

theorem Under.bind {p : Prog S ε α} {f : α → Prog S ε β} {ends' : β → Prop}
    (hp : p.Under may ok ends) (hf : ∀ value, ends value → (f value).Under may ok ends') :
    (p >>= f).Under may ok ends' := by
  induction p with
  | done value => exact hf value hp
  | fail error => trivial
  | call statement next ih => exact ⟨hp.1, fun answer h => ih answer (hp.2 answer h)⟩

theorem Under.ite {c : Prop} [Decidable c] {p q : Prog S ε α} (hp : p.Under may ok ends)
    (hq : q.Under may ok ends) : (if c then p else q).Under may ok ends := by
  split
  · exact hp
  · exact hq

end Under

/-! Protocols: an automaton says which statement may come next; a program follows
it when every path through its answers does. -/

/-- `allow φ statement` is the state after each answer, or `none` where the
statement may not be issued. -/
abbrev Protocol (S : Type → Type) (Φ : Type) := Φ → (β : Type) → S β → Option (β → Φ)

section Follows
variable {Φ : Type} (allow : Protocol S Φ)

/-- Every path follows the protocol from `φ`, and a path that returns does so in
a state `ends` admits for its value. -/
def Follows (ends : α → Φ → Prop) (φ : Φ) : Prog S ε α → Prop
  | done value => ends value φ
  | fail _ => True
  | call statement next => ∃ after, allow φ _ statement = some after ∧
      ∀ answer, (next answer).Follows ends (after answer)

variable {allow} {ends : α → Φ → Prop} {φ : Φ}

theorem Follows.bind {p : Prog S ε α} {f : α → Prog S ε β} {ends' : β → Φ → Prop}
    (hp : p.Follows allow ends φ)
    (hf : ∀ value φ', ends value φ' → (f value).Follows allow ends' φ') :
    (p >>= f).Follows allow ends' φ := by
  induction p generalizing φ with
  | done value => exact hf value φ hp
  | fail error => trivial
  | call statement next ih =>
    obtain ⟨after, hallow, hnext⟩ := hp
    exact ⟨after, hallow, fun answer => ih answer (hnext answer)⟩

end Follows

end Prog

end StatementProgram

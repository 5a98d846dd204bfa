import SistemAir.Library.Program

/-! Programs whose statements may fail. One statement of a run raises an error instead of
taking effect; the program ends there, in the state the statement was issued in. -/
namespace StatementProgram.Prog

variable {S T : Type → Type} {ε α β γ σ : Type}

section Issued
variable (exec : Exec S ε σ) (counts : (β : Type) → S β → Bool)

/-- The states in which a run issues the statements that count. -/
def issuedIn : Prog S ε α → σ → List σ
  | done _, _ => []
  | fail _, _ => []
  | call statement next, s =>
    (if counts _ statement then [s] else []) ++
      match exec _ statement s with
      | .ok (answer, s') => (next answer).issuedIn s'
      | .error _ => []

variable {exec counts}

@[simp] theorem issuedIn_pure (value : α) (s : σ) :
    (pure value : Prog S ε α).issuedIn exec counts s = [] := rfl

@[simp] theorem issuedIn_fail (error : ε) (s : σ) :
    (fail error : Prog S ε α).issuedIn exec counts s = [] := rfl

theorem issuedIn_call_ok {statement : S γ} {s s' : σ} {answer : γ}
    (h : exec _ statement s = .ok (answer, s')) (next : γ → Prog S ε α) :
    (call statement next).issuedIn exec counts s =
      (if counts _ statement then [s] else []) ++ (next answer).issuedIn exec counts s' := by
  simp only [issuedIn, h]

theorem issuedIn_call_error {statement : S γ} {s : σ} {error : ε}
    (h : exec _ statement s = .error error) (next : γ → Prog S ε α) :
    (call statement next).issuedIn exec counts s = if counts _ statement then [s] else [] := by
  simp only [issuedIn, h, List.append_nil]

theorem issuedIn_bind_ok {p : Prog S ε α} {s s' : σ} {value : α}
    (h : p.run exec s = (.ok value, s')) (f : α → Prog S ε β) :
    (p >>= f).issuedIn exec counts s =
      p.issuedIn exec counts s ++ (f value).issuedIn exec counts s' := by
  induction p generalizing s with
  | done v =>
    cases h
    rfl
  | fail error => cases h
  | call statement next ih =>
    rw [call_bind]
    cases hexec : exec _ statement s with
    | error error =>
      rw [run_call_error exec hexec] at h
      cases h
    | ok result =>
      obtain ⟨answer, t⟩ := result
      rw [run_call_ok exec hexec] at h
      rw [issuedIn_call_ok hexec, issuedIn_call_ok hexec, ih answer h, List.append_assoc]

theorem issuedIn_bind_error {p : Prog S ε α} {s s' : σ} {error : ε}
    (h : p.run exec s = (.error error, s')) (f : α → Prog S ε β) :
    (p >>= f).issuedIn exec counts s = p.issuedIn exec counts s := by
  induction p generalizing s with
  | done v => cases h
  | fail e => rfl
  | call statement next ih =>
    rw [call_bind]
    cases hexec : exec _ statement s with
    | error error => rw [issuedIn_call_error hexec, issuedIn_call_error hexec]
    | ok result =>
      obtain ⟨answer, t⟩ := result
      rw [run_call_ok exec hexec] at h
      rw [issuedIn_call_ok hexec, issuedIn_call_ok hexec, ih answer h]

theorem issuedIn_ite {c : Prop} [Decidable c] {p q : Prog S ε α} {s : σ} {yes no : List σ}
    (hyes : c → p.issuedIn exec counts s = yes) (hno : ¬c → q.issuedIn exec counts s = no) :
    (if c then p else q).issuedIn exec counts s = if c then yes else no := by
  split
  · exact hyes ‹_›
  · exact hno ‹_›

theorem issuedIn_lift (f : {β : Type} → S β → T β) {exec' : Exec T ε σ}
    {counts' : (β : Type) → T β → Bool}
    (h : ∀ {β : Type} (statement : S β) (s : σ), exec' _ (f statement) s = exec _ statement s)
    (hcounts : ∀ {β : Type} (statement : S β), counts' _ (f statement) = counts _ statement)
    (p : Prog S ε α) (s : σ) :
    (p.lift f).issuedIn exec' counts' s = p.issuedIn exec counts s := by
  induction p generalizing s with
  | done value => rfl
  | fail error => rfl
  | call statement next ih =>
    simp only [lift, issuedIn, h, hcounts]
    cases exec _ statement s with
    | error error => rfl
    | ok result => exact congrArg _ (ih result.1 result.2)

end Issued

/-! ## Statements that leave the state alone -/

section Only

theorem Only.issuedIn {P : (β : Type) → S β → Prop} {exec : Exec S ε σ}
    {counts : (β : Type) → S β → Bool} (hP : ∀ {β : Type} (statement : S β) (s : σ) (answer : β)
      (s' : σ), P _ statement → exec _ statement s = .ok (answer, s') → s' = s)
    {p : Prog S ε α} (hp : p.Only P) {s : σ} : ∀ t ∈ p.issuedIn exec counts s, t = s := by
  induction p with
  | done value => exact nofun
  | fail error => exact nofun
  | call statement next ih =>
    have hfirst : ∀ t ∈ (if counts _ statement then [s] else []), t = s := by
      split <;> simp
    cases hexec : exec _ statement s with
    | error error =>
      rw [issuedIn_call_error hexec]
      exact hfirst
    | ok result =>
      obtain ⟨answer, s'⟩ := result
      have hrest : s' = s := hP statement s answer s' hp.1 hexec
      rw [issuedIn_call_ok hexec, hrest]
      exact List.forall_mem_append.mpr ⟨hfirst, ih answer (hp.2 answer)⟩

end Only

/-! ## The failing run -/

section Faulty
variable (fault : ε) (counts : (β : Type) → S β → Bool) (exec : Exec S ε σ)

/-- Execution that counts down to the statement that raises `fault`. -/
def faulty : Exec S ε (σ × Option Nat) := fun β statement s =>
  if counts β statement then
    match s.2 with
    | none => (exec β statement s.1).map fun result => (result.1, (result.2, none))
    | some 0 => .error fault
    | some (k + 1) => (exec β statement s.1).map fun result => (result.1, (result.2, some k))
  else (exec β statement s.1).map fun result => (result.1, (result.2, s.2))

theorem run_faulty_none (p : Prog S ε α) (s : σ) :
    p.run (faulty fault counts exec) (s, none) =
      ((p.run exec s).1, ((p.run exec s).2, none)) := by
  induction p generalizing s with
  | done value => rfl
  | fail error => rfl
  | call statement next ih =>
    have hfaulty : faulty fault counts exec _ statement (s, none) =
        (exec _ statement s).map fun result => (result.1, (result.2, none)) := by
      simp only [faulty]
      split <;> rfl
    cases hexec : exec _ statement s with
    | error error =>
      rw [hexec] at hfaulty
      rw [run_call_error _ hexec, run_call_error _ hfaulty]
    | ok result =>
      obtain ⟨answer, s'⟩ := result
      rw [hexec] at hfaulty
      rw [run_call_ok _ hexec, run_call_ok _ hfaulty]
      exact ih answer s'

theorem run_faulty_some (p : Prog S ε α) {s t : σ} {k : Nat}
    (h : (p.issuedIn exec counts s)[k]? = some t) :
    p.run (faulty fault counts exec) (s, some k) = (.error fault, (t, some 0)) := by
  induction p generalizing s k with
  | done value => cases h
  | fail error => cases h
  | call statement next ih =>
    cases hcounts : counts _ statement with
    | true =>
      cases k with
      | zero =>
        have hfaulty : faulty fault counts exec _ statement (s, some 0) = .error fault := by
          simp only [faulty, hcounts, if_true]
        simp only [issuedIn, hcounts, if_true, List.singleton_append, List.getElem?_cons_zero,
          Option.some.injEq] at h
        rw [run_call_error _ hfaulty, h]
      | succ k =>
        simp only [issuedIn, hcounts, if_true, List.singleton_append,
          List.getElem?_cons_succ] at h
        cases hexec : exec _ statement s with
        | error error =>
          rw [hexec] at h
          cases h
        | ok result =>
          obtain ⟨answer, s'⟩ := result
          have hfaulty : faulty fault counts exec _ statement (s, some (k + 1)) =
              .ok (answer, (s', some k)) := by
            simp only [faulty, hcounts, if_true, hexec]
            rfl
          rw [hexec] at h
          rw [run_call_ok _ hfaulty]
          exact ih answer h
    | false =>
      simp only [issuedIn, hcounts, Bool.false_eq_true, if_false, List.nil_append] at h
      cases hexec : exec _ statement s with
      | error error =>
        rw [hexec] at h
        cases h
      | ok result =>
        obtain ⟨answer, s'⟩ := result
        have hfaulty : faulty fault counts exec _ statement (s, some k) =
            .ok (answer, (s', some k)) := by
          simp only [faulty, hcounts, Bool.false_eq_true, if_false, hexec]
          rfl
        rw [hexec] at h
        rw [run_call_ok _ hfaulty]
        exact ih answer h

theorem run_faulty_beyond (p : Prog S ε α) {s : σ} {k : Nat}
    (h : (p.issuedIn exec counts s).length ≤ k) :
    ∃ j, p.run (faulty fault counts exec) (s, some k) =
      ((p.run exec s).1, ((p.run exec s).2, some j)) := by
  induction p generalizing s k with
  | done value => exact ⟨k, rfl⟩
  | fail error => exact ⟨k, rfl⟩
  | call statement next ih =>
    obtain ⟨j, hfaulty, hrest⟩ : ∃ j, faulty fault counts exec _ statement (s, some k) =
        ((exec _ statement s).map fun result => (result.1, (result.2, some j))) ∧
        ∀ answer s', exec _ statement s = .ok (answer, s') →
          ((next answer).issuedIn exec counts s').length ≤ j := by
      cases hcounts : counts _ statement with
      | true =>
        simp only [issuedIn, hcounts, if_true, List.length_append, List.length_singleton] at h
        cases k with
        | zero => omega
        | succ k =>
          refine ⟨k, by simp only [faulty, hcounts, if_true], fun answer s' hexec => ?_⟩
          simp only [hexec] at h
          omega
      | false =>
        simp only [issuedIn, hcounts, Bool.false_eq_true, if_false, List.nil_append] at h
        refine ⟨k, by simp only [faulty, hcounts, Bool.false_eq_true, if_false],
          fun answer s' hexec => ?_⟩
        simpa only [hexec] using h
    cases hexec : exec _ statement s with
    | error error =>
      rw [hexec] at hfaulty
      rw [run_call_error _ hexec, run_call_error _ hfaulty]
      exact ⟨k, rfl⟩
    | ok result =>
      obtain ⟨answer, s'⟩ := result
      rw [hexec] at hfaulty
      rw [run_call_ok _ hexec, run_call_ok _ hfaulty]
      exact ih answer (hrest answer s' hexec)

end Faulty

/-! ## Where the states of a run begin to differ -/

/-- The states up to the one at place `n` are `same`, and the later ones are not; all are
where there is no such place. -/
structure SwitchesAt (same : σ → Prop) (n : Option Nat) (states : List σ) : Prop where
  inside : ∀ i ∈ n, i < states.length
  same_iff : ∀ k t, states[k]? = some t → (same t ↔ ∀ i ∈ n, k ≤ i)

section Switches
variable {same : σ → Prop} {n : Option Nat} {before after states : List σ} {s : σ}

theorem switchesAt_none_iff : SwitchesAt same none states ↔ ∀ t ∈ states, same t := by
  constructor
  · intro h t ht
    obtain ⟨k, hk⟩ := List.mem_iff_getElem?.mp ht
    exact (h.same_iff k t hk).mpr nofun
  · exact fun h => ⟨nofun, fun k t hk => iff_of_true (h t (List.mem_of_getElem? hk)) nofun⟩

theorem switchesAt_zero (hs : same s) (h : ∀ t ∈ states, ¬same t) :
    SwitchesAt same (some 0) (s :: states) := by
  refine ⟨fun i hi => ?_, fun k t hk => ?_⟩
  · cases hi
    simp
  · cases k with
    | zero =>
      cases hk
      exact iff_of_true hs fun i _ => Nat.zero_le i
    | succ k =>
      refine iff_of_false (h t (List.mem_of_getElem? hk)) fun hle => ?_
      exact absurd (hle 0 rfl) (by omega)

theorem SwitchesAt.prepend (hbefore : ∀ t ∈ before, same t) (h : SwitchesAt same n after) :
    SwitchesAt same (n.map (before.length + ·)) (before ++ after) := by
  cases n with
  | none =>
    have hafter := switchesAt_none_iff.mp h
    exact switchesAt_none_iff.mpr (List.forall_mem_append.mpr ⟨hbefore, hafter⟩)
  | some j =>
    have hinside := h.inside j rfl
    refine ⟨fun i hi => ?_, fun k t hk => ?_⟩
    · cases hi
      simp only [List.length_append]
      omega
    · have hplace : (∀ i ∈ (some j).map (before.length + ·), k ≤ i) ↔ k ≤ before.length + j := by
        simp
      rw [hplace]
      by_cases hlt : k < before.length
      · rw [List.getElem?_append_left hlt] at hk
        exact iff_of_true (hbefore t (List.mem_of_getElem? hk)) (by omega)
      · rw [Nat.not_lt] at hlt
        rw [List.getElem?_append_right hlt] at hk
        rw [h.same_iff _ t hk]
        simp only [Option.mem_def, Option.some.injEq, forall_eq']
        omega

theorem SwitchesAt.append (h : SwitchesAt same n before)
    (hafter : ∀ t ∈ after, same t ↔ n = none) : SwitchesAt same n (before ++ after) := by
  refine ⟨fun i hi => ?_, fun k t hk => ?_⟩
  · have hinside := h.inside i hi
    rw [List.length_append]
    omega
  · by_cases hlt : k < before.length
    · rw [List.getElem?_append_left hlt] at hk
      exact h.same_iff k t hk
    · rw [Nat.not_lt] at hlt
      rw [List.getElem?_append_right hlt] at hk
      rw [hafter t (List.mem_of_getElem? hk)]
      cases n with
      | none => exact iff_of_true rfl nofun
      | some i =>
        have hinside := h.inside i rfl
        refine iff_of_false nofun fun hle => ?_
        have hplace := hle i rfl
        omega

end Switches

end StatementProgram.Prog

import Mathlib.Data.List.Induction

/-! Runs of a deterministic step function over a list of inputs, and the two
inductions over them. -/
namespace Trace

variable {σ ι : Type*} (step : σ → ι → σ)

def run (s : σ) (inputs : List ι) : σ := inputs.foldl step s

@[simp] theorem run_nil (s : σ) : run step s [] = s := rfl

@[simp] theorem run_cons (s : σ) (i : ι) (inputs : List ι) :
    run step s (i :: inputs) = run step (step s i) inputs := rfl

theorem run_append (s : σ) (inputs rest : List ι) :
    run step s (inputs ++ rest) = run step (run step s inputs) rest := by
  simp [run, List.foldl_append]

theorem run_concat (s : σ) (inputs : List ι) (i : ι) :
    run step s (inputs ++ [i]) = step (run step s inputs) i := by
  rw [run_append]
  rfl

variable {step}

theorem run_invariant {I : σ → Prop} (hstep : ∀ s i, I s → I (step s i)) (s : σ)
    (inputs : List ι) (hs : I s) : I (run step s inputs) := by
  induction inputs generalizing s with
  | nil => exact hs
  | cons i inputs ih => exact ih (step s i) (hstep s i hs)

def Admissible (ok : σ → ι → Prop) (step : σ → ι → σ) : σ → List ι → Prop
  | _, [] => True
  | s, i :: inputs => ok s i ∧ Admissible ok step (step s i) inputs

instance Admissible.decidable {ok : σ → ι → Prop} [∀ s i, Decidable (ok s i)] :
    (s : σ) → (inputs : List ι) → Decidable (Admissible ok step s inputs)
  | _, [] => inferInstanceAs (Decidable True)
  | s, i :: inputs =>
    have : Decidable (Admissible ok step (step s i) inputs) :=
      Admissible.decidable (step s i) inputs
    inferInstanceAs (Decidable (ok s i ∧ Admissible ok step (step s i) inputs))

theorem admissible_of_forall {ok : σ → ι → Prop} (h : ∀ s i, ok s i) {s : σ}
    {inputs : List ι} : Admissible ok step s inputs := by
  induction inputs generalizing s with
  | nil => trivial
  | cons i inputs ih => exact ⟨h s i, ih⟩

theorem admissible_of_forall_mem {ok : σ → ι → Prop} {s : σ} {inputs : List ι}
    (h : ∀ i ∈ inputs, ∀ s, ok s i) : Admissible ok step s inputs := by
  induction inputs generalizing s with
  | nil => trivial
  | cons i inputs ih =>
    exact ⟨h i List.mem_cons_self s, ih fun j hj => h j (List.mem_cons_of_mem i hj)⟩

theorem Admissible.after {ok : σ → ι → Prop} {s : σ} {inputs rest : List ι}
    (h : Admissible ok step s (inputs ++ rest)) : Admissible ok step (run step s inputs) rest := by
  induction inputs generalizing s with
  | nil => exact h
  | cons i inputs ih => exact ih h.2

theorem Admissible.at_prefix {ok : σ → ι → Prop} {s : σ} {inputs done : List ι} {i : ι}
    (h : Admissible ok step s inputs) (hdone : done ++ [i] <+: inputs) : ok (run step s done) i := by
  obtain ⟨rest, rfl⟩ := hdone
  induction done generalizing s with
  | nil => exact h.1
  | cons j done ih => exact ih h.2

theorem Admissible.last {ok : σ → ι → Prop} {s : σ} {inputs : List ι} {i : ι}
    (h : Admissible ok step s (inputs ++ [i])) : ok (run step s inputs) i :=
  h.at_prefix List.prefix_rfl

/-- Where, under a side invariant `J`, two conditions on a step say the same, they say
the same of every run. -/
theorem admissible_iff_of_invariant {run ok ok' : σ → ι → Prop} {J : σ → Prop}
    (hside : ∀ s i, J s → run s i → J (step s i))
    (hexact : ∀ s i, J s → run s i → (ok s i ↔ ok' s i)) {s : σ} {inputs : List ι}
    (hrun : Admissible run step s inputs) (hJ : J s) :
    Admissible ok step s inputs ↔ Admissible ok' step s inputs := by
  induction inputs generalizing s with
  | nil => exact Iff.rfl
  | cons i inputs ih =>
    exact and_congr (hexact s i hJ hrun.1) (ih hrun.2 (hside s i hJ hrun.1))

theorem admissible_congr {ok ok' : σ → ι → Prop} (h : ∀ s i, ok s i ↔ ok' s i) {s : σ}
    {inputs : List ι} : Admissible ok step s inputs ↔ Admissible ok' step s inputs :=
  admissible_iff_of_invariant (J := fun _ => True) (fun _ _ _ _ => trivial) (fun s i _ _ => h s i)
    (admissible_of_forall fun _ _ => True.intro) trivial

def Always (I : σ → Prop) (step : σ → ι → σ) (s : σ) (inputs : List ι) : Prop :=
  ∀ done, done <+: inputs → I (run step s done)

theorem always_nil {I : σ → Prop} {s : σ} : Always I step s [] ↔ I s := by
  simp [Always]

theorem always_cons {I : σ → Prop} {s : σ} {i : ι} {inputs : List ι} :
    Always I step s (i :: inputs) ↔ I s ∧ Always I step (step s i) inputs := by
  constructor
  · intro h
    refine ⟨h [] List.nil_prefix, fun done hdone => ?_⟩
    exact h (i :: done) (List.cons_prefix_cons.mpr ⟨rfl, hdone⟩)
  · rintro ⟨hs, h⟩ done hdone
    cases done with
    | nil => exact hs
    | cons j done =>
      obtain ⟨rfl, htail⟩ := List.cons_prefix_cons.mp hdone
      exact h done htail

theorem Always.head {I : σ → Prop} {s : σ} {inputs : List ι} (h : Always I step s inputs) :
    I s :=
  h [] List.nil_prefix

theorem Always.last {I : σ → Prop} {s : σ} {inputs : List ι} (h : Always I step s inputs) :
    I (run step s inputs) :=
  h inputs List.prefix_rfl

theorem always_concat {I : σ → Prop} {s : σ} {inputs : List ι} {i : ι}
    (h : Always I step s inputs) (hi : I (run step s (inputs ++ [i]))) :
    Always I step s (inputs ++ [i]) := by
  intro done hdone
  rcases List.prefix_concat_iff.mp hdone with rfl | hdone
  · exact hi
  · exact h done hdone

/-- What holds at the end has held all along, or it began at some step and has held since. -/
theorem always_or_exists_since {I : σ → Prop} {s : σ} {inputs : List ι}
    (h : I (run step s inputs)) :
    Always I step s inputs ∨ ∃ done i rest, inputs = done ++ i :: rest ∧ ¬I (run step s done) ∧
      Always I step (run step s (done ++ [i])) rest := by
  induction inputs using List.reverseRecOn with
  | nil => exact .inl (always_nil.mpr h)
  | append_singleton inputs i ih =>
    by_cases hbefore : I (run step s inputs)
    · refine (ih hbefore).imp (fun halways => always_concat halways h) ?_
      rintro ⟨done, j, rest, rfl, hnot, hsince⟩
      refine ⟨done, j, rest ++ [i], by simp, hnot, always_concat hsince ?_⟩
      rw [← run_append]
      simpa using h
    · exact .inr ⟨inputs, i, [], rfl, hbefore, always_nil.mpr h⟩

theorem exists_since {I : σ → Prop} {s : σ} {inputs : List ι} (hs : ¬I s)
    (h : I (run step s inputs)) :
    ∃ done i rest, inputs = done ++ i :: rest ∧ ¬I (run step s done) ∧
      Always I step (run step s (done ++ [i])) rest :=
  (always_or_exists_since h).resolve_left fun halways => hs halways.head

theorem Admissible.and_always {ok : σ → ι → Prop} {I : σ → Prop} {s : σ} {inputs : List ι}
    (h : Admissible ok step s inputs) (hI : Always I step s inputs) :
    Admissible (fun s i => I s ∧ ok s i) step s inputs := by
  induction inputs generalizing s with
  | nil => trivial
  | cons i inputs ih =>
    rw [always_cons] at hI
    exact ⟨⟨hI.1, h.1⟩, ih h.2 hI.2⟩

theorem Always.admissible {ok : σ → ι → Prop} {I : σ → Prop}
    (hstep : ∀ s i, I s → I (step s i) → ok s i) {s : σ} {inputs : List ι}
    (h : Always I step s inputs) : Admissible ok step s inputs := by
  induction inputs generalizing s with
  | nil => trivial
  | cons i inputs ih =>
    rw [always_cons] at h
    exact ⟨hstep s i h.1 h.2.head, ih h.2⟩

theorem always_of_admissible {ok : σ → ι → Prop} {I : σ → Prop}
    (hstep : ∀ s i, I s → ok s i → I (step s i)) {s : σ} {inputs : List ι}
    (hrun : Admissible ok step s inputs) (hI : I s) : Always I step s inputs := by
  induction inputs generalizing s with
  | nil => exact always_nil.mpr hI
  | cons i inputs ih =>
    exact always_cons.mpr ⟨hI, ih hrun.2 (hstep s i hI hrun.1)⟩

/-- Where, under a side invariant `J`, a step keeps `I` exactly when it is `good`,
`I` holds all along a run exactly when all its steps are good. -/
theorem always_iff_admissible {ok good : σ → ι → Prop} {I J : σ → Prop}
    (hside : ∀ s i, J s → ok s i → J (step s i))
    (hexact : ∀ s i, J s → I s → ok s i → (I (step s i) ↔ good s i)) {s : σ} {inputs : List ι}
    (hrun : Admissible ok step s inputs) (hJ : J s) (hI : I s) :
    Always I step s inputs ↔ Admissible good step s inputs := by
  induction inputs generalizing s with
  | nil => simp [always_nil, Admissible, hI]
  | cons i inputs ih =>
    obtain ⟨hok, hrun⟩ := hrun
    have hJ' := hside s i hJ hok
    rw [always_cons, Admissible]
    constructor
    · rintro ⟨-, hrest⟩
      have hI' : I (step s i) := hrest.head
      exact ⟨(hexact s i hJ hI hok).mp hI', (ih hrun hJ' hI').mp hrest⟩
    · rintro ⟨hgood, hrest⟩
      have hI' := (hexact s i hJ hI hok).mpr hgood
      exact ⟨hI, (ih hrun hJ' hI').mpr hrest⟩

theorem always_and_admissible_iff {also good : σ → ι → Prop} {I : σ → Prop}
    (hexact : ∀ s i, I s → (I (step s i) ∧ also s i ↔ good s i)) {s : σ} {inputs : List ι}
    (hI : I s) :
    Always I step s inputs ∧ Admissible also step s inputs ↔ Admissible good step s inputs := by
  induction inputs generalizing s with
  | nil => simp [always_nil, Admissible, hI]
  | cons i inputs ih =>
    rw [always_cons, Admissible, Admissible]
    constructor
    · rintro ⟨⟨-, hrest⟩, halso, hsteps⟩
      have hI' : I (step s i) := hrest.head
      exact ⟨(hexact s i hI).mp ⟨hI', halso⟩, (ih hI').mp ⟨hrest, hsteps⟩⟩
    · rintro ⟨hgood, hrest⟩
      obtain ⟨hI', halso⟩ := (hexact s i hI).mpr hgood
      obtain ⟨halways, hsteps⟩ := (ih hI').mpr hrest
      exact ⟨⟨hI, halways⟩, halso, hsteps⟩

theorem always_iff_of_step {good : σ → ι → Prop} {I : σ → Prop}
    (hexact : ∀ s i, I s → (I (step s i) ↔ good s i)) {s : σ} (inputs : List ι) (hI : I s) :
    Always I step s inputs ↔ Admissible good step s inputs :=
  always_iff_admissible (J := fun _ => True) (fun _ _ _ _ => trivial)
    (fun s i _ h _ => hexact s i h) (admissible_of_forall fun _ _ => True.intro) trivial hI

end Trace

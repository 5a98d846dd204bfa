import SistemAir.Library.Trace

/-! Forward simulation: a step function whose every step is, through an abstraction
function, a step of a relation that says what the system is for. -/
namespace Refinement

variable {σ τ ι ℓ : Type*}

inductive Runs (spec : τ → ℓ → τ → Prop) : τ → List ℓ → τ → Prop
  | nil (t : τ) : Runs spec t [] t
  | cons {t t' t'' : τ} {l : ℓ} {labels : List ℓ} (hstep : spec t l t')
      (hrest : Runs spec t' labels t'') : Runs spec t (l :: labels) t''

def labels (step : σ → ι → σ) (label : σ → ι → ℓ) : σ → List ι → List ℓ
  | _, [] => []
  | s, i :: inputs => label s i :: labels step label (step s i) inputs

theorem runs_of_simulation (abs : σ → τ) (label : σ → ι → ℓ) {step : σ → ι → σ}
    {ok : σ → ι → Prop} {I : σ → Prop} {spec : τ → ℓ → τ → Prop}
    (hI : ∀ s i, I s → ok s i → I (step s i))
    (hsim : ∀ s i, I s → ok s i → spec (abs s) (label s i) (abs (step s i))) {s : σ}
    {inputs : List ι} (hrun : Trace.Admissible ok step s inputs) (hs : I s) :
    Runs spec (abs s) (labels step label s inputs) (abs (Trace.run step s inputs)) := by
  induction inputs generalizing s with
  | nil => exact .nil _
  | cons i inputs ih =>
    exact .cons (hsim s i hs hrun.1) (ih hrun.2 (hI s i hs hrun.1))

section Since
variable (step : σ → ι → σ) (abs : σ → τ) (label : σ → ι → ℓ) (s : σ) (inputs : List ι)

/-- Since a step that `P` describes, and not before it, `I` has held of the abstract state. -/
def Began (I : τ → Prop) (P : τ → ℓ → Prop) : Prop :=
  ∃ done i rest, inputs = done ++ i :: rest ∧ ¬I (abs (Trace.run step s done)) ∧
    P (abs (Trace.run step s done)) (label (Trace.run step s done) i) ∧
    Trace.Always (fun s => I (abs s)) step (Trace.run step s (done ++ [i])) rest

variable {step abs label s inputs}

theorem always_or_began {ok : σ → ι → Prop} {J : σ → Prop} {spec : τ → ℓ → τ → Prop}
    (hJ : ∀ s i, J s → ok s i → J (step s i))
    (hsim : ∀ s i, J s → ok s i → spec (abs s) (label s i) (abs (step s i)))
    (hrun : Trace.Admissible ok step s inputs) (hs : J s) {I : τ → Prop} {P : τ → ℓ → Prop}
    (hbegins : ∀ t l t', spec t l t' → ¬I t → I t' → P t l)
    (hend : I (abs (Trace.run step s inputs))) :
    Trace.Always (fun s => I (abs s)) step s inputs ∨ Began step abs label s inputs I P := by
  refine (Trace.always_or_exists_since hend).imp_right ?_
  rintro ⟨done, i, rest, rfl, hnot, hsince⟩
  have hdone : done ++ [i] <+: done ++ i :: rest := ⟨rest, by simp⟩
  have hbefore := Trace.always_of_admissible hJ hrun hs done (List.prefix_append ..)
  refine ⟨done, i, rest, rfl, hnot, hbegins _ _ _ (hsim _ i hbefore (hrun.at_prefix hdone)) hnot ?_,
    hsince⟩
  rw [← Trace.run_concat step]
  exact hsince.head

end Since

end Refinement

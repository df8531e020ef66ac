import Mathlib.Logic.Relation

/-!
# Script — code of one party beside others

A host answers requests, some of which may be undefined.  A script is the code of one party: what it
asks of the host, one request after another.  Between two of its requests the other parties may do
anything that a relation `E` allows.  A script meets a specification when it is never left with an
undefined request and ends as the specification says, whatever the others do.
-/

namespace Lib

/-- Requests `ι`, each with its type of replies; an undefined request has no successor. -/
structure Host (σ ι : Type) (ο : ι → Type) where
  step : σ → (i : ι) → Option (σ × ο i)

inductive Script (ι : Type) (ο : ι → Type) (α : Type)
  | done (a : α)
  | ask (i : ι) (k : ο i → Script ι ο α)

namespace Script

variable {σ ι : Type} {ο : ι → Type} {α β : Type}

def bind (c : Script ι ο α) (f : α → Script ι ο β) : Script ι ο β :=
  match c with
  | .done a => f a
  | .ask i k => .ask i fun o => (k o).bind f

instance instMonadScript : Monad (Script ι ο) :=
  { pure := .done
    bind := bind }

/-- One after another, whatever each of them returns. -/
def forEach (f : α → Script ι ο β) : List α → Script ι ο (List β)
  | [] => .done []
  | a :: as => (f a).bind fun b => (forEach f as).bind fun bs => .done (b :: bs)

/-- One request. -/
def request (i : ι) : Script ι ο (ο i) :=
  .ask i .done

/-- One request of code that may throw. -/
def query {ε : Type} (i : ι) : ExceptT ε (Script ι ο) (ο i) :=
  ExceptT.mk (.ask i fun o => .done (.ok o))

theorem pure_eq (a : α) : (Pure.pure a : Script ι ο α) = .done a := rfl

theorem bind_eq (c : Script ι ο α) (f : α → Script ι ο β) : (c >>= f) = c.bind f := rfl

/-- The script alone with the host. -/
def run (h : Host σ ι ο) (s : σ) : Script ι ο α → Option (σ × α)
  | .done a => some (s, a)
  | .ask i k =>
      match h.step s i with
      | none => none
      | some r => run h r.1 (k r.2)

/-! ## Beside others -/

/-- A request of the script, or a step of the others. -/
inductive Step (h : Host σ ι ο) (E : σ → σ → Prop) : σ × Script ι ο α → σ × Script ι ο α → Prop
  | own {s s' : σ} {i : ι} {k : ο i → Script ι ο α} {o : ο i} (hstep : h.step s i = some (s', o)) :
      Step h E (s, .ask i k) (s', k o)
  | others {s s' : σ} (c : Script ι ο α) (hothers : E s s') : Step h E (s, c) (s', c)

abbrev Steps (h : Host σ ι ο) (E : σ → σ → Prop) :
    σ × Script ι ο α → σ × Script ι ο α → Prop :=
  Relation.ReflTransGen (Step h E)

/-- What no step of the others ends. -/
def Stable (E : σ → σ → Prop) (P : σ → Prop) : Prop :=
  ∀ s s', P s → E s s' → P s'

/-- Started in a state with `P`, the script is never left with an undefined request, and where it is
done `Q` holds. -/
def Meets (h : Host σ ι ο) (E : σ → σ → Prop) (P : σ → Prop) (c : Script ι ο α)
    (Q : α → σ → Prop) : Prop :=
  ∀ s, P s → ∀ s' c', Steps h E (s, c) (s', c') →
    (∀ a, c' = .done a → Q a s') ∧ ∀ i k, c' = .ask i k → (h.step s' i).isSome

section Stability

variable {E : σ → σ → Prop} {P : σ → Prop} {φ : Prop}

theorem Stable.and_left (h : Stable E P) : Stable E fun s => φ ∧ P s :=
  fun s s' hs hE => ⟨hs.1, h s s' hs.2 hE⟩

theorem Stable.exists {γ : Type} {P : γ → σ → Prop} (h : ∀ x, Stable E (P x)) :
    Stable E fun s => ∃ x, P x s := by
  rintro s s' ⟨x, hx⟩ hE
  exact ⟨x, h x s s' hx hE⟩

end Stability

section Rules

variable {h : Host σ ι ο} {E : σ → σ → Prop} {P P' : σ → Prop} {Q Q' : α → σ → Prop}
  {c : Script ι ο α}

theorem Meets.mono (hmeets : Meets h E P c Q) (hP : ∀ s, P' s → P s)
    (hQ : ∀ a s, Q a s → Q' a s) : Meets h E P' c Q' := by
  intro s hs s' c' hsteps
  rcases hmeets s (hP s hs) s' c' hsteps with ⟨hdone, hask⟩
  exact ⟨fun a ha => hQ a s' (hdone a ha), hask⟩

/-- What does not depend on the state is known from the start. -/
theorem Meets.of_and_left {φ : Prop} (hmeets : φ → Meets h E P c Q) :
    Meets h E (fun s => φ ∧ P s) c Q :=
  fun s hs => hmeets hs.1 s hs.2

theorem Meets.of_exists {γ : Type} {P : γ → σ → Prop} (hmeets : ∀ x, Meets h E (P x) c Q) :
    Meets h E (fun s => ∃ x, P x s) c Q := by
  rintro s ⟨x, hx⟩
  exact hmeets x s hx

/-- A script that is done stays done, and the others keep what is stable. -/
theorem Meets.done {a : α} (hstable : Stable E (Q a)) (hQ : ∀ s, P s → Q a s) :
    Meets h E P (.done a) Q := by
  intro s hs s' c' hsteps
  have hkept : Q a s' ∧ c' = .done a := by
    generalize hend : (s', c') = cfg at hsteps
    induction hsteps generalizing s' c' with
    | refl =>
        cases hend
        exact ⟨hQ s hs, rfl⟩
    | tail _ hlast ih =>
        rename_i cfg₁ cfg₂ _
        rcases cfg₁ with ⟨s₁, c₁⟩
        rcases ih s₁ c₁ rfl with ⟨hs₁, rfl⟩
        cases hlast with
        | others c hothers =>
            cases hend
            exact ⟨hstable s₁ s' hs₁ hothers, rfl⟩
  rcases hkept with ⟨hQs, rfl⟩
  refine ⟨?_, ?_⟩
  · rintro b hb
    cases hb
    exact hQs
  · rintro i k hk
    cases hk

/-- A request: it is defined wherever the script may have to make it, and the rest of the script goes
on from what it leaves. -/
theorem Meets.ask {i : ι} {k : ο i → Script ι ο α} {R : ο i → σ → Prop} (hstable : Stable E P)
    (hstep : ∀ s, P s → ∃ s' o, h.step s i = some (s', o) ∧ R o s')
    (hrest : ∀ o, Meets h E (R o) (k o) Q) : Meets h E P (.ask i k) Q := by
  intro s hs s' c' hsteps
  -- Either the request is still to be made, or the rest has been running since.
  have hsplit : (P s' ∧ c' = .ask i k) ∨ ∃ o s₁, R o s₁ ∧ Steps h E (s₁, k o) (s', c') := by
    generalize hend : (s', c') = cfg at hsteps
    induction hsteps generalizing s' c' with
    | refl =>
        cases hend
        exact Or.inl ⟨hs, rfl⟩
    | tail _ hlast ih =>
        rename_i cfg₁ cfg₂ _
        rcases cfg₁ with ⟨s₁, c₁⟩
        rcases ih s₁ c₁ rfl with ⟨hs₁, rfl⟩ | ⟨o, s₂, hR, hsteps⟩
        · cases hlast with
          | own hone =>
              cases hend
              rcases hstep s₁ hs₁ with ⟨s₃, o, hdefined, hR⟩
              cases hone.symm.trans hdefined
              exact Or.inr ⟨_, s', hR, Relation.ReflTransGen.refl⟩
          | others c hothers =>
              cases hend
              exact Or.inl ⟨hstable s₁ s' hs₁ hothers, rfl⟩
        · cases hend
          exact Or.inr ⟨o, s₂, hR, hsteps.tail hlast⟩
  rcases hsplit with ⟨hs', rfl⟩ | ⟨o, s₁, hR, hsteps⟩
  · refine ⟨?_, ?_⟩
    · rintro a ha
      cases ha
    · rintro i' k' hk
      cases hk
      rcases hstep s' hs' with ⟨s₂, o, hdefined, _⟩
      simp [hdefined]
  · exact hrest o s₁ hR s' c' hsteps

/-- A script after a script. -/
theorem Meets.bind {f : α → Script ι ο β} {R : β → σ → Prop} (hc : Meets h E P c Q)
    (hf : ∀ a, Meets h E (Q a) (f a) R) : Meets h E P (c.bind f) R := by
  intro s hs s' d hsteps
  -- Either the first script is still running, or the second has been since.
  have hsplit : (∃ c', d = c'.bind f ∧ Steps h E (s, c) (s', c')) ∨
      ∃ a s₁, Steps h E (s, c) (s₁, .done a) ∧ Steps h E (s₁, f a) (s', d) := by
    generalize hend : (s', d) = cfg at hsteps
    induction hsteps generalizing s' d with
    | refl =>
        cases hend
        exact Or.inl ⟨c, rfl, Relation.ReflTransGen.refl⟩
    | tail _ hlast ih =>
        rename_i cfg₁ cfg₂ _
        rcases cfg₁ with ⟨s₁, d₁⟩
        rcases ih s₁ d₁ rfl with ⟨c₁, rfl, hfirst⟩ | ⟨a, s₂, hfirst, hsecond⟩
        · cases c₁ with
          | done a =>
              subst hend
              exact Or.inr ⟨a, s₁, hfirst, Relation.ReflTransGen.single hlast⟩
          | ask i k =>
              cases hlast with
              | own hone =>
                  cases hend
                  exact Or.inl ⟨_, rfl, hfirst.tail (Step.own hone)⟩
              | others _ hothers =>
                  cases hend
                  exact Or.inl ⟨.ask i k, rfl, hfirst.tail (Step.others _ hothers)⟩
        · subst hend
          exact Or.inr ⟨a, s₂, hfirst, hsecond.tail hlast⟩
  rcases hsplit with ⟨c', rfl, hfirst⟩ | ⟨a, s₁, hfirst, hsecond⟩
  · rcases hc s hs s' c' hfirst with ⟨hdone, hask⟩
    cases c' with
    | done a => exact hf a s' (hdone a rfl) s' _ Relation.ReflTransGen.refl
    | ask i k =>
        refine ⟨?_, ?_⟩
        · rintro b hb
          cases hb
        · rintro i' k' hk
          cases hk
          exact hask i k rfl
  · exact hf a s₁ ((hc s hs s₁ _ hfirst).1 a rfl) s' d hsecond

/-- One request at the end of a script. -/
theorem Meets.request {i : ι} {R : ο i → σ → Prop} (hstable : Stable E P)
    (hstep : ∀ s, P s → ∃ s' o, h.step s i = some (s', o) ∧ R o s')
    (hafter : ∀ o, Stable E (R o)) : Meets h E P (Script.request i) R :=
  Meets.ask hstable hstep fun o => Meets.done (hafter o) fun _ hs => hs

/-! ### Code that may throw -/

section Throwing

variable {ε : Type} {R : Except ε β → σ → Prop}

theorem Meets.pure {a : α} {Q : Except ε α → σ → Prop} (hstable : Stable E (Q (.ok a)))
    (hQ : ∀ s, P s → Q (.ok a) s) :
    Meets h E P (Pure.pure a : ExceptT ε (Script ι ο) α).run Q :=
  Meets.done hstable hQ

theorem Meets.throw {e : ε} {Q : Except ε α → σ → Prop} (hstable : Stable E (Q (.error e)))
    (hQ : ∀ s, P s → Q (.error e) s) :
    Meets h E P (throw e : ExceptT ε (Script ι ο) α).run Q :=
  Meets.done hstable hQ

/-- A request, and then the rest of the code. -/
theorem Meets.query_bind {i : ι} {f : ο i → ExceptT ε (Script ι ο) β} {Q : ο i → σ → Prop}
    (hrequest : Meets h E P (Script.request i) Q) (hf : ∀ o, Meets h E (Q o) (f o).run R) :
    Meets h E P ((query i : ExceptT ε (Script ι ο) (ο i)) >>= f).run R := by
  have hscript : Meets h E P ((Script.request i).bind fun o => (f o).run) R :=
    Meets.bind hrequest hf
  exact hscript

/-- The rest of the code runs unless something was thrown. -/
theorem Meets.throwing_bind {c : ExceptT ε (Script ι ο) α} {f : α → ExceptT ε (Script ι ο) β}
    {Q : Except ε α → σ → Prop} (hc : Meets h E P c.run Q)
    (hok : ∀ a, Meets h E (Q (.ok a)) (f a).run R)
    (herror : ∀ e, Meets h E (Q (.error e)) (.done (.error e)) R) :
    Meets h E P (c >>= f).run R := by
  refine Meets.bind hc ?_
  intro out
  cases out with
  | error e => exact herror e
  | ok a => exact hok a

end Throwing

/-- A script that meets its specification also runs alone, and ends as the specification says. -/
theorem Meets.run (hmeets : Meets h E P c Q) {s : σ} (hs : P s) :
    ∃ s' a, c.run h s = some (s', a) ∧ Q a s' := by
  have hreach : ∀ s₁ c₁, Steps h E (s, c) (s₁, c₁) →
      ∃ s' a, c₁.run h s₁ = some (s', a) ∧ Q a s' := by
    intro s₁ c₁ hsteps
    induction c₁ generalizing s₁ with
    | done a => exact ⟨s₁, a, rfl, (hmeets s hs s₁ _ hsteps).1 a rfl⟩
    | ask i k ih =>
        have hsome := (hmeets s hs s₁ _ hsteps).2 i k rfl
        rcases Option.isSome_iff_exists.1 hsome with ⟨⟨s₂, o⟩, hstep⟩
        rcases ih o s₂ (hsteps.tail (Step.own hstep)) with ⟨s', a, hrun, hQ⟩
        exact ⟨s', a, by simp only [Script.run, hstep, hrun], hQ⟩
  exact hreach s c Relation.ReflTransGen.refl

/-! ## Safety alone -/

/-- From this state the script is never left with an undefined request. -/
def Safe (h : Host σ ι ο) (E : σ → σ → Prop) (s : σ) (c : Script ι ο α) : Prop :=
  ∀ s' c', Steps h E (s, c) (s', c') → ∀ i k, c' = .ask i k → (h.step s' i).isSome

theorem Meets.safe (hmeets : Meets h E P c Q) {s : σ} (hs : P s) : Safe h E s c :=
  fun s' c' hsteps => (hmeets s hs s' c' hsteps).2

theorem Safe.done (s : σ) (a : α) : Safe h E s (.done a) := by
  have hmeets : Meets h E (fun _ => True) (.done a) fun _ _ => True :=
    Meets.done (fun _ _ _ _ => trivial) fun _ _ => trivial
  exact hmeets.safe trivial

/-- A script that is about to make an undefined request is not safe. -/
theorem not_safe_ask {s : σ} {i : ι} {k : ο i → Script ι ο α} (hstep : h.step s i = none) :
    ¬ Safe h E s (.ask i k) := by
  intro hsafe
  have hsome := hsafe s (.ask i k) Relation.ReflTransGen.refl i k rfl
  rw [hstep] at hsome
  cases hsome

theorem Safe.meets : Meets h E (fun s => Safe h E s c) c fun _ _ => True :=
  fun _ hs s' c' hsteps => ⟨fun _ _ => trivial, hs s' c' hsteps⟩

/-- Steps of the first script are steps of both. -/
theorem Steps.bind {f : α → Script ι ο β} {s s' : σ} {c' : Script ι ο α}
    (hsteps : Steps h E (s, c) (s', c')) : Steps h E (s, c.bind f) (s', c'.bind f) := by
  generalize hend : (s', c') = cfg at hsteps
  induction hsteps generalizing s' c' with
  | refl =>
      cases hend
      exact Relation.ReflTransGen.refl
  | tail _ hlast ih =>
      rename_i cfg₁ cfg₂ _
      rcases cfg₁ with ⟨s₁, c₁⟩
      have hfirst := ih rfl
      cases hlast with
      | own hone =>
          cases hend
          exact hfirst.tail (Step.own hone)
      | others c hothers =>
          cases hend
          exact hfirst.tail (Step.others _ hothers)

/-- What a script returns is of no account for its safety. -/
theorem safe_bind_done_iff {g : α → β} {s : σ} :
    Safe h E s (c.bind fun a => .done (g a)) ↔ Safe h E s c := by
  constructor
  · intro hsafe s' c' hsteps i k hask
    subst hask
    exact hsafe s' _ hsteps.bind i _ rfl
  · intro hsafe
    have hdone : ∀ a, Meets h E (fun _ => True) (.done (g a)) fun _ _ => True := fun a =>
      Meets.done (fun _ _ _ _ => trivial) fun _ _ => trivial
    exact (Meets.bind Safe.meets hdone).safe hsafe

/-- A run of the first script alone is one of both. -/
theorem steps_bind_of_run {f : α → Script ι ο β} {s s' : σ} {a : α}
    (hrun : c.run h s = some (s', a)) : Steps h E (s, c.bind f) (s', f a) := by
  induction c generalizing s with
  | done b =>
      cases hrun
      exact Relation.ReflTransGen.refl
  | ask i k ih =>
      unfold Script.run at hrun
      split at hrun
      · cases hrun
      · rename_i r hstep
        apply Relation.ReflTransGen.head (Step.own hstep)
        exact ih r.2 hrun

/-- Whether two scripts are safe, one after the other, is up to the second when the first meets its
specification. -/
theorem Meets.safe_bind_iff {f : α → Script ι ο β} {φ : Prop} (hc : Meets h E P c Q) {s : σ}
    (hs : P s) (hf : ∀ a s', Q a s' → (Safe h E s' (f a) ↔ φ)) :
    Safe h E s (c.bind f) ↔ φ := by
  constructor
  · intro hsafe
    rcases hc.run hs with ⟨s', a, hrun, hQ⟩
    apply (hf a s' hQ).1
    intro s₁ c₁ hsteps
    exact hsafe s₁ c₁ ((steps_bind_of_run hrun).trans hsteps)
  · intro hφ
    have hrest : ∀ a, Meets h E (Q a) (f a) fun _ _ => True := by
      intro a s' hQ s₁ c₁ hsteps
      exact ⟨fun _ _ => trivial, (hf a s' hQ).2 hφ s₁ c₁ hsteps⟩
    exact (Meets.bind hc hrest).safe hs

end Rules

end Script
end Lib

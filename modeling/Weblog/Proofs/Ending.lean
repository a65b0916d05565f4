import Weblog.Proofs.Session

/-!
How sessions can end, where the answers that statements are given are some of all that there are:
those of stores with some property, or any answers at all.
-/

namespace Weblog

/-- The answers that statements may be given. -/
abbrev Answers := (q : Statement) → Except DatabaseError q.Answer → Prop

/-- The answers of stores with the property. -/
def Answers.of (I : Store → Prop) : Answers :=
  fun q x => ∃ s, I s ∧ x = q.answer s

/-- Any answers, such as a store gives that may be closed. -/
def Answers.any : Answers :=
  fun _ _ => True

namespace Session

variable {A : Answers} {Q : α → Prop}

/-- Whatever it is answered, the session ends with `Q`. -/
def Surely (A : Answers) (Q : α → Prop) : Session α → Prop
  | .done a => Q a
  | .query q next => ∀ x, A q x → (next x).Surely A Q

theorem Surely.imp {R : α → Prop} {m : Session α} (hm : m.Surely A Q) (h : ∀ a, Q a → R a) :
    m.Surely A R := by
  induction m with
  | done a => exact h a hm
  | query q next ih => exact fun x hx => ih x (hm x hx)

theorem Surely.bind {R : β → Prop} {m : Session α} {f : α → Session β} (hm : m.Surely A Q)
    (hf : ∀ a, Q a → (f a).Surely A R) : (m >>= f).Surely A R := by
  induction m with
  | done a => exact hf a hm
  | query q next ih => exact fun x hx => ih x (hm x hx)

theorem Surely.run {I : Store → Prop} {P : Statement → Prop} {R : α → Prop} {m : Session α}
    (hm : m.Surely (.of I) Q) (honly : m.Only P R)
    (hafter : ∀ q s, P q → I s → I (q.after s)) {s : Store} (hs : I s) : Q (m.run s).1 := by
  induction m generalizing s with
  | done a => exact hm
  | query q next ih =>
      rw [run_query]
      exact ih _ (hm _ ⟨s, hs, rfl⟩) (honly.2 _) (hafter q s honly.1 hs)

theorem Surely.runOn {m : Session α} (hm : m.Surely .any Q) (d : Database) :
    Q (m.runOn d).1 := by
  rw [Session.runOn]
  split
  · generalize d.store = s
    induction m generalizing s with
    | done a => exact hm
    | query q next ih =>
        rw [run_query]
        exact ih _ (hm _ trivial) _
  · induction m with
    | done a => exact hm
    | query q next ih => exact ih _ (hm _ trivial)

end Session

open Session

/-- Whatever it is answered, the work succeeds with `Q` or fails with `E`. -/
structure Settles (A : Answers) (E : ε → Prop) (Q : α → Prop) (w : ExceptT ε Session α) :
    Prop where
  surely : w.run.Surely A fun
    | .ok a => Q a
    | .error e => E e

section

variable {A : Answers} {E : ε → Prop} {Q : α → Prop} {w : ExceptT ε Session α}
  {f : α → ExceptT ε Session β}

theorem settles_pure {a : α} (ha : Q a) : Settles A E Q (pure a : ExceptT ε Session α) :=
  ⟨ha⟩

theorem settles_throw {e : ε} (he : E e) : Settles A E Q (throw e : ExceptT ε Session α) :=
  ⟨he⟩

theorem Settles.imp {R : α → Prop} (hw : Settles A E Q w) (h : ∀ a, Q a → R a) :
    Settles A E R w := by
  refine ⟨hw.surely.imp fun x hx => ?_⟩
  cases x with
  | error e => exact hx
  | ok a => exact h a hx

theorem Settles.bind {R : β → Prop} (hw : Settles A E Q w) (hf : ∀ a, Q a → Settles A E R (f a)) :
    Settles A E R (w >>= f) := by
  constructor
  rw [ExceptT.run_bind]
  refine hw.surely.bind fun x hx => ?_
  cases x with
  | error e => exact hx
  | ok a => exact (hf a hx).surely

theorem Settles.outcome {I : Store → Prop} {P : Statement → Prop} {R : α → Prop}
    (hw : Settles (.of I) E Q w) (hasks : Asks P R w) (hafter : ∀ q s, P q → I s → I (q.after s))
    {s : Store} (hs : I s) :
    (∃ a, (outcome w s).1 = .ok a ∧ Q a) ∨ ∃ e, (outcome w s).1 = .error e ∧ E e := by
  have hrun := hw.surely.run hasks.only hafter hs
  rw [Session.outcome]
  revert hrun
  cases (w.run.run s).1 with
  | error e => exact fun he => .inr ⟨e, rfl, he⟩
  | ok a => exact fun ha => .inl ⟨a, rfl, ha⟩

end

section

variable {A : Answers} {E : StoreError → Prop} {q : Statement}

theorem settles_ask (hq : ∀ e, A q (.error e) → E (.database e)) :
    Settles A E (fun a => A q (.ok a)) (ask q) := by
  refine ⟨fun x hx => ?_⟩
  cases x with
  | error e => exact hq e hx
  | ok a => exact hx

theorem settles_attempt : Settles A E (A q) (attempt q) :=
  ⟨fun _ hx => hx⟩

end

end Weblog

import Weblog.Store.Session

namespace Weblog

/-- The store after a statement, which a refused one leaves as it was. -/
def Statement.after (q : Statement) (s : Store) : Store :=
  match q.exec s with
  | .ok (_, s) => s
  | .error _ => s

/-- What a statement is answered. -/
def Statement.answer (q : Statement) (s : Store) : Except DatabaseError q.Answer :=
  match q.exec s with
  | .ok (r, _) => .ok r
  | .error e => .error e

theorem Statement.after_of_exec_ok {q : Statement} {s s' : Store} {r : q.Answer}
    (h : q.exec s = .ok (r, s')) : q.after s = s' := by
  rw [Statement.after, h]

theorem Statement.after_of_exec_error {q : Statement} {s : Store} {e : DatabaseError}
    (h : q.exec s = .error e) : q.after s = s := by
  rw [Statement.after, h]

theorem Statement.answer_of_exec_ok {q : Statement} {s s' : Store} {r : q.Answer}
    (h : q.exec s = .ok (r, s')) : q.answer s = .ok r := by
  rw [Statement.answer, h]

theorem Statement.answer_of_exec_error {q : Statement} {s : Store} {e : DatabaseError}
    (h : q.exec s = .error e) : q.answer s = .error e := by
  rw [Statement.answer, h]

/-- The statement changes nothing. -/
def Statement.isRead : Statement → Bool
  | .insertUser .. | .updateUser .. | .insertArticle .. | .updateArticle .. | .deleteArticle _
  | .insertComment .. | .deleteComment _ => false
  | _ => true

theorem Statement.after_of_answer_error {q : Statement} {s : Store} {e : DatabaseError}
    (h : q.answer s = .error e) : q.after s = s := by
  cases hexec : q.exec s with
  | ok written =>
      rw [answer_of_exec_ok hexec] at h
      exact nomatch h
  | error e => exact after_of_exec_error hexec

theorem Statement.after_of_isRead {q : Statement} (hq : q.isRead = true) (s : Store) :
    q.after s = s := by
  cases q <;> first | rfl | cases hq

namespace Session

theorem bind_pure (m : Session α) : m >>= pure = m := by
  induction m with
  | done a => rfl
  | query q next ih =>
      rw [bind_query]
      congr 1
      funext r
      exact ih r

theorem bind_assoc (m : Session α) (f : α → Session β) (g : β → Session γ) :
    m >>= f >>= g = m >>= fun a => f a >>= g := by
  induction m with
  | done a => rfl
  | query q next ih =>
      rw [bind_query, bind_query, bind_query]
      congr 1
      funext r
      exact ih r

instance : LawfulMonad Session :=
  LawfulMonad.mk' Session bind_pure (fun _ _ => rfl) bind_assoc

/-- The session and the store after its next statement. -/
def advance : Session α → Store → Session α × Store
  | .done a, s => (.done a, s)
  | .query q next, s => (next (q.answer s), q.after s)

/-- What the session ends with, if it has nothing more to ask. -/
def result? : Session α → Option α
  | .done a => some a
  | .query .. => none

theorem run_query (q : Statement) (next : Except DatabaseError q.Answer → Session α) (s : Store) :
    (Session.query q next).run s = (next (q.answer s)).run (q.after s) := by
  rw [run, Statement.answer, Statement.after]
  cases q.exec s <;> rfl

/-- How work that runs alone ends, and the store after it. -/
def outcome (w : ExceptT ε Session α) (s : Store) : Except ε α × Store :=
  w.run.run s

section

variable {w : ExceptT ε Session α} {f : α → ExceptT ε Session β} {s s' : Store}

theorem outcome_throw (e : ε) (s : Store) :
    outcome (throw e : ExceptT ε Session α) s = (.error e, s) := rfl

theorem outcome_bind (w : ExceptT ε Session α) (f : α → ExceptT ε Session β) (s : Store) :
    outcome (w >>= f) s =
      match outcome w s with
      | (.ok a, s') => outcome (f a) s'
      | (.error e, s') => (.error e, s') := by
  rw [outcome, ExceptT.run_bind, run_bind, outcome]
  rcases w.run.run s with ⟨_ | _, _⟩ <;> rfl

theorem outcome_bind_of_ok {a : α} (h : outcome w s = (.ok a, s')) :
    outcome (w >>= f) s = outcome (f a) s' := by
  rw [outcome_bind, h]

theorem outcome_bind_of_error {e : ε} (h : outcome w s = (.error e, s')) :
    outcome (w >>= f) s = (.error e, s') := by
  rw [outcome_bind, h]

theorem outcome_bind_eq_ok {b : β} (h : outcome (w >>= f) s = (.ok b, s')) :
    ∃ a t, outcome w s = (.ok a, t) ∧ outcome (f a) t = (.ok b, s') := by
  rw [outcome_bind] at h
  rcases hw : outcome w s with ⟨e | a, t⟩
  · rw [hw] at h
    simp at h
  · rw [hw] at h
    exact ⟨a, t, rfl, h⟩

theorem outcome_ask (q : Statement) (s : Store) :
    outcome (ask q) s = ((q.answer s).mapError .database, q.after s) := by
  rw [outcome, ask, ExceptT.run_mk, run_query, run]

theorem outcome_attempt (q : Statement) (s : Store) :
    outcome (attempt q) s = (.ok (q.answer s), q.after s) := by
  rw [outcome, attempt, ExceptT.run_mk, run_query, run]

theorem outcome_attempt_of_ok {q : Statement} {r : q.Answer} (h : q.exec s = .ok (r, s')) :
    outcome (attempt q) s = (.ok (.ok r), s') := by
  rw [outcome_attempt, Statement.answer_of_exec_ok h, Statement.after_of_exec_ok h]

theorem outcome_attempt_of_error {q : Statement} {e : DatabaseError} (h : q.exec s = .error e) :
    outcome (attempt q) s = (.ok (.error e), s) := by
  rw [outcome_attempt, Statement.answer_of_exec_error h, Statement.after_of_exec_error h]

end

/-- Whatever the store answers, the session asks only statements `P` and ends only with `Q`. -/
def Only (P : Statement → Prop) (Q : α → Prop) : Session α → Prop
  | .done a => Q a
  | .query q next => P q ∧ ∀ r, (next r).Only P Q

section

variable {P P' : Statement → Prop} {Q Q' : α → Prop} {m : Session α}

theorem Only.imp (h : m.Only P Q) (hP : ∀ q, P q → P' q) (hQ : ∀ a, Q a → Q' a) :
    m.Only P' Q' := by
  induction m with
  | done a => exact hQ a h
  | query q next ih => exact ⟨hP q h.1, fun r => ih r (h.2 r)⟩

theorem Only.bind {R : β → Prop} {f : α → Session β} (hm : m.Only P Q)
    (hf : ∀ a, Q a → (f a).Only P R) : (m >>= f).Only P R := by
  induction m with
  | done a => exact hf a hm
  | query q next ih => exact ⟨hm.1, fun r => ih r (hm.2 r)⟩

/-- What no statement of the session breaks, the session does not break when it runs alone. -/
theorem Only.run {I : Store → Prop} (hm : m.Only P Q)
    (hI : ∀ q s, P q → I s → I (q.after s)) {s : Store} (hs : I s) :
    I (m.run s).2 ∧ Q (m.run s).1 := by
  induction m generalizing s with
  | done a => exact ⟨hs, hm⟩
  | query q next ih =>
      rw [run_query]
      exact ih _ (hm.2 _) (hI q s hm.1 hs)

end

/-- Whatever the store answers, the work asks only statements `P`, and where it succeeds, then
with `Q`. -/
structure Asks (P : Statement → Prop) (Q : α → Prop) (w : ExceptT ε Session α) : Prop where
  only : w.run.Only P fun x => ∀ a, x = .ok a → Q a

/-- Work that leaves every store as it is. -/
def Reads (w : ExceptT ε Session α) : Prop :=
  Asks (fun q => q.isRead = true) (fun _ => True) w

section

variable {P : Statement → Prop} {Q : α → Prop} {w : ExceptT ε Session α}
  {f : α → ExceptT ε Session β}

theorem asks_pure {a : α} (ha : Q a) : Asks P Q (pure a : ExceptT ε Session α) := by
  constructor
  rintro b ⟨⟩
  exact ha

theorem asks_throw (e : ε) : Asks P Q (throw e : ExceptT ε Session α) := by
  constructor
  rintro b ⟨⟩

theorem Asks.bind {R : β → Prop} (hw : Asks P Q w) (hf : ∀ a, Q a → Asks P R (f a)) :
    Asks P R (w >>= f) := by
  constructor
  rw [ExceptT.run_bind]
  refine hw.only.bind fun x hx => ?_
  cases x with
  | error e => exact (asks_throw e).only
  | ok a => exact (hf a (hx a rfl)).only

theorem Asks.imp {P' : Statement → Prop} (hw : Asks P Q w) (hP : ∀ q, P q → P' q) :
    Asks P' Q w :=
  ⟨hw.only.imp hP fun _ hx => hx⟩

theorem asks_ask {q : Statement} (hq : P q) : Asks P (fun _ => True) (ask q) :=
  ⟨⟨hq, fun _ _ _ => trivial⟩⟩

theorem asks_attempt {q : Statement} (hq : P q) : Asks P (fun _ => True) (attempt q) :=
  ⟨⟨hq, fun _ _ _ => trivial⟩⟩

theorem Asks.outcome {I : Store → Prop} (hw : Asks P Q w)
    (hI : ∀ q s, P q → I s → I (q.after s)) {s : Store} (hs : I s) : I (outcome w s).2 :=
  (hw.only.run hI hs).1

theorem Reads.outcome (hw : Reads w) (s : Store) : (outcome w s).2 = s := by
  refine Asks.outcome (I := (· = s)) hw ?_ rfl
  rintro q s' hq rfl
  exact Statement.after_of_isRead hq _

theorem reads_pure (a : α) : Reads (pure a : ExceptT ε Session α) :=
  asks_pure trivial

theorem reads_throw (e : ε) : Reads (throw e : ExceptT ε Session α) :=
  asks_throw e

theorem Reads.bind (hw : Reads w) (hf : ∀ a, Reads (f a)) : Reads (w >>= f) :=
  Asks.bind hw fun a _ => hf a

theorem reads_ask {q : Statement} (hq : q.isRead = true) : Reads (ask q) :=
  asks_ask hq

end

/-- The session writes at most once: where a statement that is no read is carried out, the session
only reads from then on, and does not end with `C`. A write that is refused does not count. -/
def Single (C : α → Prop) : Session α → Prop
  | .done _ => True
  | .query q next =>
    (∀ e, (next (.error e)).Single C) ∧
      ∀ r, (q.isRead = true → (next (.ok r)).Single C) ∧
        (q.isRead = false → (next (.ok r)).Only (fun q => q.isRead = true) fun a => ¬ C a)

section

variable {C : β → Prop} {m : Session α} {f : α → Session β}

theorem Only.bind_single {Q : α → Prop} (hm : m.Only (fun q => q.isRead = true) Q)
    (hf : ∀ a, Q a → (f a).Single C) : (m >>= f).Single C := by
  induction m with
  | done a => exact hf a hm
  | query q next ih =>
      obtain ⟨hq, hnext⟩ := hm
      refine ⟨fun e => ih _ (hnext _), fun r => ⟨fun _ => ih _ (hnext _), fun hwrite => ?_⟩⟩
      rw [hq] at hwrite
      exact nomatch hwrite

theorem Only.single {m : Session β} {Q : β → Prop} (hm : m.Only (fun q => q.isRead = true) Q) :
    m.Single C := by
  rw [← bind_pure m]
  exact hm.bind_single fun _ _ => trivial

/-- What follows on a session may write only where the session ends with `C'`, which it does not
when it has written. -/
theorem Single.bind {C' : α → Prop} (hm : m.Single C') (hf : ∀ a, (f a).Single C)
    (hread : ∀ a, ¬ C' a → (f a).Only (fun q => q.isRead = true) fun b => ¬ C b) :
    (m >>= f).Single C := by
  induction m with
  | done a => exact hf a
  | query q next ih =>
      refine ⟨fun e => ih _ (hm.1 e), fun r => ⟨fun hq => ih _ ((hm.2 r).1 hq), fun hq => ?_⟩⟩
      exact ((hm.2 r).2 hq).bind hread

theorem Single.map {C' : α → Prop} {g : α → β} (hm : m.Single C') (hg : ∀ a, C (g a) → C' a) :
    (m >>= fun a => pure (g a)).Single C :=
  hm.bind (fun _ => trivial) fun a ha hC => ha (hg a hC)

end

/-- The work only reads, and does not end with `C`. -/
structure Avoids (C : Except ε α → Prop) (w : ExceptT ε Session α) : Prop where
  only : w.run.Only (fun q => q.isRead = true) fun x => ¬ C x

/-- The work writes at most once, and does not end with `C` when it has written. -/
structure WritesOnce (C : Except ε α → Prop) (w : ExceptT ε Session α) : Prop where
  single : w.run.Single C

section

variable {C : Except ε β → Prop} {w : ExceptT ε Session α} {f : α → ExceptT ε Session β}

theorem avoids_pure {b : β} (hb : ¬ C (.ok b)) : Avoids C (pure b : ExceptT ε Session β) :=
  ⟨hb⟩

theorem avoids_throw {e : ε} (he : ¬ C (.error e)) : Avoids C (throw e : ExceptT ε Session β) :=
  ⟨he⟩

theorem Reads.writesOnce {w : ExceptT ε Session β} (hw : Reads w) : WritesOnce C w :=
  ⟨hw.only.single⟩

theorem writesOnce_throw (e : ε) : WritesOnce C (throw e : ExceptT ε Session β) :=
  (reads_throw e).writesOnce

theorem Reads.bind_writesOnce (hw : Reads w) (hf : ∀ a, WritesOnce C (f a)) :
    WritesOnce C (w >>= f) := by
  constructor
  rw [ExceptT.run_bind]
  refine hw.only.bind_single fun x _ => ?_
  cases x with
  | error e => exact (writesOnce_throw e).single
  | ok a => exact (hf a).single

end

section

variable {C : Except StoreError α → Prop} {q : Statement}

theorem avoids_ask_bind {f : q.Answer → ExceptT StoreError Session α} (hq : q.isRead = true)
    (herror : ∀ e, ¬ C (.error (.database e))) (hf : ∀ r, Avoids C (f r)) :
    Avoids C (ask q >>= f) := by
  refine ⟨hq, fun r => ?_⟩
  cases r with
  | error e => exact herror e
  | ok r => exact (hf r).only

theorem writesOnce_attempt_bind
    {f : Except DatabaseError q.Answer → ExceptT StoreError Session α}
    (hrefused : ∀ e, WritesOnce C (f (.error e))) (hdone : ∀ r, Avoids C (f (.ok r))) :
    WritesOnce C (attempt q >>= f) :=
  ⟨fun e => (hrefused e).single,
    fun r => ⟨fun _ => (hdone r).only.single, fun _ => (hdone r).only⟩⟩

theorem writesOnce_ask_bind {f : q.Answer → ExceptT StoreError Session α}
    (hdone : ∀ r, Avoids C (f r)) : WritesOnce C (ask q >>= f) :=
  ⟨fun _ => trivial, fun r => ⟨fun _ => (hdone r).only.single, fun _ => (hdone r).only⟩⟩

end

end Session

end Weblog

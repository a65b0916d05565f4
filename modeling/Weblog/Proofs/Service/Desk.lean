import Mathlib.Data.List.Perm.Subperm
import Weblog.Proofs.Service.Reachability
import Weblog.Proofs.Service.SingleWrite
import Weblog.Proofs.Store.Journal

/-!
Requests that are answered at a time, as a machine that can be run: events say when a request comes
in and whose next statement is carried out. The machine keeps a journal of all statements, and
keeps with each request those that were its own.
-/

namespace Weblog

open Session

/-- A request that is being answered: the statements that have been carried out for it, and what is
left to do. -/
structure Job where
  visit : Visit
  past : List Turn
  rest : Session Response

/-- A request that has just come in. -/
def Visit.job (v : Visit) : Job :=
  ⟨v, [], v.work⟩

/-- The status of the answer, where there is one by now. -/
def Job.status? (job : Job) : Option Nat :=
  match job.rest with
  | .done response => some response.status
  | .query .. => none

structure Desk where
  store : Store
  /-- All requests that have come in, in order. -/
  jobs : List Job
  /-- All statements that have been carried out, in order. -/
  journal : List Turn

namespace Desk

inductive Event where
  | arrive (v : Visit)
  /-- The next statement of the request with the number is carried out, if there is one. -/
  | serve (i : Nat)

def start : Desk := ⟨.empty, [], []⟩

def next (d : Desk) : Event → Desk
  | .arrive v => { d with jobs := d.jobs ++ [v.job] }
  | .serve i =>
    match d.jobs[i]? with
    | none => d
    | some job =>
      match job.rest with
      | .done _ => d
      | .query q next =>
        let turn : Turn := ⟨q, d.store⟩
        { store := turn.after
          jobs := d.jobs.set i ⟨job.visit, job.past ++ [turn], next (q.answer d.store)⟩
          journal := d.journal ++ [turn] }

/-- The desk after the events. -/
def run (events : List Event) : Desk :=
  events.foldl next start

theorem run_append (events : List Event) (e : Event) :
    run (events ++ [e]) = (run events).next e := by
  rw [run, List.foldl_append]
  rfl

theorem next_arrive (d : Desk) (v : Visit) :
    d.next (.arrive v) = { d with jobs := d.jobs ++ [v.job] } := rfl

theorem next_serve (s : Store) (before after : List Job) (journal : List Turn) (v : Visit)
    (past : List Turn) (q : Statement) (next : Except DatabaseError q.Answer → Session Response) :
    Desk.next ⟨s, before ++ ⟨v, past, .query q next⟩ :: after, journal⟩ (.serve before.length) =
      ⟨q.after s, before ++ ⟨v, past ++ [⟨q, s⟩], next (q.answer s)⟩ :: after,
        journal ++ [⟨q, s⟩]⟩ := by
  simp [Desk.next, Turn.after]

theorem next_serve_cases (d : Desk) (i : Nat) :
    d.next (.serve i) = d ∨
      ∃ before after v past q next, d.jobs = before ++ ⟨v, past, .query q next⟩ :: after ∧
        d.next (.serve i) =
          ⟨q.after d.store,
            before ++ ⟨v, past ++ [⟨q, d.store⟩], next (q.answer d.store)⟩ :: after,
            d.journal ++ [⟨q, d.store⟩]⟩ := by
  obtain ⟨s, jobs, journal⟩ := d
  cases hjob : jobs[i]? with
  | none => exact .inl (by simp only [Desk.next, hjob])
  | some job =>
      obtain ⟨v, past, rest⟩ := job
      cases rest with
      | done response => exact .inl (by simp only [Desk.next, hjob])
      | query q next =>
          obtain ⟨hi, hget⟩ := List.getElem?_eq_some_iff.mp hjob
          have hjobs : jobs.take i ++ ⟨v, past, .query q next⟩ :: jobs.drop (i + 1) = jobs := by
            rw [← hget, List.getElem_cons_drop, List.take_append_drop]
          have hlength : (jobs.take i).length = i := List.length_take_of_le (Nat.le_of_lt hi)
          have hnext := next_serve s (jobs.take i) (jobs.drop (i + 1)) journal v past q next
          rw [hlength, hjobs] at hnext
          exact .inr ⟨_, _, v, past, q, next, hjobs.symm, hnext⟩

/-- What holds in the beginning, and what neither a new request nor a statement breaks, holds
after all events. -/
theorem run_induction {P : Desk → Prop} (hstart : P start)
    (harrive : ∀ {s jobs journal} (v : Visit), P ⟨s, jobs, journal⟩ →
      P ⟨s, jobs ++ [v.job], journal⟩)
    (hserve : ∀ {s before after journal v past q next},
      P ⟨s, before ++ ⟨v, past, .query q next⟩ :: after, journal⟩ →
        P ⟨q.after s, before ++ ⟨v, past ++ [⟨q, s⟩], next (q.answer s)⟩ :: after,
          journal ++ [⟨q, s⟩]⟩)
    (events : List Event) : P (run events) := by
  induction events using List.reverseRecOn with
  | nil => exact hstart
  | append_singleton events e ih =>
      rw [run_append]
      -- only the desk that has been come to counts, not how
      generalize run events = d at ih
      cases e with
      | arrive v => exact harrive v ih
      | serve i =>
          rcases next_serve_cases d i with hsame | ⟨before, after, v, past, q, next, hjobs, hnext⟩
          · rw [hsame]
            exact ih
          · rw [hnext]
            obtain ⟨s, jobs, journal⟩ := d
            cases hjobs
            exact hserve ih

theorem journal_run (events : List Event) : Journal (run events).journal (run events).store :=
  run_induction (P := fun d => Journal d.journal d.store) .start (fun _ h => h)
    (fun h => h.carry _) events

theorem perm_past_run (events : List Event) :
    (run events).journal.Perm ((run events).jobs.flatMap Job.past) := by
  refine run_induction (P := fun d => d.journal.Perm (d.jobs.flatMap Job.past)) .nil ?_ ?_ events
  · intro s jobs journal v ih
    rw [List.flatMap_append]
    simpa [Visit.job] using ih
  · intro s before after journal v past q next ih
    simp only [List.flatMap_append, List.flatMap_cons, List.append_assoc] at ih ⊢
    -- the new entry stands last in the journal, and behind those of its own request
    refine (ih.append_right _).trans ?_
    simp only [List.append_assoc]
    exact (List.perm_append_comm.append_left past).append_left _

theorem reachable_run (events : List Event) :
    Traffic.Reachable ⟨(run events).store, ((run events).jobs.map Job.rest).reverse⟩ := by
  refine run_induction (P := fun d => Traffic.Reachable ⟨d.store, (d.jobs.map Job.rest).reverse⟩)
    .refl ?_ ?_ events
  · intro s jobs journal v ih
    rw [List.map_append, List.reverse_append]
    exact ih.tail (.arrive _ v.app v.moment v.request)
  · intro s before after journal v past q next ih
    simp only [List.map_append, List.map_cons, List.reverse_append, List.reverse_cons,
      List.append_assoc, List.singleton_append] at ih ⊢
    exact ih.tail (.serve s _ _ (.query q next))

theorem subperm_middle {l l' k k' : List α} {a : α} :
    (l ++ a :: l').Subperm (k ++ a :: k') ↔ (l ++ l').Subperm (k ++ k') :=
  (List.perm_middle.subperm_right.trans List.perm_middle.subperm_left).trans (List.subperm_cons a)

/-- Whatever can come about in traffic comes about at a desk, where those that are left are never
served again. -/
theorem exists_run {t : Traffic} (ht : t.Reachable) :
    ∃ events, (run events).store = t.store ∧
      t.pending.Subperm ((run events).jobs.map Job.rest) := by
  induction ht with
  | refl => exact ⟨[], rfl, List.nil_subperm⟩
  | tail _ hstep ih =>
      obtain ⟨events, hstore, hpending⟩ := ih
      cases hstep with
      | arrive t app m r =>
          refine ⟨events ++ [.arrive ⟨app, m, r⟩], ?_⟩
          rw [run_append]
          refine ⟨hstore, ?_⟩
          simp only [Desk.next, List.map_append]
          refine ((List.subperm_cons _).mpr hpending).trans ?_
          exact (List.perm_append_singleton _ _).symm.subperm
      | serve s before after w =>
          cases w with
          | done response => exact ⟨events, hstore, hpending⟩
          | query q next =>
              generalize hd : run events = d at hstore hpending
              obtain ⟨_, jobs, journal⟩ := d
              cases hstore
              -- the desk has them in another order, and serves one that has the same left to do
              have hmem : Session.query q next ∈ jobs.map Job.rest :=
                hpending.subset (List.mem_append_right _ List.mem_cons_self)
              obtain ⟨⟨v, past, _⟩, hjob, rfl⟩ := List.mem_map.mp hmem
              obtain ⟨front, back, rfl⟩ := List.append_of_mem hjob
              refine ⟨events ++ [.serve front.length], ?_⟩
              rw [run_append, hd, next_serve]
              refine ⟨rfl, ?_⟩
              simp only [List.map_append, List.map_cons] at hpending ⊢
              exact subperm_middle.mpr (subperm_middle.mp hpending)
      | leave s before after w =>
          refine ⟨events, hstore, (List.Sublist.subperm ?_).trans hpending⟩
          exact (List.sublist_cons_self w after).append_left before

theorem reachable_iff_exists_run {s : Store} :
    Reachable s ↔ ∃ events, (run events).store = s := by
  constructor
  · rintro ⟨pending, ht⟩
    obtain ⟨events, hstore, -⟩ := exists_run ht
    exact ⟨events, hstore⟩
  · rintro ⟨events, rfl⟩
    exact ⟨_, reachable_run events⟩

theorem sound_run (events : List Event) : (run events).store.Sound :=
  Reachable.sound (reachable_iff_exists_run.mpr ⟨events, rfl⟩)

end Desk

/-- Nothing has been changed for the request so far, and one write may be to come; or there has
been one, and what is left only reads and does not end with a conflict. -/
def Job.IsSingle (job : Job) : Prop :=
  (∀ t ∈ job.past, t.isChange = false) ∧ job.rest.Single Response.IsConflict ∨
    job.past.countP Turn.isChange ≤ 1 ∧
      job.rest.Only (fun q => q.isRead = true) fun response => ¬ response.IsConflict

namespace Job

variable {job : Job}

theorem isSingle_serve {v : Visit} {past : List Turn} {q : Statement}
    {next : Except DatabaseError q.Answer → Session Response}
    (h : IsSingle ⟨v, past, .query q next⟩) (s : Store) :
    IsSingle ⟨v, past ++ [⟨q, s⟩], next (q.answer s)⟩ := by
  rcases h with ⟨hquiet, hsingle⟩ | ⟨hcount, honly⟩
  · have hquiet' : Turn.isChange ⟨q, s⟩ = false →
        ∀ t ∈ past ++ [⟨q, s⟩], t.isChange = false := by
      intro hturn t ht
      rcases List.mem_append.mp ht with ht | ht
      · exact hquiet t ht
      · rw [List.mem_singleton.mp ht]
        exact hturn
    cases hanswer : q.answer s with
    | error e =>
        have hsame := Statement.after_of_answer_error hanswer
        exact .inl ⟨hquiet' (Turn.isChange_eq_false_iff.mpr hsame), hsingle.1 e⟩
    | ok r =>
        cases hread : q.isRead with
        | true =>
            have hsame := Statement.after_of_isRead hread s
            exact .inl ⟨hquiet' (Turn.isChange_eq_false_iff.mpr hsame), (hsingle.2 r).1 hread⟩
        | false =>
            have hpast : past.countP Turn.isChange = 0 :=
              List.countP_eq_zero.mpr fun t ht => by simp [hquiet t ht]
            refine .inr ⟨?_, (hsingle.2 r).2 hread⟩
            rw [List.countP_append, hpast, Nat.zero_add]
            exact List.countP_le_length
  · have hturn : Turn.isChange ⟨q, s⟩ = false :=
      Turn.isChange_eq_false_iff.mpr (Statement.after_of_isRead honly.1 s)
    refine .inr ⟨?_, honly.2 _⟩
    rw [List.countP_append, List.countP_singleton, hturn]
    exact hcount

theorem IsSingle.countP_le (h : job.IsSingle) : job.past.countP Turn.isChange ≤ 1 := by
  rcases h with ⟨hquiet, -⟩ | ⟨hcount, -⟩
  · rw [List.countP_eq_zero.mpr fun t ht => by simp [hquiet t ht]]
    exact Nat.zero_le 1
  · exact hcount

theorem IsSingle.unchanged (h : job.IsSingle) (hstatus : job.status? = some 409) :
    ∀ t ∈ job.past, t.after = t.store := by
  obtain ⟨v, past, rest⟩ := job
  rcases h with ⟨hquiet, -⟩ | ⟨-, honly⟩
  · exact fun t ht => Turn.isChange_eq_false_iff.mp (hquiet t ht)
  · cases rest with
    | done response => exact absurd (Option.some.inj hstatus) honly
    | query q next => exact nomatch hstatus

end Job

theorem Visit.isSingle_job (v : Visit) : v.job.IsSingle :=
  .inl ⟨List.forall_mem_nil _, Application.single_respond v.app v.moment v.request⟩

theorem Desk.isSingle_run (events : List Event) : ∀ job ∈ (run events).jobs, job.IsSingle := by
  refine run_induction (P := fun d => ∀ job ∈ d.jobs, job.IsSingle) (List.forall_mem_nil _) ?_ ?_
    events
  · intro s jobs journal v ih job hjob
    rcases List.mem_append.mp hjob with hjob | hjob
    · exact ih job hjob
    · rw [List.mem_singleton.mp hjob]
      exact v.isSingle_job
  · intro s before after journal v past q next ih job hjob
    rcases List.mem_append.mp hjob with hjob | hjob
    · exact ih job (List.mem_append_left _ hjob)
    · rcases List.mem_cons.mp hjob with rfl | hjob
      · exact Job.isSingle_serve (ih _ (List.mem_append_right _ List.mem_cons_self)) s
      · exact ih job (List.mem_append_right _ (List.mem_cons_of_mem _ hjob))

end Weblog

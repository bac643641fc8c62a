import BrokerLink.Session.Move

/-!
# Coming to rest

Left to themselves, without callers, peer and clock, the tasks and the opening call come
to rest: each of their steps leaves less to do (`nearer_of_advance`). Work is counted in
the bytes and portions on their way, in what stands in queues and in hands, and, where
that stays the same, in chores.
-/

namespace BrokerLink

def Receiving.work : Receiving → Nat
  | reading => 1
  | holding _ => 4
  | ended => 0

def Telling.work : Telling → Nat
  | working _ _ => 2
  | closing => 1
  | ended => 0

def Telling.choresLeft : Telling → Nat
  | working _ chores => chores.length
  | _ => 0

def Sending.work : Sending → Nat
  | idle => 1
  | holding _ => 5
  | writing _ => 4
  | complaining _ => 3
  | ended => 0

def Stopping.work : Stopping → Nat
  | begun _ => 3
  | marked _ => 2
  | awaiting => 1

def Opening.work : Opening → Nat
  | waiting => 5
  | stopping phase _ => phase.work
  | _ => 0

/-- A step of a task or of the opening call. -/
def Move.isTask : Move → Bool
  | receiver => true
  | teller => true
  | sender => true
  | opener => true
  | _ => false

namespace Session

/-- The work that is left, chores apart. -/
def work (s : Session) : Nat :=
  s.inbound.pending + s.inbound.arriving.length + 2 * s.frames.length + s.notices.length
    + 5 * s.requests.length + s.receiving.work + s.telling.work + s.sending.work + s.opening.work

/-- The tasks and the opening call. -/
def tasks : List (Session → Option Session) := [receiver?, teller?, sender?, opener?]

/-- One step of a task or of the opening call, if one of them can take one. -/
def advance? (s : Session) : Option Session := tasks.findSome? fun task => task s

/-- Less work is left, or as much work and fewer chores. -/
def Nearer (s' s : Session) : Prop :=
  Prod.Lex (· < ·) (· < ·) (s'.work, s'.telling.choresLeft) (s.work, s.telling.choresLeft)

theorem nearer_of_work {s' s : Session} (h : s'.work < s.work) : Nearer s' s := .left _ _ h

theorem nearer_of_receiver {s s' : Session} (h : s.receiver? = some s') : Nearer s' s := by
  apply nearer_of_work
  simp only [receiver?] at h
  split at h
  · simp at h
  · rename_i payload hr
    split at h
    · simp only [Option.some.injEq] at h
      subst h
      simp [work, hr, Receiving.work]
    · split at h
      · simp only [Option.some.injEq] at h
        subst h
        simp only [work, hr, Receiving.work, List.length_append, List.length_singleton]
        omega
      · simp at h
  · rename_i hr
    split at h
    · simp only [Option.some.injEq] at h
      subst h
      simp [work, hr, Receiving.work]
    · split at h
      · rename_i payload rest hf
        simp only [Option.some.injEq] at h
        subst h
        have hl := (Front.length_of_frame hf).2.2
        simp only [work, hr, Receiving.work, Inbound.pending, Inbound.taken]
        omega
      · simp only [Option.some.injEq] at h
        subst h
        simp [work, loseConnection, hr, Receiving.work]
      · split at h
        · rename_i portion portions ha
          simp only [Option.some.injEq] at h
          subst h
          simp only [work, Inbound.pending, Inbound.receive, ha, List.length_append,
            List.map_cons, List.sum_cons, List.length_cons]
          omega
        · split at h
          · simp only [Option.some.injEq] at h
            subst h
            simp [work, loseConnection, hr, Receiving.work]
          · simp at h

theorem work_perform (s : Session) (c : Chore) : (s.perform c).work = s.work := by
  cases c <;> rfl

theorem work_telling {s : Session} {t : Telling} (h : t.work = s.telling.work) :
    work { s with telling := t } = s.work := by
  simp only [work, h]

theorem telling_perform (s : Session) (c : Chore) : (s.perform c).telling = s.telling := by
  cases c <;> rfl

theorem work_tellingOfFrame (s : Session) (w : WarmUp) (payload : List UInt8) :
    (s.tellingOfFrame w payload).work = 2 := by
  simp only [tellingOfFrame]
  split <;> rfl

theorem nearer_of_teller {s s' : Session} (h : s.teller? = some s') : Nearer s' s := by
  simp only [teller?] at h
  split at h
  · simp at h
  · rename_i ht
    simp only [Option.some.injEq] at h
    subst h
    apply nearer_of_work
    simp [work, tell, report, ht, Telling.work]
  · rename_i warmUp chore chores ht
    simp only [Option.some.injEq] at h
    subst h
    have hw : work { s.perform chore with telling := .working warmUp chores } = s.work := by
      rw [work_telling (by rw [telling_perform, ht]; rfl), work_perform]
    simp only [Nearer, hw, ht]
    exact .right _ (Nat.lt_succ_self chores.length)
  · rename_i warmUp ht
    apply nearer_of_work
    split at h
    · simp only [Option.some.injEq] at h
      subst h
      simp [work, ht, Telling.work]
    · split at h
      · rename_i notice notices hn
        simp only [Option.some.injEq] at h
        subst h
        simp only [work, tell, report, hn, List.length_cons]
        omega
      · rename_i payload frames hn hf
        simp only [Option.some.injEq] at h
        subst h
        have hw := work_tellingOfFrame s warmUp payload
        simp only [work, hw, hf, ht, List.length_cons]
        simp only [Telling.work]
        omega
      · split at h
        · simp only [Option.some.injEq] at h
          subst h
          simp [work, ht, Telling.work]
        · simp at h

theorem nearer_of_sender {s s' : Session} (h : s.sender? = some s') : Nearer s' s := by
  apply nearer_of_work
  simp only [sender?] at h
  split at h
  · simp at h
  · rename_i hs
    split at h
    · simp only [Option.some.injEq] at h
      subst h
      simp [work, endSending, hs, Sending.work]
    · split at h
      · rename_i bytes requests hr
        simp only [Option.some.injEq] at h
        subst h
        simp only [work, hs, hr, Sending.work, List.length_cons]
        omega
      · simp at h
  · rename_i bytes hs
    split at h <;> simp only [Option.some.injEq] at h <;> subst h <;> simp [work, hs, Sending.work]
  · rename_i bytes hs
    split at h
    · simp only [Option.some.injEq] at h
      subst h
      simp [work, endSending, hs, Sending.work]
    · split at h <;> simp only [Option.some.injEq] at h <;> subst h <;>
        simp [work, hs, Sending.work]
  · rename_i notice hs
    split at h
    · simp only [Option.some.injEq] at h
      subst h
      simp [work, hs, Sending.work]
    · split at h
      · simp only [Option.some.injEq] at h
        subst h
        simp only [work, hs, Sending.work, List.length_append, List.length_singleton]
        omega
      · simp at h

theorem nearer_of_opener {s s' : Session} (h : s.opener? = some s') : Nearer s' s := by
  apply nearer_of_work
  simp only [opener?] at h
  split at h
  · simp at h
  · simp at h
  · rename_i hp
    split at h
    · simp only [Option.some.injEq] at h
      subst h
      simp [work, report, hp, Opening.work]
    · split at h
      · simp only [Option.some.injEq] at h
        subst h
        simp [work, failOpening, beginStop, hp, Opening.work, Stopping.work]
      · simp at h
  · rename_i phase e hp
    cases phase with
    | begun first =>
      simp only [continueStop?, Option.some.injEq] at h
      subst h
      simp [work, hp, Opening.work, Stopping.work]
    | marked first =>
      cases first <;> simp only [continueStop?, Option.some.injEq] at h <;> subst h <;>
        simp [work, report, hp, Opening.work, Stopping.work]
    | awaiting =>
      simp only [continueStop?] at h
      split at h
      · simp at h
      · rename_i hc
        split at hc <;> simp at hc
      · rename_i hc
        split at hc
        · simp only [Option.some.injEq, Prod.mk.injEq, and_true] at hc
          subst hc
          simp only [Option.some.injEq] at h
          subst h
          simp [work, report, hp, Opening.work, Stopping.work]
        · simp at hc

theorem nearer_of_advance {s s' : Session} (h : s.advance? = some s') : Nearer s' s := by
  obtain ⟨task, ht, h⟩ := List.exists_of_findSome?_eq_some h
  simp only [tasks, List.mem_cons, List.not_mem_nil, or_false] at ht
  rcases ht with rfl | rfl | rfl | rfl
  · exact nearer_of_receiver h
  · exact nearer_of_teller h
  · exact nearer_of_sender h
  · exact nearer_of_opener h

/-- The session when the tasks and the opening call have come to rest. -/
def settle (s : Session) : Session :=
  match _h : s.advance? with
  | some s' => settle s'
  | none => s
termination_by (s.work, s.telling.choresLeft)
decreasing_by exact nearer_of_advance ‹_›

theorem exists_move_of_advance {s s' : Session} (h : s.advance? = some s') :
    ∃ m, m.isTask = true ∧ s.move? m = some s' := by
  obtain ⟨task, ht, h⟩ := List.exists_of_findSome?_eq_some h
  simp only [tasks, List.mem_cons, List.not_mem_nil, or_false] at ht
  rcases ht with rfl | rfl | rfl | rfl
  · exact ⟨.receiver, rfl, h⟩
  · exact ⟨.teller, rfl, h⟩
  · exact ⟨.sender, rfl, h⟩
  · exact ⟨.opener, rfl, h⟩

/-- Coming to rest is a run of the tasks and the opening call. -/
theorem exists_run_settle (s : Session) :
    ∃ moves, (∀ m ∈ moves, m.isTask = true) ∧ s.settle = s.run moves := by
  fun_induction settle s with
  | case1 s s' h ih =>
    obtain ⟨m, ht, hm⟩ := exists_move_of_advance h
    obtain ⟨moves, hts, hr⟩ := ih
    refine ⟨m :: moves, List.forall_mem_cons.mpr ⟨ht, hts⟩, ?_⟩
    rw [hr, run_cons, move, hm]
    rfl
  | case2 s h => exact ⟨[], List.forall_mem_nil _, rfl⟩

/-- At rest, no task and not the opening call can take a step. -/
theorem advance?_settle (s : Session) : s.settle.advance? = none := by
  fun_induction settle s with
  | case1 s s' h ih => exact ih
  | case2 s h => exact h

end Session
end BrokerLink

import BrokerLink.Proofs.Outgoing

/-!
# Steps

What each task, the opening call and every caller can do in one step, and on what
condition. Every move of a session is one of these steps (`step`), or changes nothing,
so that what all moves keep is proved by going through them once.
-/

namespace BrokerLink

theorem Telling.isEnded_iff {t : Telling} : t.isEnded = true ↔ t = .ended := by
  cases t <;> simp [isEnded]

theorem Receiving.isEnded_iff {r : Receiving} : r.isEnded = true ↔ r = .ended := by
  cases r <;> simp [isEnded]

theorem Sending.isEnded_iff {t : Sending} : t.isEnded = true ↔ t = .ended := by
  cases t <;> simp [isEnded]

theorem Telling.ne_ended_of_working {t : Telling} {warmUp : WarmUp} {chores : List Chore}
    (h : t = .working warmUp chores) : t ≠ .ended := by
  rw [h]
  exact Telling.noConfusion

/-- How far a call has come with disconnecting, if it does. -/
def Call.phase? : Call → Option Stopping
  | submitting .. => none
  | stopping phase => some phase

namespace Session

variable {s s' : Session}

/-- How far a caller has come with disconnecting, if it does. -/
def stopping? (s : Session) (caller : Nat) : Option Stopping :=
  (s.calls caller).bind Call.phase?

theorem hasStopped_iff :
    s.hasStopped = true ↔ s.receiving = .ended ∧ s.telling = .ended ∧ s.sending = .ended := by
  simp only [hasStopped, Bool.and_eq_true, Receiving.isEnded_iff, Telling.isEnded_iff,
    Sending.isEnded_iff, and_assoc]

/-! ### The receiver -/

/-- The steps of the receiver of a session left alone. -/
inductive Receives (s : Session) : Session → Prop
  | queue {payload : List UInt8} (held : s.receiving = .holding payload) :
      Receives s { s with frames := s.frames ++ [payload], receiving := .reading }
  | take {payload rest : List UInt8} (reading : s.receiving = .reading)
      (front : s.inbound.front = .frame payload rest) :
      Receives s { s with inbound := s.inbound.taken rest, receiving := .holding payload }
  | refuse {length : Nat} (reading : s.receiving = .reading)
      (front : s.inbound.front = .refused length) : Receives s s.loseConnection
  | receive {portion : List UInt8} {portions : List (List UInt8)}
      (reading : s.receiving = .reading) (next : s.inbound.arriving = portion :: portions) :
      Receives s { s with inbound := { s.inbound.receive portion with arriving := portions } }
  | finish (reading : s.receiving = .reading) (front : s.inbound.front = .incomplete)
      (last : s.inbound.arriving = []) (closed : s.inbound.isClosed = true) :
      Receives s s.loseConnection

/-- The steps of the receiver. It also ends when it is told to stop, or has nobody left to take its
frames. -/
inductive Listens (s : Session) : Session → Prop
  | receives {s' : Session} (step : s.Receives s') : Listens s s'
  | stop (running : s.receiving ≠ .ended) (why : s.isStopping = true ∨ s.telling = .ended) :
      Listens s { s with receiving := .ended }

theorem Receives.receiving_ne_ended (h : s.Receives s') : s.receiving ≠ .ended := by
  intro hr
  cases h with
  | queue held => rw [held] at hr; cases hr
  | take reading => rw [reading] at hr; cases hr
  | refuse reading => rw [reading] at hr; cases hr
  | receive reading => rw [reading] at hr; cases hr
  | finish reading => rw [reading] at hr; cases hr

theorem Listens.receiving_ne_ended (h : s.Listens s') : s.receiving ≠ .ended := by
  cases h with
  | receives step => exact step.receiving_ne_ended
  | stop running why => exact running

theorem listens_of_receiver? (h : s.receiver? = some s') : s.Listens s' := by
  unfold receiver? at h
  split at h
  · cases h
  · rename_i payload hr
    split at h
    · rename_i he
      cases h
      exact .stop (by rw [hr]; exact Receiving.noConfusion) (.inr (Telling.isEnded_iff.mp he))
    · split at h
      · cases h
        exact .receives (.queue hr)
      · cases h
  · rename_i hr
    split at h
    · rename_i hs
      cases h
      exact .stop (by rw [hr]; exact Receiving.noConfusion) (.inl hs)
    · split at h
      · rename_i payload rest hf
        cases h
        exact .receives (.take hr hf)
      · rename_i length hf
        cases h
        exact .receives (.refuse hr hf)
      · rename_i hf
        split at h
        · rename_i portion portions ha
          cases h
          exact .receives (.receive hr ha)
        · rename_i ha
          split at h
          · rename_i hc
            cases h
            exact .receives (.finish hr hf ha hc)
          · cases h

/-! ### The teller -/

/-- The steps of the teller of a session left alone. -/
inductive Tells (s : Session) : Session → Prop
  | perform {warmUp : WarmUp} {chore : Chore} {chores : List Chore}
      (busy : s.telling = .working warmUp (chore :: chores)) :
      Tells s { s.perform chore with telling := .working warmUp chores }
  | take {warmUp : WarmUp} {payload : List UInt8} {frames : List (List UInt8)}
      (idle : s.telling = .working warmUp []) (queued : s.frames = payload :: frames) :
      Tells s { s with frames, telling := s.tellingOfFrame warmUp payload }
  | close {warmUp : WarmUp} (idle : s.telling = .working warmUp []) (last : s.frames = [])
      (ended : s.receiving = .ended) :
      Tells s { s with link := .disconnected, telling := .closing }
  | finish (closing : s.telling = .closing) :
      Tells s { s.tell .connectionClosed with telling := .ended }

/-- The steps of the teller. It also tells notices, and ends when it is told to stop. -/
inductive Speaks (s : Session) : Session → Prop
  | tells {s' : Session} (step : s.Tells s') : Speaks s s'
  | complain {warmUp : WarmUp} {notice : LinkError} {notices : List LinkError}
      (idle : s.telling = .working warmUp []) (queued : s.notices = notice :: notices) :
      Speaks s { s.tell (Event.ofError notice) with notices }
  | stop {warmUp : WarmUp} (idle : s.telling = .working warmUp [])
      (stopping : s.isStopping = true) : Speaks s { s with telling := .ended }

theorem Tells.telling_ne_ended (h : s.Tells s') : s.telling ≠ .ended := by
  cases h with
  | perform busy => exact Telling.ne_ended_of_working busy
  | take idle => exact Telling.ne_ended_of_working idle
  | close idle => exact Telling.ne_ended_of_working idle
  | finish closing =>
    rw [closing]
    exact Telling.noConfusion

theorem Speaks.telling_ne_ended (h : s.Speaks s') : s.telling ≠ .ended := by
  cases h with
  | tells step => exact step.telling_ne_ended
  | complain idle queued => exact Telling.ne_ended_of_working idle
  | stop idle stopping => exact Telling.ne_ended_of_working idle

theorem speaks_of_teller? (h : s.teller? = some s') : s.Speaks s' := by
  unfold teller? at h
  split at h
  · cases h
  · rename_i ht
    cases h
    exact .tells (.finish ht)
  · rename_i warmUp chore chores ht
    cases h
    exact .tells (.perform ht)
  · rename_i warmUp ht
    split at h
    · rename_i hs
      cases h
      exact .stop ht hs
    · split at h
      · rename_i notice notices hn
        cases h
        exact .complain ht hn
      · rename_i payload frames _ hf
        cases h
        exact .tells (.take ht hf)
      · rename_i _ hf
        split at h
        · rename_i hr
          cases h
          exact .tells (.close ht hf (Receiving.isEnded_iff.mp hr))
        · cases h

/-! ### The opening call -/

/-- The steps of the opening call, but for running out of time. -/
inductive Opens (s : Session) : Session → Prop
  | succeed (waiting : s.opening = .waiting) (ready : s.isReady = true) :
      Opens s { s.report .opened with opening := .done }
  | fail (waiting : s.opening = .waiting) (ended : s.telling = .ended) :
      Opens s (s.failOpening closedEarly)
  | mark {first : Bool} {e : LinkError} (stopping : s.opening = .stopping (.begun first) e) :
      Opens s { s with link := .disconnected, opening := .stopping (.marked first) e }
  | stop {e : LinkError} (stopping : s.opening = .stopping (.marked true) e) :
      Opens s { s with isStopping := true, opening := .stopping .awaiting e }
  | giveUp {phase : Stopping} {e : LinkError} (stopping : s.opening = .stopping phase e) :
      Opens s { s.report (.openFailed e) with opening := .failed e }

theorem opens_of_opener? (h : s.opener? = some s') : s.Opens s' := by
  unfold opener? at h
  split at h
  · cases h
  · cases h
  · rename_i ho
    split at h
    · rename_i hr
      cases h
      exact .succeed ho hr
    · split at h
      · rename_i ht
        cases h
        exact .fail ho (Telling.isEnded_iff.mp ht)
      · cases h
  · rename_i phase e ho
    cases phase with
    | begun first =>
      cases h
      exact .mark ho
    | marked first =>
      cases first with
      | true =>
        cases h
        exact .stop ho
      | false =>
        cases h
        exact .giveUp ho
    | awaiting =>
      simp only [continueStop?] at h
      split at h
      · cases h
      · rename_i hc
        split at hc <;> cases hc
      · rename_i hc
        split at hc
        · cases hc
          cases h
          exact .giveUp ho
        · cases hc

/-! ### Callers, the peer and the clock -/

/-- The moves of a session. -/
inductive Step (s : Session) : Move → Session → Prop
  | stay {m : Move} : Step s m s
  | receiver {s' : Session} (step : s.Listens s') : Step s .receiver s'
  | teller {s' : Session} (step : s.Speaks s') : Step s .teller s'
  | sender {s' : Session} (step : s.Sends s') : Step s .sender s'
  | opener {s' : Session} (step : s.Opens s') : Step s .opener s'
  | timeOut (waiting : s.opening = .waiting) : Step s .timeOut (s.failOpening warmUpTimedOut)
  /-- A submission is refused, at once or when its frame is to be queued. -/
  | refuse {m : Move} {caller : Nat} {e : LinkError} (own : m.caller? = some caller)
      (apart : s.stopping? caller = none) : Step s m (s.reject caller e)
  | hold {caller : Nat} {patience : Patience} {x : Submission} {bytes : List UInt8}
      (apart : s.stopping? caller = none) :
      Step s (.submit caller patience x)
        (s.setCall caller (some (.submitting patience x.id bytes)))
  | accept {caller : Nat} {bytes : List UInt8} (apart : s.stopping? caller = none) :
      Step s (.proceed caller) (s.accept caller bytes)
  | giveUp {caller : Nat} (apart : s.stopping? caller = none) :
      Step s (.proceed caller) ((s.report (.rejected caller .queueFull)).setCall caller none)
  | draw {caller : Nat} (opened : s.opening.isDone = true) (free : s.calls caller = none) :
      Step s (.draw caller) { s.report (.drew caller s.nextId) with nextId := s.nextId + 1 }
  | disconnect {caller : Nat} (opened : s.opening.isDone = true)
      (apart : s.stopping? caller = none) :
      Step s (.disconnect caller)
        (setCall { s with isTaken := true } caller (some (.stopping (.begun (!s.isTaken)))))
  | mark {caller : Nat} {first : Bool} (stopping : s.stopping? caller = some (.begun first)) :
      Step s (.proceed caller)
        (setCall { s with link := .disconnected } caller (some (.stopping (.marked first))))
  | signal {caller : Nat} (stopping : s.stopping? caller = some (.marked true)) :
      Step s (.proceed caller)
        (setCall { s with isStopping := true } caller (some (.stopping .awaiting)))
  | leave {caller : Nat} (stopping : s.stopping? caller = some (.marked false)) :
      Step s (.proceed caller) ((s.report (.stopped caller)).setCall caller none)
  | join {caller : Nat} (stopping : s.stopping? caller = some .awaiting)
      (stopped : s.hasStopped = true) :
      Step s (.proceed caller) ((s.report (.stopped caller)).setCall caller none)
  | peerSends (bytes : List UInt8) :
      Step s (.peerSends bytes) { s with inbound := s.inbound.send bytes }
  | peerCloses : Step s .peerCloses { s with inbound := s.inbound.close }

theorem stopping?_of_free {caller : Nat} (h : s.calls caller = none) :
    s.stopping? caller = none := by
  rw [stopping?, h]
  rfl

theorem stopping?_of_submitting {caller : Nat} {patience : Patience} {id : Int32}
    {bytes : List UInt8} (h : s.calls caller = some (.submitting patience id bytes)) :
    s.stopping? caller = none := by
  rw [stopping?, h]
  rfl

theorem stopping?_of_stopping {caller : Nat} {phase : Stopping}
    (h : s.calls caller = some (.stopping phase)) : s.stopping? caller = some phase := by
  rw [stopping?, h]
  rfl

theorem step_of_submit? {caller : Nat} {patience : Patience} {x : Submission}
    (h : s.submit? caller patience x = some s') : s.Step (.submit caller patience x) s' := by
  unfold submit? at h
  split at h
  · rename_i hf
    simp only [Bool.and_eq_true, Option.isNone_iff_eq_none] at hf
    have apart := stopping?_of_free hf.2
    split at h
    · cases h
      exact .refuse rfl apart
    · split at h
      · cases h
        exact .refuse rfl apart
      · cases h
        exact .hold apart
  · cases h

theorem step_of_disconnect? {caller : Nat} (h : s.disconnect? caller = some s') :
    s.Step (.disconnect caller) s' := by
  unfold disconnect? at h
  split at h
  · rename_i hf
    simp only [Bool.and_eq_true, Option.isNone_iff_eq_none] at hf
    cases h
    exact .disconnect hf.1 (stopping?_of_free hf.2)
  · cases h

theorem step_of_stopping {caller : Nat} {phase : Stopping}
    (hc : s.calls caller = some (.stopping phase)) (h : s.proceed? caller = some s') :
    s.Step (.proceed caller) s' := by
  have hp := stopping?_of_stopping hc
  unfold proceed? at h
  rw [hc] at h
  cases phase with
  | begun first =>
    cases h
    exact .mark hp
  | marked first =>
    cases first with
    | true =>
      cases h
      exact .signal hp
    | false =>
      cases h
      exact .leave hp
  | awaiting =>
    by_cases hs : s.hasStopped = true
    · simp only [continueStop?, hs, if_true] at h
      cases h
      exact .join hp hs
    · simp only [continueStop?, hs] at h
      cases h

theorem step_of_proceed? {caller : Nat} (h : s.proceed? caller = some s') :
    s.Step (.proceed caller) s' := by
  cases hc : s.calls caller with
  | none =>
    rw [proceed?, hc] at h
    cases h
  | some call =>
    cases call with
    | stopping phase => exact step_of_stopping hc h
    | submitting patience id bytes =>
      have apart := stopping?_of_submitting hc
      unfold proceed? at h
      rw [hc] at h
      dsimp only at h
      split at h
      · cases h
        exact .refuse rfl apart
      · split at h
        · cases h
          exact .accept apart
        · split at h
          · cases h
          · cases h
            exact .giveUp apart

/-- Every move is one of these. -/
theorem step (s : Session) (m : Move) : s.Step m (s.move m) := by
  unfold move
  cases h : s.move? m with
  | none => exact .stay
  | some s' =>
    rw [Option.getD_some]
    cases m with
    | receiver => exact .receiver (listens_of_receiver? h)
    | teller => exact .teller (speaks_of_teller? h)
    | sender => exact .sender (sends_of_sender? h)
    | opener => exact .opener (opens_of_opener? h)
    | timeOut =>
      simp only [move?, timeOut?] at h
      split at h
      · rename_i ho
        split at h
        · cases h
        · cases h
          exact .timeOut ho
      · cases h
    | submit caller patience x => exact step_of_submit? h
    | draw caller =>
      simp only [move?, draw?] at h
      split at h
      · rename_i hf
        simp only [Bool.and_eq_true, Option.isNone_iff_eq_none] at hf
        cases h
        exact .draw hf.1 hf.2
      · cases h
    | disconnect caller => exact step_of_disconnect? h
    | proceed caller => exact step_of_proceed? h
    | peerSends bytes =>
      simp only [move?] at h
      split at h
      · cases h
      · cases h
        exact .peerSends bytes
    | peerCloses =>
      cases h
      exact .peerCloses

/-- Only the opening call opens the session, and only when the warm-up has ended. -/
theorem Step.ready_of_opened {m : Move} (h : s.Step m s') (ho : s'.opening.isDone = true) :
    s.opening.isDone = true ∨ s.isReady = true := by
  cases h with
  | receiver step =>
    cases step with
    | receives step => cases step <;> exact .inl ho
    | stop => exact .inl ho
  | teller step =>
    cases step with
    | tells step =>
      cases step with
      | @perform _ chore => cases chore <;> exact .inl ho
      | take => exact .inl ho
      | close => exact .inl ho
      | finish => exact .inl ho
    | complain => exact .inl ho
    | stop => exact .inl ho
  | sender step => cases step <;> exact .inl ho
  | opener step =>
    cases step with
    | succeed waiting ready => exact .inr ready
    | fail => cases ho
    | mark => cases ho
    | stop => cases ho
    | giveUp => cases ho
  | timeOut => cases ho
  | _ => exact .inl ho

/-- What every step keeps holds after every run. -/
theorem run_of_steps {P : Session → Prop} (step : ∀ s m s', Step s m s' → P s → P s')
    (hs : P s) (moves : List Move) : P (s.run moves) := by
  induction moves generalizing s with
  | nil => exact hs
  | cons m moves ih => exact ih (step s m _ (s.step m) hs)

end Session
end BrokerLink

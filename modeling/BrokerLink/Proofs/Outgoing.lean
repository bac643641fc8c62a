import BrokerLink.Session.Move

/-!
# What goes out

Callers queue frames, and the sender takes them from the queue and writes them. No other
move touches the queue, what the sender is doing, or what has been written, and what a
caller is doing changes only with that caller's own moves. Here every move is taken apart
in this respect, once for all that is said about submissions.
-/

namespace BrokerLink

/-- The caller whose move it is. -/
def Move.caller? : Move → Option Nat
  | .submit caller _ _ => some caller
  | .draw caller => some caller
  | .disconnect caller => some caller
  | .proceed caller => some caller
  | _ => none

/-- What became of a submission, and whose it was. -/
def Report.answer? : Report → Option (Nat × Except LinkError (List UInt8))
  | accepted caller bytes => some (caller, .ok bytes)
  | rejected caller e => some (caller, .error e)
  | _ => none

/-- The frame that a call is about to queue. -/
def Call.frame? : Call → Option (List UInt8)
  | submitting _ _ bytes => some bytes
  | stopping _ => none

namespace Session

variable {s s' : Session}

/-- What became of all submissions so far, in the order of the answers. -/
def answers (s : Session) : List (Nat × Except LinkError (List UInt8)) :=
  s.log.filterMap Report.answer?

/-- The frames that were accepted so far, with whose they are, in the order of the answers. -/
def accepted (s : Session) : List (Nat × List UInt8) :=
  s.answers.filterMap fun (caller, result) => result.toOption.map (caller, ·)

/-- The frame that a caller is about to queue. -/
def pending (s : Session) (caller : Nat) : Option (List UInt8) :=
  (s.calls caller).bind Call.frame?

/-- What a caller has built to be sent with a move: a frame, or the reason why there is none. A
caller that cannot submit, because the session has not been opened or because it is at something
else, has nothing built. -/
def issues (s : Session) (caller : Nat) : Move → List (Except LinkError (List UInt8))
  | .submit other _ x =>
    if other = caller ∧ s.opening.isDone = true ∧ (s.calls caller).isNone = true then
      [x.build s.server.version]
    else []
  | _ => []

/-- Whatever is read off the log, a report adds to it what it says itself. -/
theorem filterMap_report {α : Type} (f : Report → Option α) (s : Session) (r : Report) :
    (s.report r).log.filterMap f = s.log.filterMap f ++ (f r).toList := by
  simp only [report, List.filterMap_append]
  cases h : f r <;> simp [h]

theorem filterMap_report_of_none {α : Type} {f : Report → Option α} (s : Session) {r : Report}
    (h : f r = none) : (s.report r).log.filterMap f = s.log.filterMap f := by
  rw [filterMap_report, h, Option.toList_none, List.append_nil]

theorem filterMap_reject_of_none {α : Type} {f : Report → Option α} (s : Session) (caller : Nat)
    (e : LinkError) (ht : f (.told (.ofError e)) = none) (hr : f (.rejected caller e) = none) :
    (s.reject caller e).log.filterMap f = s.log.filterMap f :=
  (filterMap_report_of_none (s.tell (.ofError e)) hr).trans (filterMap_report_of_none s ht)

theorem answers_report (s : Session) (r : Report) :
    (s.report r).answers = s.answers ++ r.answer?.toList :=
  filterMap_report Report.answer? s r

theorem answers_reject (s : Session) (caller : Nat) (e : LinkError) :
    (s.reject caller e).answers = s.answers ++ [(caller, .error e)] := by
  have h : (s.tell (.ofError e)).answers = s.answers := by
    rw [tell, answers_report]
    exact List.append_nil _
  exact (answers_report _ (.rejected caller e)).trans (congrArg (· ++ _) h)

theorem answers_accept (s : Session) (caller : Nat) (bytes : List UInt8) :
    (s.accept caller bytes).answers = s.answers ++ [(caller, .ok bytes)] :=
  answers_report _ (.accepted caller bytes)

theorem accepted_of_answers_ok {caller : Nat} {bytes : List UInt8}
    (h : s'.answers = s.answers ++ [(caller, .ok bytes)]) :
    s'.accepted = s.accepted ++ [(caller, bytes)] := by
  rw [accepted, h, List.filterMap_append]
  rfl

theorem accepted_of_answers_error {caller : Nat} {e : LinkError}
    (h : s'.answers = s.answers ++ [(caller, .error e)]) : s'.accepted = s.accepted := by
  rw [accepted, h, List.filterMap_append]
  exact List.append_nil _

theorem calls_setCall_of_ne (s : Session) {caller other : Nat} (call : Option Call)
    (h : other ≠ caller) : (s.setCall caller call).calls other = s.calls other := if_neg h

theorem calls_setCall (s : Session) (caller : Nat) (call : Option Call) :
    (s.setCall caller call).calls caller = call := if_pos rfl

/-! ### Moves by cases -/

/-- Nothing of what goes out differs between two sessions, and nobody's call. -/
structure Aside (s s' : Session) : Prop where
  opened : s.opening.isDone = true → s'.opening.isDone = true
  config : s'.config = s.config
  server : s'.server = s.server
  requests : s'.requests = s.requests
  sending : s'.sending = s.sending
  outbound : s'.outbound = s.outbound
  calls : s'.calls = s.calls
  answers : s'.answers = s.answers

/-- The steps of the sender. -/
inductive Sends (s : Session) : Session → Prop
  | stop (stopping : s.isStopping = true) : Sends s s.endSending
  | take {bytes : List UInt8} {requests : List (List UInt8)} (idle : s.sending = .idle)
      (queued : s.requests = bytes :: requests) :
      Sends s { s with requests, sending := .holding bytes }
  | look {bytes : List UInt8} (holding : s.sending = .holding bytes) (up : s.link = .connected) :
      Sends s { s with sending := .writing bytes }
  | refuse {bytes : List UInt8} (holding : s.sending = .holding bytes)
      (down : s.link ≠ .connected) :
      Sends s { s with sending := .complaining (.notConnected noId) }
  | write {bytes : List UInt8} {outbound : Outbound} (writing : s.sending = .writing bytes)
      (written : s.outbound.writeFrame bytes = .ok outbound) :
      Sends s { s with outbound, sending := .idle }
  | fail {bytes : List UInt8} {e : LinkError} (writing : s.sending = .writing bytes)
      (failed : s.outbound.writeFrame bytes = .error e) :
      Sends s { s with sending := .complaining e }
  | notify {notice : LinkError} (complaining : s.sending = .complaining notice) :
      Sends s { s with notices := s.notices ++ [notice], sending := .idle }
  | giveUp {notice : LinkError} (complaining : s.sending = .complaining notice) :
      Sends s { s with sending := .idle }

/-- Why a submission is refused before it can be queued. -/
def refusal? (s : Session) (x : Submission) : Option LinkError :=
  if s.link ≠ .connected then some (.notConnected x.id)
  else
    match x.build s.server.version with
    | .error e => some e
    | .ok _ => none

/-- The moves of a session, by what they do to what goes out. -/
inductive Outgoing (s : Session) : Move → Session → Prop
  | aside {m : Move} {s' : Session} (rest : s.Aside s') (idle : ∀ caller, s.issues caller m = []) :
      Outgoing s m s'
  | sender {s' : Session} (step : s.Sends s') : Outgoing s .sender s'
  /-- A caller disconnects. -/
  | stopping {m : Move} {caller : Nat} {s' : Session} {call : Option Call}
      (own : m.caller? = some caller) (rest : s.Aside s') (was : s.pending caller = none)
      (now : call.bind Call.frame? = none) (idle : ∀ caller, s.issues caller m = []) :
      Outgoing s m (s'.setCall caller call)
  | refuse {caller : Nat} {patience : Patience} {x : Submission} {e : LinkError}
      (opened : s.opening.isDone = true) (free : s.calls caller = none)
      (refused : s.refusal? x = some e) :
      Outgoing s (.submit caller patience x) (s.reject caller e)
  | begin {caller : Nat} {patience : Patience} {x : Submission} {bytes : List UInt8}
      (opened : s.opening.isDone = true) (free : s.calls caller = none)
      (up : s.link = .connected) (built : x.build s.server.version = .ok bytes) :
      Outgoing s (.submit caller patience x)
        (s.setCall caller (some (.submitting patience x.id bytes)))
  | turnAway {caller : Nat} {patience : Patience} {id : Int32} {bytes : List UInt8}
      (busy : s.calls caller = some (.submitting patience id bytes))
      (ended : s.sending.isEnded = true) :
      Outgoing s (.proceed caller) (s.reject caller (.client id .notConnected "writer stopped"))
  | accept {caller : Nat} {patience : Patience} {id : Int32} {bytes : List UInt8}
      (busy : s.calls caller = some (.submitting patience id bytes))
      (running : s.sending.isEnded = false)
      (room : hasRoom s.config.outboundCapacity s.requests = true) :
      Outgoing s (.proceed caller) (s.accept caller bytes)
  | full {caller : Nat} {id : Int32} {bytes : List UInt8}
      (busy : s.calls caller = some (.submitting .tries id bytes))
      (running : s.sending.isEnded = false)
      (full : hasRoom s.config.outboundCapacity s.requests = false) :
      Outgoing s (.proceed caller)
        ((s.report (.rejected caller .queueFull)).setCall caller none)

theorem Aside.refl (s : Session) : s.Aside s :=
  ⟨id, rfl, rfl, rfl, rfl, rfl, rfl, rfl⟩

theorem Aside.trans {s₁ s₂ s₃ : Session} (h : s₁.Aside s₂) (h' : s₂.Aside s₃) : s₁.Aside s₃ where
  opened ho := h'.opened (h.opened ho)
  config := h'.config.trans h.config
  server := h'.server.trans h.server
  requests := h'.requests.trans h.requests
  sending := h'.sending.trans h.sending
  outbound := h'.outbound.trans h.outbound
  calls := h'.calls.trans h.calls
  answers := h'.answers.trans h.answers

theorem Aside.accepted (h : s.Aside s') : s'.accepted = s.accepted := by
  rw [Session.accepted, h.answers]
  rfl

/-- Whatever is reported that is no answer is aside. -/
theorem aside_report {r : Report} (h : r.answer? = none) : s.Aside (s.report r) :=
  { Aside.refl s with
    answers := by rw [answers_report, h, Option.toList_none, List.append_nil] }

theorem aside_of_receiver? (h : s.receiver? = some s') : s.Aside s' := by
  unfold receiver? at h
  split at h
  · cases h
  · split at h
    · cases h
      exact { Aside.refl s with }
    · split at h
      · cases h
        exact { Aside.refl s with }
      · cases h
  · split at h
    · cases h
      exact { Aside.refl s with }
    · split at h
      · cases h
        exact { Aside.refl s with }
      · cases h
        exact { Aside.refl s with }
      · split at h
        · cases h
          exact { Aside.refl s with }
        · split at h
          · cases h
            exact { Aside.refl s with }
          · cases h

theorem aside_perform (s : Session) (chore : Chore) : s.Aside (s.perform chore) := by
  cases chore with
  | raise id => exact { Aside.refl s with }
  | tell e => exact aside_report rfl
  | connect => exact { Aside.refl s with }
  | signal => exact { Aside.refl s with }

theorem aside_of_teller? (h : s.teller? = some s') : s.Aside s' := by
  unfold teller? at h
  split at h
  · cases h
  · cases h
    exact { aside_report (s := s) (r := .told .connectionClosed) rfl with }
  · rename_i warmUp chore chores _
    cases h
    exact { aside_perform s chore with }
  · split at h
    · cases h
      exact { Aside.refl s with }
    · split at h
      · rename_i notice notices _
        cases h
        exact { aside_report (s := s) (r := .told (Event.ofError notice)) rfl with }
      · cases h
        exact { Aside.refl s with }
      · split at h
        · cases h
          exact { Aside.refl s with }
        · cases h

theorem aside_of_continueStop? {phase : Stopping} {next : Option Stopping}
    (h : s.continueStop? phase = some (s', next)) : s.Aside s' := by
  unfold continueStop? at h
  split at h
  · cases h
    exact { Aside.refl s with }
  · cases h
    exact { Aside.refl s with }
  · cases h
    exact Aside.refl s
  · split at h
    · cases h
      exact Aside.refl s
    · cases h

theorem aside_of_opener? (h : s.opener? = some s') : s.Aside s' := by
  unfold opener? at h
  split at h
  · cases h
  · cases h
  · split at h
    · cases h
      exact { aside_report (s := s) (r := .opened) rfl with opened := fun _ => rfl }
    · split at h
      · rename_i ho _ _
        cases h
        exact { Aside.refl s with opened := fun hd => by rw [ho] at hd; cases hd }
      · cases h
  · rename_i phase e ho
    have hd : s.opening.isDone = true → False := fun hd => by
      rw [ho] at hd
      cases hd
    split at h
    · cases h
    · rename_i s₁ next hc
      cases h
      exact { aside_of_continueStop? hc with opened := fun h => (hd h).elim }
    · rename_i s₁ hc
      have ha : s.Aside (s₁.report (.openFailed e)) :=
        (aside_of_continueStop? hc).trans (aside_report rfl)
      cases h
      exact { ha with opened := fun h => (hd h).elim }

theorem aside_of_timeOut? (h : s.timeOut? = some s') : s.Aside s' := by
  unfold timeOut? at h
  split at h
  · rename_i ho
    split at h
    · cases h
    · cases h
      exact { Aside.refl s with opened := fun hd => by rw [ho] at hd; cases hd }
  · cases h

theorem sends_of_sender? (h : s.sender? = some s') : s.Sends s' := by
  unfold sender? at h
  split at h
  · cases h
  · rename_i hs
    split at h
    · rename_i hstop
      cases h
      exact .stop hstop
    · split at h
      · rename_i bytes requests hq
        cases h
        exact .take hs hq
      · cases h
  · rename_i bytes hs
    split at h
    · rename_i hup
      cases h
      exact .look hs hup
    · rename_i hdown
      cases h
      exact .refuse hs hdown
  · rename_i bytes hs
    split at h
    · rename_i hstop
      cases h
      exact .stop hstop
    · split at h
      · rename_i outbound hw
        cases h
        exact .write hs hw
      · rename_i e hw
        cases h
        exact .fail hs hw
  · rename_i notice hs
    split at h
    · cases h
      exact .giveUp hs
    · split at h
      · cases h
        exact .notify hs
      · cases h

theorem refusal?_eq_none_iff {x : Submission} :
    s.refusal? x = none ↔ s.link = .connected ∧ ∃ bytes, x.build s.server.version = .ok bytes := by
  unfold refusal?
  by_cases hl : s.link = .connected
  · cases hb : x.build s.server.version <;> simp [hl]
  · simp [hl]

theorem refusal?_eq_some_iff {x : Submission} {e : LinkError} :
    s.refusal? x = some e ↔
      s.link ≠ .connected ∧ e = .notConnected x.id ∨
        s.link = .connected ∧ x.build s.server.version = .error e := by
  unfold refusal?
  by_cases hl : s.link = .connected
  · cases hb : x.build s.server.version <;> simp [hl]
  · simp [hl, eq_comm]

theorem submit?_of_refusal {caller : Nat} {patience : Patience} {x : Submission} {e : LinkError}
    (ho : s.opening.isDone = true) (hc : s.calls caller = none) (he : s.refusal? x = some e) :
    s.submit? caller patience x = some (s.reject caller e) := by
  simp only [submit?, ho, hc, Option.isNone_none, Bool.and_self, if_true]
  rcases refusal?_eq_some_iff.mp he with ⟨hl, rfl⟩ | ⟨hl, hb⟩
  · rw [if_pos hl]
  · rw [if_neg (fun hn => hn hl), hb]

theorem submit?_of_built {caller : Nat} {patience : Patience} {x : Submission}
    {bytes : List UInt8} (ho : s.opening.isDone = true) (hc : s.calls caller = none)
    (hl : s.link = .connected) (hb : x.build s.server.version = .ok bytes) :
    s.submit? caller patience x
      = some (s.setCall caller (some (.submitting patience x.id bytes))) := by
  simp only [submit?, ho, hc, Option.isNone_none, Bool.and_self, if_true, hl, ne_eq,
    not_true_eq_false, if_false, hb]

theorem issues_of_submit? {caller : Nat} {patience : Patience} {x : Submission}
    (h : s.submit? caller patience x = none) (other : Nat) :
    s.issues other (.submit caller patience x) = [] := by
  refine if_neg ?_
  rintro ⟨rfl, ho, hc⟩
  rw [Option.isNone_iff_eq_none] at hc
  cases he : s.refusal? x with
  | some e =>
    rw [submit?_of_refusal ho hc he] at h
    cases h
  | none =>
    obtain ⟨hl, bytes, hb⟩ := refusal?_eq_none_iff.mp he
    rw [submit?_of_built ho hc hl hb] at h
    cases h

theorem outgoing_of_submit? {caller : Nat} {patience : Patience} {x : Submission}
    (h : s.submit? caller patience x = some s') : s.Outgoing (.submit caller patience x) s' := by
  have hfree : s.opening.isDone = true ∧ s.calls caller = none := by
    unfold submit? at h
    split at h
    · rename_i hf
      simpa using hf
    · cases h
  obtain ⟨ho, hc⟩ := hfree
  cases he : s.refusal? x with
  | some e =>
    rw [submit?_of_refusal ho hc he] at h
    cases h
    exact .refuse ho hc he
  | none =>
    obtain ⟨hl, bytes, hb⟩ := refusal?_eq_none_iff.mp he
    rw [submit?_of_built ho hc hl hb] at h
    cases h
    exact .begin ho hc hl hb

theorem pending_of_stopping {caller : Nat} {phase : Stopping}
    (h : s.calls caller = some (.stopping phase)) : s.pending caller = none := by
  rw [pending, h]
  rfl

theorem outgoing_of_proceed? {caller : Nat} (h : s.proceed? caller = some s') :
    s.Outgoing (.proceed caller) s' := by
  unfold proceed? at h
  split at h
  · cases h
  · rename_i patience id bytes hc
    split at h
    · rename_i he
      cases h
      exact .turnAway hc he
    · rename_i he
      have hrun : s.sending.isEnded = false := Bool.eq_false_iff.mpr he
      split at h
      · rename_i hroom
        cases h
        exact .accept hc hrun hroom
      · rename_i hroom
        split at h
        · cases h
        · cases h
          exact .full hc hrun (Bool.eq_false_iff.mpr hroom)
  · rename_i phase hc
    have hwas := pending_of_stopping hc
    split at h
    · cases h
    · rename_i s₁ next hs
      cases h
      exact .stopping rfl (aside_of_continueStop? hs) hwas rfl fun _ => rfl
    · rename_i s₁ hs
      cases h
      exact .stopping rfl ((aside_of_continueStop? hs).trans (aside_report rfl)) hwas rfl
        fun _ => rfl

theorem outgoing_of_disconnect? {caller : Nat} (h : s.disconnect? caller = some s') :
    s.Outgoing (.disconnect caller) s' := by
  unfold disconnect? at h
  split at h
  · rename_i hf
    have hc : s.calls caller = none := by
      simp only [Bool.and_eq_true, Option.isNone_iff_eq_none] at hf
      exact hf.2
    cases h
    have hwas : s.pending caller = none := by
      rw [pending, hc]
      rfl
    exact .stopping rfl { Aside.refl s with } hwas rfl fun _ => rfl
  · cases h

/-- Every move is one of these. -/
theorem outgoing (s : Session) (m : Move) : s.Outgoing m (s.move m) := by
  unfold move
  cases h : s.move? m with
  | none =>
    refine .aside (Aside.refl s) fun caller => ?_
    cases m with
    | submit other patience x => exact issues_of_submit? h caller
    | _ => rfl
  | some s' =>
    cases m with
    | receiver => exact .aside (aside_of_receiver? h) fun _ => rfl
    | teller => exact .aside (aside_of_teller? h) fun _ => rfl
    | sender => exact .sender (sends_of_sender? h)
    | opener => exact .aside (aside_of_opener? h) fun _ => rfl
    | timeOut => exact .aside (aside_of_timeOut? h) fun _ => rfl
    | submit caller patience x => exact outgoing_of_submit? h
    | draw caller =>
      simp only [move?, draw?] at h
      split at h
      · cases h
        exact .aside { aside_report (s := s) (r := .drew caller s.nextId) rfl with } fun _ => rfl
      · cases h
    | disconnect caller => exact outgoing_of_disconnect? h
    | proceed caller => exact outgoing_of_proceed? h
    | peerSends bytes =>
      simp only [move?] at h
      split at h
      · cases h
      · cases h
        exact .aside { Aside.refl s with } fun _ => rfl
    | peerCloses =>
      cases h
      exact .aside { Aside.refl s with } fun _ => rfl

/-! ### Along a run -/

theorem calls_move_of_ne {m : Move} {caller : Nat} (hm : m.caller? ≠ some caller) :
    (s.move m).calls caller = s.calls caller := by
  have hne {other : Nat} (ho : m.caller? = some other) : caller ≠ other := by
    rintro rfl
    exact hm ho
  have h := s.outgoing m
  generalize s.move m = s' at h
  cases h with
  | aside rest idle => rw [rest.calls]
  | sender step => cases step <;> rfl
  | stopping own rest was now idle => rw [calls_setCall_of_ne _ _ (hne own), rest.calls]
  | refuse opened free refused => exact calls_setCall_of_ne _ _ (hne rfl)
  | begin opened free up built => exact calls_setCall_of_ne _ _ (hne rfl)
  | turnAway busy ended => exact calls_setCall_of_ne _ _ (hne rfl)
  | accept busy running room => exact calls_setCall_of_ne _ _ (hne rfl)
  | full busy running full => exact calls_setCall_of_ne _ _ (hne rfl)

/-- While only others go, a caller stays where it is. -/
theorem calls_run_of_ne {moves : List Move} {caller : Nat}
    (hm : ∀ m ∈ moves, m.caller? ≠ some caller) :
    (s.run moves).calls caller = s.calls caller := by
  induction moves generalizing s with
  | nil => rfl
  | cons m moves ih =>
    obtain ⟨hm, hms⟩ := List.forall_mem_cons.mp hm
    rw [run_cons, ih hms, calls_move_of_ne hm]

end Session
end BrokerLink

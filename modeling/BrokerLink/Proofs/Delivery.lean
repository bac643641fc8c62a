import BrokerLink.Proofs.AnswerOrder
import BrokerLink.Proofs.PlacedAlike
import BrokerLink.Proofs.SessionTrace

/-!
# Frames on their way

While the link is up, frames go from the callers to the server through the queue and the
hand of the sender, and none is dropped, doubled or overtaken: what was to be written
before a move, and what is accepted with it, is what is written with it and what is still
to be written, in this order (`Flows`). Added up over a run that the session has begun with
nothing to write, the frames that have been written are the first of those accepted.
-/

namespace BrokerLink

/-- The frame that the sender has taken and not written yet. -/
def Sending.hand : Sending → List (List UInt8)
  | holding bytes => [bytes]
  | writing bytes => [bytes]
  | _ => []

/-- The sender has neither ended nor anything to complain about. -/
def Sending.isServing : Sending → Bool
  | idle => true
  | holding _ => true
  | writing _ => true
  | _ => false

namespace Session

variable {s s' : Session} {config : ClientConfig} {c c' : Connection}

/-- Nobody has told the tasks to stop, and the link is connected, once the opening call has
returned. -/
def isUp (s : Session) : Bool :=
  !s.isStopping && (!s.opening.isDone || decide (s.link = .connected))

/-- The session is up whenever a move is made in the course of a run. -/
def staysUp (s : Session) : List Move → Bool
  | [] => true
  | m :: moves => s.isUp && (s.move m).staysUp moves

theorem isUp_iff :
    s.isUp = true ↔ s.isStopping = false ∧ (s.opening.isDone = true → s.link = .connected) := by
  simp only [isUp, Bool.and_eq_true, Bool.not_eq_true', Bool.or_eq_true, decide_eq_true_eq]
  cases s.opening.isDone <;> simp

/-! ### What the sender can rely on -/

/-- Everything that is to be written can be written: the connection takes it, the sender is at its
work, and nothing was submitted before the session was opened. -/
structure Serving (s : Session) : Prop where
  isOpen : s.outbound.isOpen = true
  sending : s.sending.isServing = true
  unopened : s.opening.isDone = false →
    s.sending = .idle ∧ s.requests = [] ∧ ∀ caller, s.pending caller = none

namespace Serving

theorem aside (hs : s.Serving) (h : s.Aside s') : s'.Serving where
  isOpen := by rw [h.outbound, hs.isOpen]
  sending := by rw [h.sending, hs.sending]
  unopened ho := by
    have ho' : s.opening.isDone = false := by
      cases hd : s.opening.isDone with
      | false => rfl
      | true =>
        rw [h.opened hd] at ho
        cases ho
    obtain ⟨hi, hr, hp⟩ := hs.unopened ho'
    refine ⟨h.sending.trans hi, h.requests.trans hr, fun caller => ?_⟩
    rw [pending, h.calls]
    exact hp caller

/-- A caller that does not submit has nothing to send. -/
theorem setCall (hs : s.Serving) {caller : Nat} {call : Option Call}
    (h : call.bind Call.frame? = none) : (s.setCall caller call).Serving :=
  { hs with
    unopened := fun ho => by
      obtain ⟨hi, hr, hp⟩ := hs.unopened ho
      refine ⟨hi, hr, fun other => ?_⟩
      by_cases hc : caller = other
      · rw [← hc, pending_setCall, h]
      · rw [pending_setCall_of_ne _ hc, hp other] }

theorem reject (hs : s.Serving) (caller : Nat) (e : LinkError) : (s.reject caller e).Serving :=
  setCall (s := (s.tell (.ofError e)).report (.rejected caller e)) { hs with } rfl

/-- Who has something to send has been let in. -/
theorem opened_of_holding (hs : s.Serving) {bytes : List UInt8} (h : s.sending = .holding bytes) :
    s.opening.isDone = true := by
  cases ho : s.opening.isDone with
  | true => rfl
  | false =>
    rw [(hs.unopened ho).1] at h
    cases h

theorem opened_of_pending (hs : s.Serving) {caller : Nat} {bytes : List UInt8}
    (h : s.pending caller = some bytes) : s.opening.isDone = true := by
  cases ho : s.opening.isDone with
  | true => rfl
  | false =>
    rw [(hs.unopened ho).2.2 caller] at h
    cases h

end Serving

/-! ### What flows -/

/-- The frames that are still to be written: the one that the sender has taken, and those in the
queue. -/
def unwritten (s : Session) : List (List UInt8) := s.sending.hand ++ s.requests

/-- The frames that were to be written and those accepted since have been written or are still to be
written, in their order. -/
def Flows (s s' : Session) : Prop :=
  ∃ written new, s'.outbound.sent = s.outbound.sent ++ written.flatten ∧
    s'.outbound.framesWritten = s.outbound.framesWritten + written.length ∧
    s'.accepted = s.accepted ++ new ∧
    s.unwritten ++ new.map Prod.snd = written ++ s'.unwritten

namespace Flows

theorem same (ho : s'.outbound = s.outbound) (ha : s'.accepted = s.accepted)
    (hu : s'.unwritten = s.unwritten) : s.Flows s' := by
  refine ⟨[], [], ?_, ?_, ?_, ?_⟩
  · rw [ho, List.flatten_nil, List.append_nil]
  · rw [ho, List.length_nil, Nat.add_zero]
  · rw [ha, List.append_nil]
  · rw [hu, List.map_nil, List.append_nil, List.nil_append]

theorem aside (h : s.Aside s') : s.Flows s' :=
  same h.outbound h.accepted (by rw [unwritten, h.sending, h.requests]; rfl)

theorem trans {s'' : Session} (h : s.Flows s') (h' : s'.Flows s'') : s.Flows s'' := by
  obtain ⟨written, new, hs, hw, ha, hu⟩ := h
  obtain ⟨written', new', hs', hw', ha', hu'⟩ := h'
  refine ⟨written ++ written', new ++ new', ?_, ?_, ?_, ?_⟩
  · rw [hs', hs, List.flatten_append, List.append_assoc]
  · rw [hw', hw, List.length_append, Nat.add_assoc]
  · rw [ha', ha, List.append_assoc]
  · rw [List.map_append, ← List.append_assoc, hu, List.append_assoc, hu', List.append_assoc]

end Flows

/-- While the session is up, the sender writes what it has taken and takes what is next. -/
theorem flows_sends (hs : s.Serving) (hu : s.isUp = true) (h : s.Sends s') :
    s.Flows s' ∧ s'.Serving := by
  obtain ⟨hrun, hup⟩ := isUp_iff.mp hu
  have hserving := hs.sending
  cases h with
  | stop stopping =>
    rw [hrun] at stopping
    cases stopping
  | @take bytes requests idle queued =>
    constructor
    · refine .same rfl rfl ?_
      simp only [unwritten, Sending.hand, idle, queued, List.nil_append, List.cons_append]
    · refine { hs with sending := rfl, unopened := fun ho => ?_ }
      have hq := (hs.unopened ho).2.1
      rw [queued] at hq
      cases hq
  | @look bytes holding up =>
    constructor
    · refine .same rfl rfl ?_
      simp only [unwritten, Sending.hand, holding]
    · refine { hs with sending := rfl, unopened := fun ho => ?_ }
      rw [hs.opened_of_holding holding] at ho
      cases ho
  | refuse holding down => exact absurd (hup (hs.opened_of_holding holding)) down
  | @write bytes outbound writing written =>
    rw [Outbound.writeFrame_of_isOpen hs.isOpen] at written
    cases written
    constructor
    · refine ⟨[bytes], [], ?_, rfl, (List.append_nil _).symm, ?_⟩
      · rw [List.flatten_singleton]
      · simp only [unwritten, Sending.hand, writing, List.map_nil, List.append_nil,
          List.nil_append]
    · refine { hs with isOpen := hs.isOpen, sending := rfl, unopened := fun ho => ?_ }
      have hidle := (hs.unopened ho).1
      rw [writing] at hidle
      cases hidle
  | fail writing failed =>
    rw [Outbound.writeFrame_of_isOpen hs.isOpen] at failed
    cases failed
  | notify complaining =>
    rw [complaining] at hserving
    cases hserving
  | giveUp complaining =>
    rw [complaining] at hserving
    cases hserving

/-- While the session is up, no move drops, doubles or overtakes a frame. -/
theorem flows_move (hs : s.Serving) (hu : s.isUp = true) (m : Move) :
    s.Flows (s.move m) ∧ (s.move m).Serving := by
  have h := s.outgoing m
  generalize s.move m = s' at h
  cases h with
  | aside rest idle => exact ⟨.aside rest, hs.aside rest⟩
  | sender step => exact flows_sends hs hu step
  | stopping own rest was now idle =>
    exact ⟨(Flows.aside rest).trans (.same rfl rfl rfl), (hs.aside rest).setCall now⟩
  | refuse opened free refused =>
    exact ⟨.same rfl (accepted_of_answers_error (answers_reject _ _ _)) rfl, hs.reject _ _⟩
  | begin opened free up built =>
    refine ⟨.same rfl rfl rfl, { hs with unopened := fun ho => ?_ }⟩
    exact absurd (opened.symm.trans ho) nofun
  | turnAway busy ended =>
    exact ⟨.same rfl (accepted_of_answers_error (answers_reject _ _ _)) rfl, hs.reject _ _⟩
  | @accept caller patience id bytes busy running room =>
    constructor
    · refine ⟨[], [(caller, bytes)], (List.append_nil _).symm, rfl, ?_, ?_⟩
      · exact accepted_of_answers_ok (answers_accept _ _ _)
      · exact List.append_assoc _ _ _
    · have hp : s.pending caller = some bytes := by
        rw [pending, busy]
        rfl
      refine { hs with unopened := fun ho => ?_ }
      exact absurd ((hs.opened_of_pending hp).symm.trans ho) nofun
  | @full caller id bytes busy running full =>
    refine ⟨.same rfl (accepted_of_answers_error (answers_report _ _)) rfl, ?_⟩
    exact Serving.setCall (s := s.report (.rejected caller .queueFull)) { hs with } rfl

theorem flows_run {moves : List Move} (hs : s.Serving) (hu : s.staysUp moves = true) :
    s.Flows (s.run moves) ∧ (s.run moves).Serving := by
  induction moves generalizing s with
  | nil => exact ⟨.same rfl rfl rfl, hs⟩
  | cons m moves ih =>
    obtain ⟨hup, hups⟩ := Bool.and_eq_true_iff.mp hu
    obtain ⟨hf, hs'⟩ := flows_move hs hup m
    obtain ⟨hfs, hs''⟩ := ih hs' hups
    exact ⟨hf.trans hfs, hs''⟩

/-! ### From the beginning -/

/-- A session that has just been started has nothing to send, and has been asked for nothing. -/
theorem serving_of_start (h : start config c = (.done s, c')) : s.Serving := by
  obtain ⟨_, _, _, -, -, -, -, -, hs⟩ := start_eq_done h
  obtain ⟨_, _, -, -, ho⟩ := outbound_of_start h
  rw [hs] at ho ⊢
  exact {
    isOpen := congrArg Outbound.isOpen ho
    sending := rfl
    unopened := fun _ => ⟨rfl, rfl, fun _ => rfl⟩ }

/-- The frames of a caller among those that are accepted are the frames among its answers. -/
theorem accepted_of_caller (s : Session) (caller : Nat) :
    (s.accepted.filter fun a => a.1 = caller).map Prod.snd
      = (s.answersTo caller).filterMap Except.toOption := by
  unfold accepted answersTo
  induction s.answers with
  | nil => rfl
  | cons answer answers ih =>
    obtain ⟨other, result⟩ := answer
    by_cases hc : other = caller
    · cases result with
      | error e => simpa [hc, Except.toOption, List.filterMap_cons] using ih
      | ok bytes => simpa [hc, Except.toOption, List.filterMap_cons] using ih
    · cases result with
      | error e => simpa [hc, Except.toOption, List.filterMap_cons] using ih
      | ok bytes => simpa [hc, Except.toOption, List.filterMap_cons] using ih

/-- The frames among the answers were built in this order. -/
theorem sublist_of_fits {built answers : List (Except LinkError (List UInt8))}
    (h : List.Forall₂ Fits built answers) :
    ((answers.filterMap Except.toOption).map Except.ok).Sublist built := by
  induction h with
  | nil => exact .slnil
  | @cons b r built answers hf hfs ih =>
    cases r with
    | error e => exact ih.cons b
    | ok bytes =>
      rw [hf bytes rfl]
      exact ih.cons_cons _

/-- The frames that are accepted of a caller are some of those that it has built, in the order in
which it has built them. -/
theorem sublist_issued (h : start config c = (.done s, c')) (moves : List Move) (caller : Nat) :
    (((s.run moves).accepted.filter fun a => a.1 = caller).map fun a => Except.ok a.2).Sublist
      (s.issued caller moves) := by
  obtain ⟨_, _, _, -, -, -, -, -, hs⟩ := start_eq_done h
  have hawaited : s.awaited caller = [] := by rw [hs]; rfl
  have hanswers : s.answersTo caller = [] := by rw [hs]; rfl
  obtain ⟨settled, new, hb, ha, hf⟩ := s.settles_run moves caller
  rw [hawaited, List.nil_append] at hb
  rw [hanswers, List.nil_append] at ha
  have hok : ((s.run moves).accepted.filter fun a => a.1 = caller).map (fun a => Except.ok a.2)
      = ((new.filterMap Except.toOption).map Except.ok : List (Except LinkError (List UInt8))) := by
    rw [← ha, ← accepted_of_caller, List.map_map]
    rfl
  rw [hok, hb]
  exact (sublist_of_fits hf).trans (List.sublist_append_left _ _)

/-- While the session is up, what is written behind the first request are the frames of those
requests that are accepted, each of them whole and once, in the order in which they are accepted;
when none is left to write, it is all of them. Those of any one caller are written in the order in
which the caller has built them. -/
theorem accepted_frames_are_written (h : start config c = (.done s, c')) {moves : List Move}
    (hu : s.staysUp moves = true) :
    ∃ greeting frame written,
      hello config.connectOptions = .ok greeting ∧
      (Request.startApi config.clientId config.optionalCapabilities).frame s.server.version
        = .ok frame ∧
      (s.run moves).outbound.sent
        = c.outbound.sent ++ greeting ++ frame.bytes ++ (written.map Prod.snd).flatten ∧
      (s.run moves).outbound.framesWritten = c.outbound.framesWritten + 1 + written.length ∧
      written <+: (s.run moves).accepted ∧
      ((s.run moves).unwritten = [] → written = (s.run moves).accepted) ∧
      ∀ caller, ((written.filter fun w => w.1 = caller).map fun w => Except.ok w.2).Sublist
        (s.issued caller moves) := by
  obtain ⟨_, _, _, -, -, -, -, -, hs⟩ := start_eq_done h
  obtain ⟨greeting, frame, hg, hf, hout⟩ := outbound_of_start h
  have hnone : s.unwritten = [] := by rw [hs]; rfl
  have haccepted : s.accepted = [] := by rw [hs]; rfl
  obtain ⟨⟨written, new, hw, hn, ha, hflow⟩, -⟩ := flows_run (serving_of_start h) hu
  rw [haccepted, List.nil_append] at ha
  rw [hnone, List.nil_append, ← ha] at hflow
  -- what has been written are the first of the frames that have been accepted
  have hfirst : ((s.run moves).accepted.take written.length).map Prod.snd = written := by
    rw [List.map_take, hflow, List.take_left]
  have hlength : ((s.run moves).accepted.take written.length).length = written.length := by
    simpa only [List.length_map] using congrArg List.length hfirst
  have htaken := List.take_prefix written.length (s.run moves).accepted
  refine ⟨greeting, frame, (s.run moves).accepted.take written.length, hg, hf, ?_, ?_, htaken,
    ?_, ?_⟩
  · rw [hfirst, hw, hout]
  · rw [hn, hlength, hout]
  · intro hdone
    rw [hdone, List.append_nil] at hflow
    have hall : (s.run moves).accepted.length = written.length := by
      rw [← hflow, List.length_map]
    exact List.take_of_length_le (Nat.le_of_eq hall)
  · intro caller
    exact ((htaken.sublist.filter _).map _).trans (sublist_issued h moves caller)

/-- A server has answered, and not sent anything else yet. -/
def greeted : Connection := { inbound := { arriving := [framed ["157", "20240101"]] } }

/-- The session that this answer starts when nothing is asked for, in full. -/
theorem start_greeted : ∃ s c', start {} greeted = (.done s, c') ∧
    s = { config := {}, server := ⟨157, "20240101"⟩, inbound := greeted.inbound.next.2,
          outbound := { sent := Utf8.encode "API" ++ [0] ++ bigEndian 9 ++ Utf8.encode "v100..157"
                          ++ framed ["71", "2", "0", ""],
                        framesWritten := 1, isOpen := true } } := by
  have hg : hello ""
      = .ok (Utf8.encode "API" ++ [0] ++ bigEndian 9 ++ Utf8.encode "v100..157") := by rfl
  obtain ⟨frame, hf⟩ := exists_frame_startApi
  have hbytes : frame.bytes = framed ["71", "2", "0", ""] := by
    rw [Frame.bytes, Frame.header, Frame.payload, Request.fields_of_frame hf]
    rfl
  have hn : greeted.inbound.next
      = (.done (Fields.payload ["157", "20240101"]), greeted.inbound.next.2) := by rfl
  have hp : ServerInfo.ofPayload (Fields.payload ["157", "20240101"]) = .ok ⟨157, "20240101"⟩ := by
    rfl
  obtain ⟨s, c', h, hserver, hinbound⟩ := @exists_start {} greeted _ _ _ _ _ hg rfl hn hp hf
  obtain ⟨_, _, _, -, -, -, -, -, hs⟩ := start_eq_done h
  obtain ⟨greeting, frame', hg', hf', hout⟩ := outbound_of_start h
  cases hg.symm.trans hg'
  rw [hserver] at hf'
  cases hf.symm.trans hf'
  rw [hserver, hinbound, hout, hbytes] at hs
  exact ⟨s, c', h, hs⟩

/-- The server sends the next id and the accounts, which brings the link up. -/
def comesUp : List Move :=
  .peerSends (framed ["9", "1", "100"] ++ framed ["15", "1", "DU123"])
    :: (List.replicate 5 .receiver ++ List.replicate 8 .teller ++ [.opener])

/-- Two callers submit, the second of which is the first to queue its frame. There is no room for
the other frame before the sender has taken that one. -/
def twoCallers : List Move :=
  [.submit 0 .waits (.raw [7]), .submit 1 .tries (.raw [8, 9]), .proceed 1, .proceed 0, .sender,
    .proceed 0] ++ List.replicate 5 .sender

theorem accepted_frames_are_written_twoCallers :
    ∃ s c', start { outboundCapacity := 1 } greeted = (.done s, c') ∧
      s.staysUp (comesUp ++ twoCallers) = true ∧
      ∃ before, (s.run (comesUp ++ twoCallers)).outbound.sent = before ++ [8, 9, 7] := by
  have hg : hello ""
      = .ok (Utf8.encode "API" ++ [0] ++ bigEndian 9 ++ Utf8.encode "v100..157") := by rfl
  obtain ⟨frame, hf⟩ := exists_frame_startApi
  have hbytes : frame.bytes = framed ["71", "2", "0", ""] := by
    rw [Frame.bytes, Frame.header, Frame.payload, Request.fields_of_frame hf]
    rfl
  have hn : greeted.inbound.next
      = (.done (Fields.payload ["157", "20240101"]), greeted.inbound.next.2) := by rfl
  have hp : ServerInfo.ofPayload (Fields.payload ["157", "20240101"]) = .ok ⟨157, "20240101"⟩ := by
    rfl
  obtain ⟨s, c', h, hserver, hinbound⟩ :=
    @exists_start { outboundCapacity := 1 } greeted _ _ _ _ _ hg rfl hn hp hf
  obtain ⟨_, _, _, -, -, -, -, -, hs⟩ := start_eq_done h
  obtain ⟨greeting, frame', hg', hf', hout⟩ := outbound_of_start h
  cases hg.symm.trans hg'
  rw [hserver] at hf'
  cases hf.symm.trans hf'
  -- nothing about the session is left open
  rw [hserver, hinbound, hout, hbytes] at hs
  have hup : s.staysUp (comesUp ++ twoCallers) = true := by
    rw [hs]
    decide +kernel
  have hdrained : (s.run (comesUp ++ twoCallers)).unwritten = [] := by
    rw [hs]
    decide +kernel
  have haccepted : (s.run (comesUp ++ twoCallers)).accepted = [(1, [8, 9]), (0, [7])] := by
    rw [hs]
    decide +kernel
  obtain ⟨_, _, written, -, -, hsent, -, -, hall, -⟩ := accepted_frames_are_written h hup
  rw [hall hdrained, haccepted] at hsent
  exact ⟨s, c', h, hup, _, hsent⟩

end Session
end BrokerLink

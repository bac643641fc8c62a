import BrokerLink.Proofs.Outgoing

/-!
# Submissions

A caller's call to submit takes two steps. In the first it looks at the link and has its
frame built, in the second it tries to queue the frame; others may go in between. What the
two steps together report is one of five things (`Attempt.ends`), so that a frame is queued
exactly if the call returns it, and a refusal is told exactly once.
-/

namespace BrokerLink

theorem Event.ofError_of_code?_eq_none {e : LinkError} (h : e.code? = none) :
    Event.ofError e = .error (-1) 508 e.message := by
  cases e with
  | client id fault detail => cases h
  | encoding fault => rfl
  | decoding fault => rfl
  | redirected target => rfl
  | queueFull => rfl
  | disconnected reason => rfl

namespace Session

/-- What a move reports. -/
def reports (s : Session) (m : Move) : List Report := (s.move m).log.drop s.log.length

theorem reports_of_log {s : Session} {m : Move} {new : List Report}
    (h : (s.move m).log = s.log ++ new) : s.reports m = new := by
  rw [reports, h, List.drop_left]

theorem log_reject (s : Session) (caller : Nat) (e : LinkError) :
    (s.reject caller e).log = s.log ++ [.told (.ofError e), .rejected caller e] := by
  simp only [reject, tell, report, setCall, List.append_assoc, List.cons_append, List.nil_append]

end Session

open Session

/-- A call to submit in the course of a run, up to the point at which it tries to queue its frame.
An attempt to queue it that has to wait changes nothing, so that it makes no difference how many of
them there have been. -/
structure Attempt where
  before : Session
  caller : Nat
  patience : Patience
  submission : Submission
  /-- What others do after the frame has been built. -/
  others : List Move
  opened : before.opening.isDone = true
  free : before.calls caller = none
  apart : ∀ m ∈ others, m.caller? ≠ some caller

namespace Attempt

variable (a : Attempt)

/-- The session when the link has been looked at and the frame has been built. -/
def checked : Session := a.before.move (.submit a.caller a.patience a.submission)

/-- The session in which the frame is to be queued. -/
def waiting : Session := a.checked.run a.others

def answered : Session := a.waiting.move (.proceed a.caller)

/-- What the two steps of the caller report. -/
def reports : List Report :=
  a.before.reports (.submit a.caller a.patience a.submission)
    ++ a.waiting.reports (.proceed a.caller)

/-- The events that the two steps of the caller tell the observer. -/
def events : List Event := a.reports.filterMap Report.event?

/-- The answers that the call returns. -/
def results : List (Except LinkError (List UInt8)) := a.reports.filterMap Report.result?

/-- The frame that is to be queued, for a server of the version. -/
def built : Except LinkError (List UInt8) := a.submission.build a.before.server.version

/-- The queue in which the frame is to be queued has room for it. -/
def hasRoom : Bool :=
  BrokerLink.hasRoom a.waiting.config.outboundCapacity a.waiting.requests

/-- How a call comes out, with what it reports. -/
inductive Ends (a : Attempt) : List Report → Prop
  | refused {e : LinkError} (why : a.before.refusal? a.submission = some e)
      (same : a.answered = a.waiting) : Ends a [.told (.ofError e), .rejected a.caller e]
  | turnedAway {bytes : List UInt8} (built : a.built = .ok bytes)
      (same : a.answered.requests = a.waiting.requests) :
      Ends a [.told (.ofError (.client a.submission.id .notConnected "writer stopped")),
        .rejected a.caller (.client a.submission.id .notConnected "writer stopped")]
  | accepted {bytes : List UInt8} (up : a.before.link = .connected) (built : a.built = .ok bytes)
      (queued : a.answered.requests = a.waiting.requests ++ [bytes]) :
      Ends a [.accepted a.caller bytes]
  | gaveUp {bytes : List UInt8} (built : a.built = .ok bytes) (tries : a.patience = .tries)
      (full : a.hasRoom = false) (same : a.answered.requests = a.waiting.requests) :
      Ends a [.rejected a.caller .queueFull]
  | waits {bytes : List UInt8} (built : a.built = .ok bytes) (waits : a.patience = .waits)
      (full : a.hasRoom = false) (same : a.answered = a.waiting) : Ends a []

variable {a}

theorem calls_waiting : a.waiting.calls a.caller = a.checked.calls a.caller :=
  calls_run_of_ne a.apart

/-- A call that was refused at once is over, and has nothing to queue. -/
theorem of_refusal {e : LinkError} (h : a.before.refusal? a.submission = some e) :
    a.answered = a.waiting ∧ a.reports = [.told (.ofError e), .rejected a.caller e] := by
  have hchecked : a.checked = a.before.reject a.caller e := by
    rw [checked, move, move?, submit?_of_refusal a.opened a.free h, Option.getD_some]
  have hfree : a.waiting.calls a.caller = none := by
    rw [calls_waiting, hchecked]
    exact calls_setCall _ _ _
  have hsame : a.answered = a.waiting := by
    simp only [answered, move, move?, proceed?, hfree, Option.getD_none]
  have hfirst : a.before.reports (.submit a.caller a.patience a.submission)
      = [.told (.ofError e), .rejected a.caller e] := by
    refine reports_of_log ?_
    rw [← log_reject, ← hchecked, checked]
  have hsecond : a.waiting.reports (.proceed a.caller) = [] := by
    refine reports_of_log ?_
    rw [List.append_nil]
    exact congrArg Session.log hsame
  rw [reports, hfirst, hsecond, List.append_nil]
  exact ⟨hsame, rfl⟩

/-- A call whose frame was built comes out as the queue and the sender are when it is queued. -/
theorem ends_of_built {bytes : List UInt8} (hl : a.before.link = .connected)
    (hb : a.built = .ok bytes) : a.Ends a.reports := by
  have hchecked : a.checked
      = a.before.setCall a.caller (some (.submitting a.patience a.submission.id bytes)) := by
    rw [checked, move, move?, submit?_of_built a.opened a.free hl hb, Option.getD_some]
  have hbusy : a.waiting.calls a.caller
      = some (.submitting a.patience a.submission.id bytes) := by
    rw [calls_waiting, hchecked]
    exact calls_setCall _ _ _
  have hfirst : a.before.reports (.submit a.caller a.patience a.submission) = [] := by
    refine reports_of_log ?_
    rw [List.append_nil, ← checked, hchecked]
    rfl
  rw [reports, hfirst, List.nil_append]
  cases he : a.waiting.sending.isEnded with
  | true =>
    have hans : a.answered
        = a.waiting.reject a.caller (.client a.submission.id .notConnected "writer stopped") := by
      simp only [answered, move, move?, proceed?, hbusy, he, if_true, Option.getD_some]
    rw [reports_of_log ((congrArg Session.log hans).trans (log_reject _ _ _))]
    exact .turnedAway hb (by rw [hans]; rfl)
  | false =>
    cases hr : a.hasRoom with
    | true =>
      have hans : a.answered = a.waiting.accept a.caller bytes := by
        unfold hasRoom at hr
        simp only [answered, move, move?, proceed?, hbusy, he, hr, Bool.false_eq_true, if_false,
          if_true, Option.getD_some]
      rw [reports_of_log (congrArg Session.log hans)]
      exact .accepted hl hb (by rw [hans]; rfl)
    | false =>
      have hfull := hr
      unfold hasRoom at hr
      cases hp : a.patience with
      | waits =>
        have hans : a.answered = a.waiting := by
          simp only [answered, move, move?, proceed?, hbusy, he, hr, hp, Bool.false_eq_true,
            if_false, Option.getD_none]
        rw [reports_of_log ((congrArg Session.log hans).trans (List.append_nil _).symm)]
        exact .waits hb hp hfull hans
      | tries =>
        have hans : a.answered
            = (a.waiting.report (.rejected a.caller .queueFull)).setCall a.caller none := by
          simp only [answered, move, move?, proceed?, hbusy, he, hr, hp, Bool.false_eq_true,
            if_false, Option.getD_some]
        rw [reports_of_log (congrArg Session.log hans)]
        exact .gaveUp hb hp hfull (by rw [hans]; rfl)

/-- Every call comes out in one of these ways. -/
theorem ends (a : Attempt) : a.Ends a.reports := by
  cases h : a.before.refusal? a.submission with
  | some e =>
    obtain ⟨hsame, hreports⟩ := of_refusal h
    rw [hreports]
    exact .refused h hsame
  | none =>
    obtain ⟨hl, bytes, hb⟩ := refusal?_eq_none_iff.mp h
    exact ends_of_built hl hb

/-- Nothing is queued before the frame has been built. -/
theorem requests_checked (a : Attempt) : a.checked.requests = a.before.requests := by
  have h := a.before.outgoing (.submit a.caller a.patience a.submission)
  unfold checked
  generalize a.before.move _ = s' at h ⊢
  cases h with
  | aside rest idle => exact rest.requests
  | stopping own rest was now idle => exact rest.requests
  | refuse opened free refused => rfl
  | begin opened free up built => rfl

namespace Ends

variable {reports : List Report} {bytes : List UInt8} {e : LinkError}

theorem length_results_le (h : a.Ends reports) :
    (reports.filterMap Report.result?).length ≤ 1 := by
  cases h with
  | refused why same => exact Nat.le_refl 1
  | turnedAway built same => exact Nat.le_refl 1
  | accepted up built queued => exact Nat.le_refl 1
  | gaveUp built tries full same => exact Nat.le_refl 1
  | waits built waits full same => exact Nat.zero_le 1

/-- A frame that is returned has been queued. -/
theorem of_ok (h : a.Ends reports) (hr : reports.filterMap Report.result? = [.ok bytes]) :
    a.before.link = .connected ∧ a.built = .ok bytes ∧
      a.answered.requests = a.waiting.requests ++ [bytes] ∧
      reports.filterMap Report.event? = [] := by
  cases h with
  | refused why same => cases hr
  | turnedAway built same => cases hr
  | accepted up built queued =>
    cases hr
    exact ⟨up, built, queued, rfl⟩
  | gaveUp built tries full same => cases hr
  | waits built waits full same => cases hr

/-- An error that is returned has been told once, unless it is that of a queue without room. -/
theorem of_error (h : a.Ends reports) (hr : reports.filterMap Report.result? = [.error e]) :
    a.answered.requests = a.waiting.requests ∧
      (e ≠ .queueFull ∨ a.built = .error .queueFull →
        reports.filterMap Report.event? = [Event.ofError e]) ∧
      (e = .queueFull ∧ a.built ≠ .error .queueFull →
        a.patience = .tries ∧ a.hasRoom = false ∧ reports.filterMap Report.event? = []) := by
  cases h with
  | refused why same =>
    cases hr
    refine ⟨congrArg Session.requests same, fun _ => rfl, ?_⟩
    rintro ⟨rfl, hb⟩
    rcases refusal?_eq_some_iff.mp why with ⟨_, hq⟩ | ⟨_, hq⟩
    · cases hq
    · exact absurd hq hb
  | turnedAway built same =>
    cases hr
    exact ⟨same, fun _ => rfl, fun hq => nomatch hq.1⟩
  | accepted up built queued => cases hr
  | gaveUp built tries full same =>
    cases hr
    refine ⟨same, ?_, fun _ => ⟨tries, full, rfl⟩⟩
    rintro (hq | hb)
    · exact absurd rfl hq
    · rw [built] at hb
      cases hb
  | waits built waits full same => cases hr

/-- A call that has not been answered waits for room, and nothing has happened. -/
theorem of_nil (h : a.Ends reports) (hr : reports.filterMap Report.result? = []) :
    a.patience = .waits ∧ a.hasRoom = false ∧ a.answered = a.waiting ∧
      reports.filterMap Report.event? = [] := by
  cases h with
  | refused why same => cases hr
  | turnedAway built same => cases hr
  | accepted up built queued => cases hr
  | gaveUp built tries full same => cases hr
  | waits built waits full same => exact ⟨waits, full, same, rfl⟩

end Ends

/-- Whatever is wrong with the submission, that the link is down is found first. -/
theorem results_of_down (h : a.before.link ≠ .connected) :
    a.results = [.error (.notConnected a.submission.id)] := by
  have hr : a.before.refusal? a.submission = some (.notConnected a.submission.id) :=
    refusal?_eq_some_iff.mpr (.inl ⟨h, rfl⟩)
  rw [results, (of_refusal hr).2]
  rfl

end Attempt

/-! ### Along a run -/

namespace Session

variable {s : Session}

/-- The frames that a move puts behind those that are queued. -/
def queues (s : Session) (m : Move) : List (List UInt8) :=
  (s.move m).requests.drop s.requests.length

/-- The frames that are queued in the course of a run. -/
def queued (s : Session) : List Move → List (List UInt8)
  | [] => []
  | m :: moves => s.queues m ++ (s.move m).queued moves

/-- A move queues what it accepts, and takes from the front of the queue if anything. -/
theorem queues_cases (s : Session) (m : Move) :
    (s.move m).accepted.map Prod.snd = s.accepted.map Prod.snd ++ s.queues m ∧
      ∃ taken, taken ++ (s.move m).requests = s.requests ++ s.queues m := by
  have hsame {s' : Session} (ha : s'.accepted = s.accepted) (hr : s'.requests = s.requests) :
      s'.accepted.map Prod.snd
          = s.accepted.map Prod.snd ++ s'.requests.drop s.requests.length ∧
        ∃ taken, taken ++ s'.requests = s.requests ++ s'.requests.drop s.requests.length := by
    rw [ha, hr, List.drop_length, List.append_nil, List.append_nil]
    exact ⟨rfl, [], rfl⟩
  have h := s.outgoing m
  unfold queues
  generalize s.move m = s' at h
  cases h with
  | aside rest idle => exact hsame rest.accepted rest.requests
  | sender step =>
    cases step with
    | @take bytes requests idle queued =>
      have hnone : requests.drop s.requests.length = [] := by
        rw [queued]
        exact List.drop_of_length_le (Nat.le_succ _)
      dsimp only
      rw [hnone, List.append_nil, List.append_nil, queued]
      exact ⟨rfl, [bytes], rfl⟩
    | stop => exact hsame rfl rfl
    | look => exact hsame rfl rfl
    | refuse => exact hsame rfl rfl
    | write => exact hsame rfl rfl
    | fail => exact hsame rfl rfl
    | notify => exact hsame rfl rfl
    | giveUp => exact hsame rfl rfl
  | stopping own rest was now idle => exact hsame rest.accepted rest.requests
  | refuse opened free refused =>
    exact hsame (accepted_of_answers_error (answers_reject _ _ _)) rfl
  | begin opened free up built => exact hsame rfl rfl
  | turnAway busy ended => exact hsame (accepted_of_answers_error (answers_reject _ _ _)) rfl
  | @accept caller patience id bytes busy running room =>
    have hq : (s.accept caller bytes).requests = s.requests ++ [bytes] := rfl
    rw [accepted_of_answers_ok (answers_accept _ _ _), hq, List.drop_left, List.map_append]
    exact ⟨rfl, [], rfl⟩
  | full busy running full =>
    exact hsame (accepted_of_answers_error (answers_report _ _)) rfl

/-- The frames that are queued in the course of a run are those of the calls that are answered with
them, in the order of the answers; and nothing else happens to the queue but that frames are taken
from its front. -/
theorem queued_cases (s : Session) (moves : List Move) :
    (s.run moves).accepted.map Prod.snd = s.accepted.map Prod.snd ++ s.queued moves ∧
      ∃ taken, taken ++ (s.run moves).requests = s.requests ++ s.queued moves := by
  induction moves generalizing s with
  | nil =>
    rw [run_nil, queued, List.append_nil, List.append_nil]
    exact ⟨rfl, [], rfl⟩
  | cons m moves ih =>
    obtain ⟨ha, first, hf⟩ := s.queues_cases m
    obtain ⟨has, later, hl⟩ := ih (s.move m)
    rw [run_cons, queued, ← List.append_assoc, ← List.append_assoc, ← ha, ← hf]
    refine ⟨has, first ++ later, ?_⟩
    rw [List.append_assoc, hl, List.append_assoc]

end Session

/-- No request fails to be built as if it had not been queued. -/
theorem Submission.build_ofRequest_ne_queueFull (r : Request) (version : Version) :
    (ofRequest r).build version ≠ .error .queueFull := by
  simp only [ofRequest, Request.frame]
  cases r.firstUnmet version with
  | some unmet => exact nofun
  | none => cases Frame.ofFields (r.fields version) <;> exact nofun

/-- A call that returns a frame has queued it behind what was queued, and nothing else; the link was
connected and nobody was told anything. A call that returns an error has queued nothing, and the
observer has been told of the error once; only of a queue that has no room, which only those meet
who do not wait, nobody is told. That the link is not connected comes before whatever else is wrong.
So what is queued along a run are the frames of the calls that return them, in that order. -/
theorem submissions_are_atomic (a : Attempt) :
    a.checked.requests = a.before.requests ∧ a.results.length ≤ 1 ∧
    (∀ bytes, a.results = [.ok bytes] →
      a.before.link = .connected ∧ a.built = .ok bytes ∧
      a.answered.requests = a.waiting.requests ++ [bytes] ∧ a.events = []) ∧
    (∀ e, a.results = [.error e] → a.answered.requests = a.waiting.requests ∧
      (e ≠ .queueFull ∨ a.built = .error .queueFull → a.events = [Event.ofError e]) ∧
      (e = .queueFull ∧ a.built ≠ .error .queueFull →
        a.patience = .tries ∧ a.hasRoom = false ∧ a.events = [])) ∧
    (a.results = [] →
      a.patience = .waits ∧ a.hasRoom = false ∧ a.answered = a.waiting ∧ a.events = []) ∧
    (a.before.link ≠ .connected → a.results = [.error (.notConnected a.submission.id)]) ∧
    (∀ id fault detail,
      Event.ofError (.client id fault detail) = .error id fault.code (fault.text detail)) ∧
    (∀ e, e.code? = none → Event.ofError e = .error (-1) 508 e.message) ∧
    (∀ id, Event.ofError (.notConnected id) = .error id 504 "Not connected") ∧
    (∀ r version, (Submission.ofRequest r).build version ≠ .error .queueFull) ∧
    ∀ (s : Session) (moves : List Move),
      (s.run moves).accepted.map Prod.snd = s.accepted.map Prod.snd ++ s.queued moves ∧
        ∃ taken, taken ++ (s.run moves).requests = s.requests ++ s.queued moves := by
  refine ⟨a.requests_checked, a.ends.length_results_le, fun _ => a.ends.of_ok,
    fun _ => a.ends.of_error, a.ends.of_nil, Attempt.results_of_down, fun _ _ _ => rfl,
    fun _ => Event.ofError_of_code?_eq_none, fun _ => rfl, Submission.build_ofRequest_ne_queueFull,
    queued_cases⟩

/-- The link is connected, and a request waits in a queue that has no room for another. -/
def crowded : Session where
  config := { outboundCapacity := 1 }
  server := { version := 157, connectionTime := "" }
  inbound := {}
  outbound := {}
  link := .connected
  requests := [[1]]
  opening := .done

/-- A caller who does not wait, with others before the queue is tried. -/
def hurried (others : List Move) (apart : ∀ m ∈ others, m.caller? ≠ some 0) : Attempt where
  before := crowded
  caller := 0
  patience := .tries
  submission := .raw [2]
  others := others
  opened := rfl
  free := rfl
  apart := apart

/-- Who does not wait is turned away from a full queue, which is left as it is, and nobody is
told. -/
theorem submissions_are_atomic_crowded :
    (hurried [] nofun).results = [.error .queueFull] ∧
      (hurried [] nofun).answered.requests = [[1]] ∧ (hurried [] nofun).hasRoom = false ∧
      (hurried [] nofun).events = [] := by
  obtain ⟨-, -, -, herror, -⟩ := submissions_are_atomic (hurried [] nofun)
  have hresult : (hurried [] nofun).results = [.error .queueFull] := by rfl
  have hbuilt : (hurried [] nofun).built ≠ .error .queueFull := nofun
  have hwaiting : (hurried [] nofun).waiting.requests = [[1]] := by rfl
  obtain ⟨hsame, -, hfull⟩ := herror .queueFull hresult
  obtain ⟨-, hroom, hevents⟩ := hfull ⟨rfl, hbuilt⟩
  exact ⟨hresult, hsame.trans hwaiting, hroom, hevents⟩

/-- If the sender goes first, there is room. -/
example : (hurried [.sender] (by decide)).reports = [.accepted 0 [2]] := by rfl

end BrokerLink

import BrokerLink.Proofs.Reassembly
import BrokerLink.Proofs.Unattended

/-!
# What is still to be told

What a session that is left alone has told and has still to tell, of what is queued,
held, received and on its way, stays the same with every move (`WillTell`): a move tells
the next part of it, or brings it nearer. When the peer has closed and the session is at
rest, all of it has been told.
-/

namespace BrokerLink
namespace Session

variable {s s' : Session}

/-- The payloads that are still to be decoded: those in the queue, the one that the receiver holds,
and those of the stream in front of it. -/
inductive Ahead (frames : List (List UInt8)) (stream : List UInt8) :
    Receiving → List (List UInt8) → Prop
  | reading {payloads : List (List UInt8)} {ending : LinkError}
      (divided : Divided stream payloads ending) : Ahead frames stream .reading (frames ++ payloads)
  | holding {payload : List UInt8} {payloads : List (List UInt8)} {ending : LinkError}
      (divided : Divided stream payloads ending) :
      Ahead frames stream (.holding payload) (frames ++ payload :: payloads)
  | ended : Ahead frames stream .ended frames

theorem Ahead.exists_of_cons {payload : List UInt8} {frames payloads : List (List UInt8)}
    {stream : List UInt8} {r : Receiving} (h : Ahead (payload :: frames) stream r payloads) :
    ∃ rest, payloads = payload :: rest ∧ Ahead frames stream r rest := by
  cases h with
  | reading divided => exact ⟨_, rfl, .reading divided⟩
  | holding divided => exact ⟨_, rfl, .holding divided⟩
  | ended => exact ⟨_, rfl, .ended⟩

/-- The chores that are left when these payloads are still to be decoded. -/
def choresLeft (version : Version) (payloads : List (List UInt8)) : Telling → List Chore
  | .working warmUp chores =>
    chores ++ (warmUp.chores (Record.eventsIn version payloads)).1 ++ [.tell .connectionClosed]
  | .closing => [.tell .connectionClosed]
  | .ended => []

/-- The events that a session has told and will tell, when `more` is still to be sent. -/
def WillTell (s : Session) (more : List UInt8) (es : List Event) : Prop :=
  ∃ payloads, Ahead s.frames (s.inbound.stream ++ more) s.receiving payloads ∧
    s.told ++ (choresLeft s.server.version payloads s.telling).filterMap Chore.event? = es

theorem told_report (s : Session) (r : Report) :
    (s.report r).told = s.told ++ [r].filterMap Report.event? :=
  List.filterMap_append

theorem told_perform (s : Session) (chore : Chore) :
    (s.perform chore).told = s.told ++ [chore].filterMap Chore.event? := by
  cases chore with
  | tell e => exact told_report s (.told e)
  | raise id => exact (List.append_nil _).symm
  | connect => exact (List.append_nil _).symm
  | signal => exact (List.append_nil _).symm

namespace WillTell

variable {more : List UInt8} {es : List Event} {m : Move}

theorem isPrefix (h : s.WillTell more es) : s.told <+: es := by
  obtain ⟨payloads, -, rfl⟩ := h
  exact List.prefix_append _ _

theorem told_eq (h : s.WillTell more es) (ht : s.telling = .ended) : s.told = es := by
  obtain ⟨payloads, -, rfl⟩ := h
  rw [ht]
  exact (List.append_nil _).symm

/-- The receiver brings nearer what is still to be decoded. -/
theorem of_receives (h : s.WillTell more es) (hc : s.inbound.isClosed = true → more = [])
    (hr : s.Receives s') : s'.WillTell more es := by
  obtain ⟨payloads, ha, ht⟩ := h
  cases hr with
  | @queue payload held =>
    refine ⟨payloads, ?_, ht⟩
    rw [held] at ha
    cases ha with
    | holding divided =>
      have hd := @Ahead.reading (s.frames ++ [payload]) _ _ _ divided
      rwa [List.append_assoc] at hd
  | @take payload rest reading front =>
    refine ⟨payloads, ?_, ht⟩
    rw [reading] at ha
    cases ha with
    | reading divided =>
      have hf := Inbound.of_stream_append (by rw [front]; rfl) more
      rw [front] at hf
      obtain ⟨payloads, rfl, hd⟩ := divided.front_frame hf
      rw [← List.append_assoc] at hd
      exact .holding hd
  | @refuse length reading front =>
    refine ⟨payloads, ?_, ht⟩
    rw [reading] at ha
    cases ha with
    | reading divided =>
      have hf := Inbound.of_stream_append (by rw [front]; rfl) more
      rw [front] at hf
      obtain ⟨rfl, -⟩ := divided.front_refused hf
      rw [List.append_nil]
      exact .ended
  | @receive portion portions reading next =>
    refine ⟨payloads, ?_, ht⟩
    have hs : s.inbound.stream = s.inbound.buffer ++ portion ++ portions.flatten := by
      rw [Inbound.stream, next, List.flatten_cons, List.append_assoc]
    rwa [hs] at ha
  | finish reading front last closed =>
    refine ⟨payloads, ?_, ht⟩
    rw [reading] at ha
    cases ha with
    | reading divided =>
      have hf : Front.of (s.inbound.stream ++ more) = .incomplete := by
        rw [Inbound.stream, last, hc closed, List.flatten_nil, List.append_nil, List.append_nil]
        exact front
      obtain ⟨rfl, -⟩ := divided.front_incomplete hf
      rw [List.append_nil]
      exact .ended

/-- The teller tells the next part of what is still to be told. -/
theorem of_tells (h : s.WillTell more es) (hr : s.Tells s') : s'.WillTell more es := by
  obtain ⟨payloads, ha, rfl⟩ := h
  cases hr with
  | @perform warmUp chore chores busy =>
    refine ⟨payloads, ?_, ?_⟩
    · cases chore <;> exact ha
    · have hl : choresLeft s.server.version payloads s.telling
          = [chore] ++ choresLeft s.server.version payloads (.working warmUp chores) := by
        rw [busy]
        rfl
      rw [hl, List.filterMap_append, ← List.append_assoc, ← told_perform]
      cases chore <;> rfl
  | @take warmUp payload frames idle queued =>
    rw [queued] at ha
    obtain ⟨payloads, rfl, ha'⟩ := ha.exists_of_cons
    refine ⟨payloads, ha', ?_⟩
    have he : Record.eventsIn s.server.version (payload :: payloads)
        = Record.eventsIn s.server.version [payload]
          ++ Record.eventsIn s.server.version payloads :=
      @List.flatMap_append _ _ [payload] payloads _
    simp only [tellingOfFrame_eq, idle, choresLeft, he, WarmUp.chores_append, List.nil_append]
    rfl
  | close idle last ended =>
    have hp : payloads = [] := by
      rw [last, ended] at ha
      cases ha
      rfl
    subst hp
    refine ⟨[], ha, ?_⟩
    rw [idle]
    rfl
  | finish closing =>
    refine ⟨payloads, ha, ?_⟩
    have ht := told_report s (.told .connectionClosed)
    rw [closing]
    exact (List.append_nil _).trans ht

/-- What is reported besides the events is no matter. -/
theorem of_report {r : Report} (h : s.WillTell more es) (hr : r.event? = none) :
    (s.report r).WillTell more es := by
  obtain ⟨payloads, ha, ht⟩ := h
  have hn : [r].filterMap Report.event? = [] := by simp [hr]
  refine ⟨payloads, ha, ?_⟩
  rw [told_report, hn, List.append_nil]
  exact ht

theorem of_opens (h : s.WillTell more es) (hr : s.Opens s') : s'.WillTell more es := by
  cases hr with
  | succeed => exact h.of_report rfl
  | fail => exact h
  | mark => exact h
  | stop => exact h
  | giveUp stopping => exact h.of_report rfl

/-- What is sent is brought nearer, and what is told next was to be told. -/
theorem of_goes {bytes : List UInt8} (h : s.WillTell (bytes ++ more) es)
    (hc : s.inbound.isClosed = true → more = []) (hg : s.Goes bytes s') : s'.WillTell more es := by
  cases hg with
  | stay => exact h
  | receiver step => exact h.of_receives hc step
  | teller step => exact h.of_tells step
  | sender => exact h
  | opener step => exact h.of_opens step
  | draw caller => exact h.of_report rfl
  | peerSends bytes =>
    obtain ⟨payloads, ha, ht⟩ := h
    refine ⟨payloads, ?_, ht⟩
    have hs : (s.inbound.send bytes).stream = s.inbound.stream ++ bytes := by
      simp [Inbound.stream, Inbound.send, List.append_assoc]
    dsimp only
    rwa [hs, List.append_assoc]
  | peerCloses => exact h

/-- In the course of a run all that is heard comes to be told. -/
theorem of_run {moves : List Move} (h : s.WillTell (s.heard moves ++ more) es) (hq : s.Quiet)
    (hm : ∀ m ∈ moves, m.isQuiet = true)
    (hc : (s.run moves).inbound.isClosed = true → more = []) : (s.run moves).WillTell more es := by
  induction moves generalizing s with
  | nil => exact h
  | cons m moves ih =>
    obtain ⟨hm, hms⟩ := List.forall_mem_cons.mp hm
    have hg := hq.goes hm
    have hq' := hq.of_goes hg
    rw [heard, List.append_assoc] at h
    refine ih (h.of_goes (fun hcl => ?_) hg) hq' hms hc
    have hcl' := hg.isClosed hcl
    rw [hq'.heard_of_isClosed hms hcl', hc (hq'.isClosed_run hms hcl'), List.append_nil]

end WillTell

/-! ### At rest -/

theorem hasRoom_nil {α : Type} (capacity : UInt64) : hasRoom capacity ([] : List α) = true := by
  rw [hasRoom, decide_eq_true_eq, List.length_nil]
  omega

/-- Once the peer has closed, a receiver that can queue its frame has a step to take until it
ends. -/
theorem Quiet.receiving_eq_ended (hq : s.Quiet) (hc : s.inbound.isClosed = true)
    (hf : s.frames = []) (ht : s.telling ≠ .ended) (h : s.receiver? = none) :
    s.receiving = .ended := by
  unfold receiver? at h
  cases hr : s.receiving with
  | ended => rfl
  | holding payload =>
    rw [hr, hf] at h
    simp only [hasRoom_nil, if_true] at h
    split at h <;> cases h
  | reading =>
    rw [hr] at h
    simp only [hq.isStopping_eq_false ht, Bool.false_eq_true, if_false, hc, if_true] at h
    split at h
    · cases h
    · cases h
    · split at h <;> cases h

/-- Once the peer has closed, a session left alone comes to rest only when all is told. -/
theorem Quiet.telling_eq_ended (hq : s.Quiet) (hc : s.inbound.isClosed = true)
    (h : s.advance? = none) : s.telling = .ended := by
  have hn : ∀ task ∈ tasks, task s = none := List.findSome?_eq_none_iff.mp h
  have hr : s.receiver? = none := hn _ (by simp [tasks])
  have ht : s.teller? = none := hn _ (by simp [tasks])
  unfold teller? at ht
  cases hw : s.telling with
  | ended => rfl
  | closing =>
    rw [hw] at ht
    cases ht
  | working warmUp chores =>
    have hne := Telling.ne_ended_of_working hw
    rw [hw] at ht
    cases chores with
    | cons chore chores => cases ht
    | nil =>
      simp only [hq.isStopping_eq_false hne, Bool.false_eq_true, if_false, hq.notices] at ht
      cases hf : s.frames with
      | cons payload frames =>
        rw [hf] at ht
        cases ht
      | nil =>
        rw [hf, hq.receiving_eq_ended hc hf hne hr] at ht
        cases ht

theorem isQuiet_of_isTask {m : Move} (h : m.isTask = true) : m.isQuiet = true := by
  unfold Move.isTask at h
  split at h
  · rfl
  · rfl
  · rfl
  · rfl
  · cases h

theorem hears_of_isTask {m : Move} (h : m.isTask = true) (s : Session) : s.hears m = [] := by
  unfold hears
  split
  · cases h
  · rfl

theorem heard_of_isTask {moves : List Move} (h : ∀ m ∈ moves, m.isTask = true) (s : Session) :
    s.heard moves = [] := by
  induction moves generalizing s with
  | nil => rfl
  | cons m moves ih =>
    obtain ⟨hm, hms⟩ := List.forall_mem_cons.mp h
    rw [heard, hears_of_isTask hm, ih hms, List.append_nil]

theorem WillTell.told_settle {es : List Event} (h : s.WillTell [] es) (hq : s.Quiet)
    (hc : s.inbound.isClosed = true) : s.settle.told = es := by
  obtain ⟨moves, hts, hr⟩ := s.exists_run_settle
  have hm : ∀ m ∈ moves, m.isQuiet = true := fun m hm => isQuiet_of_isTask (hts m hm)
  have hrest := s.advance?_settle
  rw [hr] at hrest ⊢
  have hw : (s.run moves).WillTell [] es := by
    refine WillTell.of_run ?_ hq hm fun _ => rfl
    rwa [heard_of_isTask hts]
  exact hw.told_eq ((hq.run hm).telling_eq_ended (hq.isClosed_run hm hc) hrest)

end Session
end BrokerLink

import BrokerLink.Proofs.Steps
import BrokerLink.Proofs.WarmUp
import BrokerLink.Session.Rest

/-!
# Sessions left alone

While nobody submits or disconnects and the time of the warm-up does not run out, a
session only listens. Few of the steps of its tasks are possible then: there is nothing
to send and no notice to tell, and nobody stops the tasks before all is told (`Quiet`).
-/

namespace BrokerLink

/-- Neither a submission nor a call to disconnect, nor the end of the time for the warm-up. -/
def Move.isQuiet : Move → Bool
  | .timeOut => false
  | .submit .. => false
  | .disconnect _ => false
  | _ => true

namespace Session

variable {s s' : Session}

/-! ### What is heard -/

/-- What the peer sends with a move. -/
def hears (s : Session) : Move → List UInt8
  | .peerSends bytes => if s.inbound.isClosed then [] else bytes
  | _ => []

/-- What the peer sends in the course of a run, until it closes. -/
def heard (s : Session) : List Move → List UInt8
  | [] => []
  | m :: moves => s.hears m ++ (s.move m).heard moves

theorem heard_append (s : Session) (first second : List Move) :
    s.heard (first ++ second) = s.heard first ++ (s.run first).heard second := by
  induction first generalizing s with
  | nil => rfl
  | cons m first ih =>
    simp only [List.cons_append, heard, ih, run_cons, List.append_assoc]

theorem hears_of_isClosed (h : s.inbound.isClosed = true) (m : Move) : s.hears m = [] := by
  unfold hears
  split
  · rw [if_pos h]
  · rfl

/-! ### The steps of a session left alone -/

/-- Nobody has called, and the opening call disconnects only when all is told. -/
structure Quiet (s : Session) : Prop where
  notices : s.notices = []
  requests : s.requests = []
  sending : s.sending = .idle ∨ s.sending = .ended
  calls : ∀ caller, s.calls caller = none
  stopping : s.isStopping = true → s.telling = .ended
  opening : ∀ phase e, s.opening = .stopping phase e → s.telling = .ended
  finished : s.telling = .closing ∨ s.telling = .ended → s.receiving = .ended ∧ s.frames = []

/-- The moves of a session left alone, and what the peer sends with each. -/
inductive Goes (s : Session) : List UInt8 → Session → Prop
  | stay : Goes s [] s
  | receiver {s' : Session} (step : s.Receives s') : Goes s [] s'
  | teller {s' : Session} (step : s.Tells s') : Goes s [] s'
  | sender : Goes s [] s.endSending
  | opener {s' : Session} (step : s.Opens s') : Goes s [] s'
  | draw (caller : Nat) :
      Goes s [] { s.report (.drew caller s.nextId) with nextId := s.nextId + 1 }
  | peerSends (bytes : List UInt8) : Goes s bytes { s with inbound := s.inbound.send bytes }
  | peerCloses : Goes s [] { s with inbound := s.inbound.close }

namespace Quiet

/-- As long as the receiver has not ended there is more to tell. -/
theorem not_finished (hq : s.Quiet) (hr : s.receiving ≠ .ended) :
    ¬(s.telling = .closing ∨ s.telling = .ended) := fun ht => hr (hq.finished ht).1

theorem isStopping_eq_false (hq : s.Quiet) (ht : s.telling ≠ .ended) : s.isStopping = false :=
  Bool.eq_false_iff.mpr fun hs => ht (hq.stopping hs)

theorem receives (hq : s.Quiet) (h : s.receiver? = some s') : s.Receives s' := by
  cases listens_of_receiver? h with
  | receives step => exact step
  | stop running why =>
    have ht := hq.not_finished running
    rcases why with hs | he
    · exact absurd (.inr (hq.stopping hs)) ht
    · exact absurd (.inr he) ht

theorem tells (hq : s.Quiet) (h : s.teller? = some s') : s.Tells s' := by
  cases speaks_of_teller? h with
  | tells step => exact step
  | complain idle queued =>
    rw [hq.notices] at queued
    cases queued
  | stop idle stopping => exact absurd (hq.stopping stopping) (Telling.ne_ended_of_working idle)

theorem eq_of_sender (hq : s.Quiet) (h : s.sender? = some s') : s' = s.endSending := by
  unfold sender? at h
  obtain hs | hs := hq.sending
  · rw [hs] at h
    dsimp only at h
    split at h
    · cases h
      rfl
    · rw [hq.requests] at h
      cases h
  · rw [hs] at h
    cases h

theorem goes (hq : s.Quiet) {m : Move} (hm : m.isQuiet = true) :
    s.Goes (s.hears m) (s.move m) := by
  unfold Session.move
  cases m with
  | receiver =>
    cases h : s.move? .receiver with
    | none => exact .stay
    | some s' => exact .receiver (hq.receives h)
  | teller =>
    cases h : s.move? .teller with
    | none => exact .stay
    | some s' => exact .teller (hq.tells h)
  | sender =>
    cases h : s.move? .sender with
    | none => exact .stay
    | some s' =>
      rw [hq.eq_of_sender h]
      exact .sender
  | opener =>
    cases h : s.move? .opener with
    | none => exact .stay
    | some s' => exact .opener (opens_of_opener? h)
  | timeOut => cases hm
  | submit => cases hm
  | draw caller =>
    simp only [move?, draw?]
    split
    · exact .draw caller
    · exact .stay
  | disconnect => cases hm
  | proceed caller =>
    simp only [move?, proceed?, hq.calls]
    exact .stay
  | peerSends bytes =>
    simp only [move?, hears]
    split
    · exact .stay
    · exact .peerSends bytes
  | peerCloses => exact .peerCloses

theorem of_receives (hq : s.Quiet) (h : s.Receives s') : s'.Quiet := by
  have ht := hq.not_finished h.receiving_ne_ended
  cases h <;> exact { hq with finished := fun ho => absurd ho ht }

theorem of_tells (hq : s.Quiet) (h : s.Tells s') : s'.Quiet := by
  have ht := h.telling_ne_ended
  have hs : s.isStopping = true → False := fun hs => ht (hq.stopping hs)
  have ho : ∀ phase e, s.opening = .stopping phase e → False :=
    fun phase e ho => ht (hq.opening phase e ho)
  cases h with
  | @perform warmUp chore chores busy =>
    have hn : Telling.working warmUp chores = .closing ∨ Telling.working warmUp chores = .ended →
        False := by
      rintro (h | h) <;> cases h
    cases chore <;>
      exact { hq with
        stopping := fun h => (hs h).elim
        opening := fun phase e h => (ho phase e h).elim
        finished := fun h => (hn h).elim }
  | @take warmUp payload frames idle queued =>
    refine { hq with
      stopping := fun h => (hs h).elim
      opening := fun phase e h => (ho phase e h).elim
      finished := fun h => ?_ }
    dsimp only at h
    rw [tellingOfFrame_eq] at h
    obtain h | h := h <;> cases h
  | close idle last ended =>
    exact { hq with
      stopping := fun h => (hs h).elim
      opening := fun phase e h => (ho phase e h).elim
      finished := fun _ => ⟨ended, last⟩ }
  | finish closing =>
    exact { hq with
      stopping := fun _ => rfl
      opening := fun _ _ _ => rfl
      finished := fun _ => hq.finished (.inl closing) }

theorem of_opens (hq : s.Quiet) (h : s.Opens s') : s'.Quiet := by
  cases h with
  | succeed => exact { hq with opening := fun _ _ h => by cases h }
  | fail waiting ended => exact { hq with opening := fun _ _ _ => ended }
  | mark stopping => exact { hq with opening := fun _ _ _ => hq.opening _ _ stopping }
  | stop stopping =>
    have ht := hq.opening _ _ stopping
    exact { hq with stopping := fun _ => ht, opening := fun _ _ _ => ht }
  | giveUp stopping => exact { hq with opening := fun _ _ h => by cases h }

theorem of_goes {bytes : List UInt8} (hq : s.Quiet) (h : s.Goes bytes s') : s'.Quiet := by
  cases h with
  | stay => exact hq
  | receiver step => exact hq.of_receives step
  | teller step => exact hq.of_tells step
  | sender => exact { hq with sending := .inr rfl }
  | opener step => exact hq.of_opens step
  | draw caller => exact { hq with }
  | peerSends bytes => exact { hq with }
  | peerCloses => exact { hq with }

/-- What every move of a session left alone keeps holds after every run. -/
theorem run_induction {P : Session → Prop}
    (step : ∀ s bytes s', Quiet s → Goes s bytes s' → P s → P s') (hq : s.Quiet)
    {moves : List Move} (hm : ∀ m ∈ moves, m.isQuiet = true) (hs : P s) :
    (s.run moves).Quiet ∧ P (s.run moves) := by
  induction moves generalizing s with
  | nil => exact ⟨hq, hs⟩
  | cons m moves ih =>
    obtain ⟨hm, hms⟩ := List.forall_mem_cons.mp hm
    have hg := hq.goes hm
    exact ih (hq.of_goes hg) hms (step _ _ _ hq hg hs)

theorem run (hq : s.Quiet) {moves : List Move} (hm : ∀ m ∈ moves, m.isQuiet = true) :
    (s.run moves).Quiet :=
  (hq.run_induction (fun _ _ _ _ _ _ => trivial) hm trivial).1

end Quiet

/-- A peer that has closed never opens again. -/
theorem Goes.isClosed {bytes : List UInt8} (h : s.Goes bytes s')
    (hc : s.inbound.isClosed = true) : s'.inbound.isClosed = true := by
  cases h with
  | stay => exact hc
  | receiver step => cases step <;> exact hc
  | teller step =>
    cases step with
    | @perform _ chore => cases chore <;> exact hc
    | take => exact hc
    | close => exact hc
    | finish => exact hc
  | sender => exact hc
  | opener step => cases step <;> exact hc
  | draw caller => exact hc
  | peerSends bytes => exact hc
  | peerCloses => rfl

theorem Goes.server_eq {bytes : List UInt8} (h : s.Goes bytes s') : s'.server = s.server := by
  cases h with
  | stay => rfl
  | receiver step => cases step <;> rfl
  | teller step =>
    cases step with
    | @perform _ chore => cases chore <;> rfl
    | take => rfl
    | close => rfl
    | finish => rfl
  | sender => rfl
  | opener step => cases step <;> rfl
  | draw caller => rfl
  | peerSends bytes => rfl
  | peerCloses => rfl

theorem Quiet.server_run (hq : s.Quiet) {moves : List Move} (hm : ∀ m ∈ moves, m.isQuiet = true) :
    (s.run moves).server = s.server :=
  (hq.run_induction (fun _ _ _ _ hg hs => hg.server_eq.trans hs) hm rfl).2

theorem Quiet.isClosed_run (hq : s.Quiet) {moves : List Move}
    (hm : ∀ m ∈ moves, m.isQuiet = true) (hc : s.inbound.isClosed = true) :
    (s.run moves).inbound.isClosed = true :=
  (hq.run_induction (fun _ _ _ _ hg hc => hg.isClosed hc) hm hc).2

theorem Quiet.heard_of_isClosed (hq : s.Quiet) {moves : List Move}
    (hm : ∀ m ∈ moves, m.isQuiet = true) (hc : s.inbound.isClosed = true) :
    s.heard moves = [] := by
  induction moves generalizing s with
  | nil => rfl
  | cons m moves ih =>
    obtain ⟨hm, hms⟩ := List.forall_mem_cons.mp hm
    have hg := hq.goes hm
    rw [heard, hears_of_isClosed hc, ih (hq.of_goes hg) hms (hg.isClosed hc), List.append_nil]

end Session
end BrokerLink

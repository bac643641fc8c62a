import BrokerLink.Proofs.Starting
import BrokerLink.Proofs.Steps

/-!
# Who disconnects

The opening call disconnects when it fails, and then it is the first to do so; callers disconnect
when it has succeeded. Whoever does so has taken the tasks, or found them taken.
-/

namespace BrokerLink

/-- Whether the call has taken the tasks, and will stop them. -/
def Stopping.isFirst : Stopping → Bool
  | begun first => first
  | marked first => first
  | awaiting => true

namespace Session

variable {s s' : Session} {config : ClientConfig} {c c' : Connection}

theorem stopping?_setCall (s : Session) (caller : Nat) (call : Option Call) (other : Nat) :
    (s.setCall caller call).stopping? other
      = if other = caller then call.bind Call.phase? else s.stopping? other := by
  by_cases ho : other = caller
  · rw [if_pos ho, stopping?, ho, calls_setCall]
  · rw [if_neg ho, stopping?, calls_setCall_of_ne s call ho]
    rfl

/-- A caller that has just been given something else to do is not the one that is disconnecting. -/
theorem stopping?_of_setCall {caller other : Nat} {call : Option Call} {phase : Stopping}
    (hc : call.bind Call.phase? = none)
    (h : (s.setCall caller call).stopping? other = some phase) :
    s.stopping? other = some phase := by
  rw [stopping?_setCall] at h
  split at h
  · rw [hc] at h
    cases h
  · exact h

/-- What holds of all that disconnect. -/
structure Disconnects (s : Session) : Prop where
  waiting : s.opening = .waiting → s.isTaken = false
  opener : ∀ phase e, s.opening = .stopping phase e → phase.isFirst = true ∧ s.isTaken = true
  caller : ∀ caller phase, s.stopping? caller = some phase →
    s.opening.isDone = true ∧ s.isTaken = true

namespace Disconnects

/-- Only calls to disconnect, and the opening call, can make a difference. -/
theorem same (hd : s.Disconnects) (ho : s'.opening = s.opening) (ht : s'.isTaken = s.isTaken)
    (hc : ∀ caller phase, s'.stopping? caller = some phase → s.stopping? caller = some phase) :
    s'.Disconnects where
  waiting h := by
    rw [ho] at h
    rw [ht, hd.waiting h]
  opener phase e h := by
    rw [ho] at h
    rw [ht]
    exact hd.opener phase e h
  caller caller phase h := by
    rw [ho, ht]
    exact hd.caller caller phase (hc caller phase h)

/-- Nobody else disconnects before the session is opened. -/
theorem not_stopping (hd : s.Disconnects) (hn : s.opening.isDone = false) (caller : Nat) :
    s.stopping? caller = none := by
  cases hp : s.stopping? caller with
  | none => rfl
  | some phase =>
    rw [(hd.caller caller phase hp).1] at hn
    cases hn

/-- The opening call goes on, and no caller has been let in. -/
theorem unopened (hd : s.Disconnects) (hn : s.opening.isDone = false) (hc : s'.calls = s.calls)
    (hw : s'.opening ≠ .waiting)
    (ho : ∀ phase e, s'.opening = .stopping phase e → phase.isFirst = true ∧ s'.isTaken = true) :
    s'.Disconnects where
  waiting h := absurd h hw
  opener := ho
  caller caller phase h := by
    have hnone := hd.not_stopping hn caller
    rw [stopping?, hc] at h
    rw [stopping?, h] at hnone
    cases hnone

theorem failOpening (hd : s.Disconnects) (waiting : s.opening = .waiting) (e : LinkError) :
    (s.failOpening e).Disconnects := by
  refine hd.unopened (by rw [waiting]; rfl) rfl nofun ?_
  intro phase e' h
  cases h
  exact ⟨congrArg (!·) (hd.waiting waiting), rfl⟩

theorem of_opens (hd : s.Disconnects) (h : s.Opens s') : s'.Disconnects := by
  cases h with
  | succeed waiting ready => exact hd.unopened (by rw [waiting]; rfl) rfl nofun nofun
  | fail waiting ended => exact hd.failOpening waiting closedEarly
  | mark stopping =>
    refine hd.unopened (by rw [stopping]; rfl) rfl nofun ?_
    intro phase e h
    cases h
    exact hd.opener (.begun _) _ stopping
  | stop stopping =>
    refine hd.unopened (by rw [stopping]; rfl) rfl nofun ?_
    intro phase e h
    cases h
    exact ⟨rfl, (hd.opener _ _ stopping).2⟩
  | giveUp stopping => exact hd.unopened (by rw [stopping]; rfl) rfl nofun nofun

/-- A call to disconnect goes on, or begins. -/
theorem going (hd : s.Disconnects) (caller : Nat) (phase : Stopping)
    (hdone : s.opening.isDone = true) (hs : s'.opening = s.opening) (ht : s'.isTaken = true) :
    (s'.setCall caller (some (.stopping phase))).Disconnects where
  waiting h := by
    change s'.opening = .waiting at h
    rw [hs] at h
    rw [h] at hdone
    cases hdone
  opener phase e h := by
    change s'.opening = .stopping phase e at h
    rw [hs] at h
    exact ⟨(hd.opener phase e h).1, ht⟩
  caller other phase' _ := ⟨(congrArg Opening.isDone hs).trans hdone, ht⟩

/-- No step leads to anyone else's disconnecting. -/
theorem of_step {m : Move} (hd : s.Disconnects) (h : s.Step m s') : s'.Disconnects := by
  cases h with
  | stay => exact hd
  | receiver step =>
    cases step with
    | receives step => cases step <;> exact hd.same rfl rfl fun _ _ h => h
    | stop => exact hd.same rfl rfl fun _ _ h => h
  | teller step =>
    cases step with
    | tells step =>
      cases step with
      | @perform _ chore => cases chore <;> exact hd.same rfl rfl fun _ _ h => h
      | take => exact hd.same rfl rfl fun _ _ h => h
      | close => exact hd.same rfl rfl fun _ _ h => h
      | finish => exact hd.same rfl rfl fun _ _ h => h
    | complain => exact hd.same rfl rfl fun _ _ h => h
    | stop => exact hd.same rfl rfl fun _ _ h => h
  | sender step => cases step <;> exact hd.same rfl rfl fun _ _ h => h
  | opener step => exact hd.of_opens step
  | timeOut waiting => exact hd.failOpening waiting warmUpTimedOut
  | refuse => exact hd.same rfl rfl fun _ _ h => stopping?_of_setCall rfl h
  | hold => exact hd.same rfl rfl fun _ _ h => stopping?_of_setCall rfl h
  | accept => exact hd.same rfl rfl fun _ _ h => stopping?_of_setCall rfl h
  | giveUp => exact hd.same rfl rfl fun _ _ h => stopping?_of_setCall rfl h
  | draw => exact hd.same rfl rfl fun _ _ h => h
  | disconnect opened apart => exact hd.going _ _ opened rfl rfl
  | mark stopping =>
    obtain ⟨hdone, htaken⟩ := hd.caller _ _ stopping
    exact hd.going _ _ hdone rfl htaken
  | signal stopping =>
    obtain ⟨hdone, htaken⟩ := hd.caller _ _ stopping
    exact hd.going _ _ hdone rfl htaken
  | leave => exact hd.same rfl rfl fun _ _ h => stopping?_of_setCall rfl h
  | join => exact hd.same rfl rfl fun _ _ h => stopping?_of_setCall rfl h
  | peerSends => exact hd.same rfl rfl fun _ _ h => h
  | peerCloses => exact hd.same rfl rfl fun _ _ h => h

theorem run (hd : s.Disconnects) (moves : List Move) : (s.run moves).Disconnects :=
  run_of_steps (fun _ _ _ h hd => hd.of_step h) hd moves

end Disconnects

theorem disconnects_of_start (h : start config c = (.done s, c')) : s.Disconnects := by
  obtain ⟨_, _, _, -, -, -, -, -, hs⟩ := start_eq_done h
  rw [hs]
  exact {
    waiting := fun _ => rfl
    opener := nofun
    caller := nofun }

end Session
end BrokerLink

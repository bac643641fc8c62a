import BrokerLink.Proofs.LinkHistory

/-!
# After disconnecting

When a call to disconnect has returned, the link is down for good, and whatever is submitted later
is refused. The tasks have ended too, once the call that has taken them has returned; but another
call does not wait for that one, and may return while they are still at work.
-/

namespace BrokerLink

/-- The caller whose call to disconnect has returned. -/
def Report.leaver? : Report → Option Nat
  | stopped caller => some caller
  | _ => none

namespace Session

variable {s s' : Session} {config : ClientConfig} {c c' : Connection}

/-- The callers whose calls to disconnect have returned. -/
def leavers (s : Session) : List Nat := s.log.filterMap Report.leaver?

/-- A caller has begun to disconnect. -/
def isLeft (s : Session) : Bool := s.opening.isDone && s.isTaken

theorem isLeft_iff : s.isLeft = true ↔ s.opening.isDone = true ∧ s.isTaken = true :=
  Bool.and_eq_true_iff

/-! ### Steps and calls to disconnect -/

/-- No call to disconnect begins, goes on or returns, and tasks that have ended do not come back. -/
structure Disregards (s s' : Session) : Prop where
  stopping : s'.stopping? = s.stopping?
  leavers : s'.leavers = s.leavers
  left : s'.isLeft = s.isLeft
  ended : s.hasStopped = true → s'.hasStopped = true

/-- The moves of a session, by what they do to the calls of those who disconnect. -/
inductive Leaves (s : Session) : Session → Prop
  | apart {s' : Session} (rest : s.Disregards s') : Leaves s s'
  | disconnect {caller : Nat} (opened : s.opening.isDone = true)
      (apart : s.stopping? caller = none) :
      Leaves s (setCall { s with isTaken := true } caller (some (.stopping (.begun (!s.isTaken)))))
  | mark {caller : Nat} {first : Bool} (stopping : s.stopping? caller = some (.begun first)) :
      Leaves s (setCall { s with link := .disconnected } caller (some (.stopping (.marked first))))
  | signal {caller : Nat} (stopping : s.stopping? caller = some (.marked true)) :
      Leaves s (setCall { s with isStopping := true } caller (some (.stopping .awaiting)))
  | leave {caller : Nat} {phase : Stopping} (stopping : s.stopping? caller = some phase)
      (why : phase = .marked false ∨ phase = .awaiting ∧ s.hasStopped = true) :
      Leaves s ((s.report (.stopped caller)).setCall caller none)

namespace Disregards

theorem same (hc : s'.calls = s.calls) (hl : s'.leavers = s.leavers)
    (ho : s'.opening = s.opening) (ht : s'.isTaken = s.isTaken)
    (he : s.hasStopped = true → s'.hasStopped = true) : s.Disregards s' where
  stopping := by
    funext caller
    rw [stopping?, hc]
    rfl
  leavers := hl
  left := by rw [isLeft, isLeft, ho, ht]
  ended := he

/-- A caller gives up or begins something else than to disconnect. -/
theorem setCall (h : s.Disregards s') {caller : Nat} {call : Option Call}
    (hs : s.stopping? caller = none) (hc : call.bind Call.phase? = none) :
    s.Disregards (s'.setCall caller call) where
  stopping := by
    funext other
    rw [stopping?_setCall]
    split
    · rename_i ho
      rw [hc, ho, hs]
    · rw [h.stopping]
  leavers := h.leavers
  left := h.left
  ended := h.ended

end Disregards

theorem disregards_of_listens (h : s.Listens s') : s.Disregards s' := by
  have hr := h.receiving_ne_ended
  have he : s.hasStopped = true → s'.hasStopped = true :=
    fun he => absurd (hasStopped_iff.mp he).1 hr
  cases h with
  | receives step => cases step <;> exact .same rfl rfl rfl rfl he
  | stop => exact .same rfl rfl rfl rfl he

theorem disregards_of_speaks (h : s.Speaks s') : s.Disregards s' := by
  have ht := h.telling_ne_ended
  have he : s.hasStopped = true → s'.hasStopped = true :=
    fun he => absurd (hasStopped_iff.mp he).2.1 ht
  cases h with
  | tells step =>
    cases step with
    | @perform _ chore =>
      cases chore with
      | raise id => exact .same rfl rfl rfl rfl he
      | tell e => exact .same rfl (filterMap_report_of_none s rfl) rfl rfl he
      | connect => exact .same rfl rfl rfl rfl he
      | signal => exact .same rfl rfl rfl rfl he
    | take => exact .same rfl rfl rfl rfl he
    | close => exact .same rfl rfl rfl rfl he
    | finish => exact .same rfl (filterMap_report_of_none s rfl) rfl rfl he
  | complain => exact .same rfl (filterMap_report_of_none s rfl) rfl rfl he
  | stop => exact .same rfl rfl rfl rfl he

theorem disregards_of_sends (h : s.Sends s') : s.Disregards s' := by
  have apart (hs : s.sending ≠ .ended) (he : s.hasStopped = true) : s'.hasStopped = true :=
    absurd (hasStopped_iff.mp he).2.2 hs
  cases h with
  | stop stopping =>
    refine .same rfl rfl rfl rfl fun he => ?_
    obtain ⟨hr, ht, -⟩ := hasStopped_iff.mp he
    exact hasStopped_iff.mpr ⟨hr, ht, rfl⟩
  | take idle queued => exact .same rfl rfl rfl rfl (apart (by rw [idle]; nofun))
  | look holding up => exact .same rfl rfl rfl rfl (apart (by rw [holding]; nofun))
  | refuse holding down => exact .same rfl rfl rfl rfl (apart (by rw [holding]; nofun))
  | write writing written => exact .same rfl rfl rfl rfl (apart (by rw [writing]; nofun))
  | fail writing failed => exact .same rfl rfl rfl rfl (apart (by rw [writing]; nofun))
  | notify complaining => exact .same rfl rfl rfl rfl (apart (by rw [complaining]; nofun))
  | giveUp complaining => exact .same rfl rfl rfl rfl (apart (by rw [complaining]; nofun))

/-- The opening call disconnects only before there are callers, and lets them in only if it does
not. -/
theorem disregards_of_opens (hd : s.Disconnects) (h : s.Opens s') : s.Disregards s' := by
  have closed (hs : s.opening.isDone = false) (hs' : s'.opening.isDone = false) :
      s'.isLeft = s.isLeft := by rw [isLeft, isLeft, hs, hs']; rfl
  cases h with
  | succeed waiting ready =>
    have hleft : s.isLeft = false := by rw [isLeft, waiting]; rfl
    exact {
      stopping := rfl
      leavers := filterMap_report_of_none s rfl
      left := (hd.waiting waiting).trans hleft.symm
      ended := id }
  | fail waiting ended =>
    exact {
      stopping := rfl
      leavers := rfl
      left := closed (by rw [waiting]; rfl) rfl
      ended := id }
  | mark stopping =>
    exact {
      stopping := rfl
      leavers := rfl
      left := closed (by rw [stopping]; rfl) rfl
      ended := id }
  | stop stopping =>
    exact {
      stopping := rfl
      leavers := rfl
      left := closed (by rw [stopping]; rfl) rfl
      ended := id }
  | giveUp stopping =>
    exact {
      stopping := rfl
      leavers := filterMap_report_of_none s rfl
      left := closed (by rw [stopping]; rfl) rfl
      ended := id }

theorem Step.leaves {m : Move} (hd : s.Disconnects) (h : s.Step m s') : s.Leaves s' := by
  cases h with
  | stay => exact .apart (.same rfl rfl rfl rfl id)
  | receiver step => exact .apart (disregards_of_listens step)
  | teller step => exact .apart (disregards_of_speaks step)
  | sender step => exact .apart (disregards_of_sends step)
  | opener step => exact .apart (disregards_of_opens hd step)
  | timeOut waiting =>
    have hn : s.isLeft = false := by rw [isLeft, waiting]; rfl
    exact .apart {
      stopping := rfl
      leavers := rfl
      left := hn.symm
      ended := id }
  | @refuse _ caller e own apart =>
    have hrest : s.Disregards ((s.tell (.ofError e)).report (.rejected caller e)) :=
      .same rfl (filterMap_reject_of_none s caller e rfl rfl) rfl rfl id
    exact .apart (hrest.setCall apart rfl)
  | hold apart =>
    have hrest : s.Disregards s := .same rfl rfl rfl rfl id
    exact .apart (hrest.setCall apart rfl)
  | @accept caller bytes apart =>
    have hrest : s.Disregards
        (report { s with requests := s.requests ++ [bytes] } (.accepted caller bytes)) :=
      .same rfl (filterMap_report_of_none _ rfl) rfl rfl id
    exact .apart (hrest.setCall apart rfl)
  | @giveUp caller apart =>
    have hrest : s.Disregards (s.report (.rejected caller .queueFull)) :=
      .same rfl (filterMap_report_of_none s rfl) rfl rfl id
    exact .apart (hrest.setCall apart rfl)
  | draw opened free => exact .apart (.same rfl (filterMap_report_of_none s rfl) rfl rfl id)
  | disconnect opened apart => exact .disconnect opened apart
  | mark stopping => exact .mark stopping
  | signal stopping => exact .signal stopping
  | leave stopping => exact .leave stopping (.inl rfl)
  | join stopping stopped => exact .leave stopping (.inr ⟨rfl, stopped⟩)
  | peerSends bytes => exact .apart (.same rfl rfl rfl rfl id)
  | peerCloses => exact .apart (.same rfl rfl rfl rfl id)

/-! ### What calls to disconnect bring about -/

/-- A call that has taken the tasks is under way. -/
def IsAttended (s : Session) : Prop :=
  ∃ caller phase, s.stopping? caller = some phase ∧ phase.isFirst = true

theorem isAttended_setCall {caller : Nat} {phase : Stopping} (hf : phase.isFirst = true) :
    (s.setCall caller (some (.stopping phase))).IsAttended :=
  ⟨caller, phase, by rw [stopping?_setCall, if_pos rfl]; rfl, hf⟩

namespace IsAttended

theorem same (ha : s.IsAttended) (hs : s'.stopping? = s.stopping?) : s'.IsAttended := by
  rw [IsAttended, hs]
  exact ha

/-- Whatever becomes of a call that has not taken the tasks, another one has. -/
theorem setCall (ha : s.IsAttended) (hs : s'.stopping? = s.stopping?) {other : Nat}
    (ho : ∀ phase, s.stopping? other = some phase → phase.isFirst = false) (call : Option Call) :
    (s'.setCall other call).IsAttended := by
  obtain ⟨caller, phase, hp, hfirst⟩ := ha
  have hne : caller ≠ other := by
    rintro rfl
    rw [ho phase hp] at hfirst
    cases hfirst
  exact ⟨caller, phase, by rw [stopping?_setCall, if_neg hne, hs, hp], hfirst⟩

end IsAttended

/-- What holds while callers disconnect, and when they have. -/
structure Shuts (s : Session) : Prop where
  linked : s.Linked
  /-- Who has come past the beginning has taken the link down. -/
  down : ∀ caller phase, s.stopping? caller = some phase → (∀ first, phase ≠ .begun first) →
    s.link = .disconnected
  returned : ∀ caller ∈ s.leavers, s.isLeft = true ∧ s.link = .disconnected
  /-- Either the tasks have ended, or the call that has taken them is still under way. -/
  taken : s.isLeft = true → s.hasStopped = true ∨ s.IsAttended

namespace Shuts

theorem of_start (h : start config c = (.done s, c')) : s.Shuts := by
  have hl := Linked.of_start h
  obtain ⟨_, _, _, -, -, -, -, -, hs⟩ := start_eq_done h
  rw [hs] at hl ⊢
  exact {
    linked := hl
    down := nofun
    returned := nofun
    taken := nofun }

/-- Once callers have been let in, a link that is down stays down. -/
theorem down_of_step {m : Move} (hs : s.Shuts) (ho : s.opening.isDone = true)
    (hdown : s.link = .disconnected) (h : s.Step m s') : s'.link = .disconnected :=
  hs.linked.down_of_step (hs.linked.isBehind_of_opened ho) hdown h

/-- After a step, too, whoever has come past the beginning has taken the link down. -/
theorem down_step {m : Move} (hs : s.Shuts) (h : s.Step m s') {caller : Nat} {phase : Stopping}
    (hp : s'.stopping? caller = some phase) (hpast : ∀ first, phase ≠ .begun first) :
    s'.link = .disconnected := by
  have keeps {before : Stopping} (hb : s.stopping? caller = some before)
      (hpast : ∀ first, before ≠ .begun first) : s'.link = .disconnected :=
    hs.down_of_step (hs.linked.disconnects.caller _ _ hb).1 (hs.down _ _ hb hpast) h
  cases h.leaves hs.linked.disconnects with
  | apart rest =>
    rw [rest.stopping] at hp
    exact keeps hp hpast
  | @disconnect other opened apart =>
    rw [stopping?_setCall] at hp
    split at hp
    · cases hp
      exact absurd rfl (hpast _)
    · exact keeps hp hpast
  | mark stopping => rfl
  | @signal other stopping =>
    rw [stopping?_setCall] at hp
    split at hp
    · rename_i ho
      rw [← ho] at stopping
      exact keeps stopping nofun
    · exact keeps hp hpast
  | leave stopping why =>
    exact keeps (stopping?_of_setCall rfl hp) hpast

/-- After a step, too, the link is down for whoever has left. -/
theorem returned_step {m : Move} (hs : s.Shuts) (h : s.Step m s') {caller : Nat}
    (hc : caller ∈ s'.leavers) : s'.isLeft = true ∧ s'.link = .disconnected := by
  have keeps (hc : caller ∈ s.leavers) (hleft : s.isLeft = true → s'.isLeft = true) :
      s'.isLeft = true ∧ s'.link = .disconnected := by
    obtain ⟨hl, hdown⟩ := hs.returned caller hc
    exact ⟨hleft hl, hs.down_of_step (isLeft_iff.mp hl).1 hdown h⟩
  cases h.leaves hs.linked.disconnects with
  | apart rest =>
    rw [rest.leavers] at hc
    exact keeps hc fun hl => rest.left.trans hl
  | disconnect opened apart => exact keeps hc fun _ => isLeft_iff.mpr ⟨opened, rfl⟩
  | mark stopping => exact keeps hc id
  | signal stopping => exact keeps hc id
  | @leave other phase stopping why =>
    have hl : s.isLeft = true := isLeft_iff.mpr (hs.linked.disconnects.caller _ _ stopping)
    refine ⟨hl, hs.down_of_step (isLeft_iff.mp hl).1 (hs.down _ _ stopping ?_) h⟩
    rintro first rfl
    obtain hw | ⟨hw, -⟩ := why <;> cases hw

/-- After a step, too, the tasks have ended or somebody sees to it that they do. -/
theorem taken_step {m : Move} (hs : s.Shuts) (h : s.Step m s') (hleft : s'.isLeft = true) :
    s'.hasStopped = true ∨ s'.IsAttended := by
  cases h.leaves hs.linked.disconnects with
  | apart rest =>
    obtain he | ha := hs.taken (rest.left.symm.trans hleft)
    · exact .inl (rest.ended he)
    · exact .inr (ha.same rest.stopping)
  | @disconnect other opened apart =>
    cases ht : s.isTaken with
    | false => exact .inr (isAttended_setCall rfl)
    | true =>
      refine (hs.taken (isLeft_iff.mpr ⟨opened, ht⟩)).imp_right fun ha => ?_
      exact ha.setCall rfl (by rw [apart]; nofun) _
  | @mark other first stopping =>
    cases first with
    | true => exact .inr (isAttended_setCall rfl)
    | false =>
      refine (hs.taken hleft).imp_right fun ha => ?_
      exact ha.setCall rfl (by rw [stopping]; rintro _ ⟨⟩; rfl) _
  | signal stopping => exact .inr (isAttended_setCall rfl)
  | @leave other phase stopping why =>
    obtain rfl | ⟨-, he⟩ := why
    · refine (hs.taken hleft).imp_right fun ha => ?_
      exact ha.setCall rfl (by rw [stopping]; rintro _ ⟨⟩; rfl) _
    · exact .inl he

theorem of_step {m : Move} (hs : s.Shuts) (h : s.Step m s') : s'.Shuts where
  linked := hs.linked.of_step h
  down _ _ := hs.down_step h
  returned _ := hs.returned_step h
  taken := hs.taken_step h

theorem run (hs : s.Shuts) (moves : List Move) : (s.run moves).Shuts :=
  run_of_steps (fun _ _ _ h hs => hs.of_step h) hs moves

end Shuts

/-- A call that has returned has returned. -/
theorem Leaves.mem_leavers {caller : Nat} (h : s.Leaves s') (hc : caller ∈ s.leavers) :
    caller ∈ s'.leavers := by
  cases h with
  | apart rest => rwa [rest.leavers]
  | disconnect => exact hc
  | mark => exact hc
  | signal => exact hc
  | @leave other =>
    change caller ∈ (s.report (.stopped other)).log.filterMap Report.leaver?
    rw [filterMap_report]
    exact List.mem_append_left _ hc

/-- Tasks that have ended do not come back. -/
theorem Leaves.hasStopped (h : s.Leaves s') (he : s.hasStopped = true) : s'.hasStopped = true := by
  cases h with
  | apart rest => exact rest.ended he
  | _ => exact he

/-- A call that has taken the tasks returns only when they have ended. -/
theorem Leaves.hasStopped_of_returned {caller : Nat} {phase : Stopping} (h : s.Leaves s')
    (hp : s.stopping? caller = some phase) (hfirst : phase.isFirst = true)
    (hr : s'.stopping? caller = none) : s.hasStopped = true := by
  have goes {other : Nat} {phase' : Stopping} {s₁ : Session} (hs : s₁.stopping? = s.stopping?)
      (hr : (s₁.setCall other (some (.stopping phase'))).stopping? caller = none) : False := by
    rw [stopping?_setCall, hs] at hr
    split at hr
    · cases hr
    · rw [hp] at hr
      cases hr
  cases h with
  | apart rest =>
    rw [rest.stopping, hp] at hr
    cases hr
  | disconnect => exact (goes rfl hr).elim
  | mark => exact (goes rfl hr).elim
  | signal => exact (goes rfl hr).elim
  | @leave other phase' stopping why =>
    rw [stopping?_setCall] at hr
    split at hr
    · rename_i hc
      rw [← hc, hp] at stopping
      cases stopping
      obtain rfl | ⟨-, he⟩ := why
      · cases hfirst
      · exact he
    · change s.stopping? caller = none at hr
      rw [hp] at hr
      cases hr

theorem Disconnects.mem_leavers_run {caller : Nat} (hd : s.Disconnects) (hc : caller ∈ s.leavers)
    (moves : List Move) : caller ∈ (s.run moves).leavers := by
  induction moves generalizing s with
  | nil => exact hc
  | cons m moves ih => exact ih (hd.of_step (s.step m)) (((s.step m).leaves hd).mem_leavers hc)

theorem Disconnects.hasStopped_run (hd : s.Disconnects) (he : s.hasStopped = true)
    (moves : List Move) : (s.run moves).hasStopped = true := by
  induction moves generalizing s with
  | nil => exact he
  | cons m moves ih => exact ih (hd.of_step (s.step m)) (((s.step m).leaves hd).hasStopped he)

/-- When the tasks have ended, nothing happens unless a caller does it. -/
theorem Step.log_of_hasStopped {m : Move} (h : s.Step m s') (he : s.hasStopped = true)
    (ho : s.opening.isDone = true) (hm : m.caller? = none) : s'.log = s.log := by
  obtain ⟨hr, ht, -⟩ := hasStopped_iff.mp he
  cases h with
  | stay => rfl
  | receiver step => exact absurd hr step.receiving_ne_ended
  | teller step => exact absurd ht step.telling_ne_ended
  | sender step => cases step <;> rfl
  | opener step =>
    cases step with
    | succeed waiting => rw [waiting] at ho; cases ho
    | fail waiting => rw [waiting] at ho; cases ho
    | mark => rfl
    | stop => rfl
    | giveUp stopping => rw [stopping] at ho; cases ho
  | timeOut waiting => rw [waiting] at ho; cases ho
  | refuse own =>
    rw [hm] at own
    cases own
  | hold => cases hm
  | accept => cases hm
  | giveUp => cases hm
  | draw => cases hm
  | disconnect => cases hm
  | mark => cases hm
  | signal => cases hm
  | leave => cases hm
  | join => cases hm
  | peerSends => rfl
  | peerCloses => rfl

/-- A submission is refused at once while the link is down, and nothing is queued. -/
theorem move_submit_of_down {caller : Nat} (ho : s.opening.isDone = true)
    (hc : s.calls caller = none) (hdown : s.link = .disconnected) (patience : Patience)
    (x : Submission) :
    s.move (.submit caller patience x) = s.reject caller (.notConnected x.id) := by
  have he : s.refusal? x = some (.notConnected x.id) :=
    refusal?_eq_some_iff.mpr (.inl ⟨by rw [hdown]; exact LinkState.noConfusion, rfl⟩)
  rw [Session.move, move?, submit?_of_refusal ho hc he, Option.getD_some]

/-- When a call to disconnect has returned, the link is down from then on, and every submission that
begins later is refused and queues nothing. If no call that has taken the tasks is then under way,
all three tasks have ended for good, and nothing more is told or reported but what callers do
themselves. A call that has taken the tasks returns only when they have ended. -/
theorem disconnecting_takes_effect (h : start config c = (.done s, c')) (before : List Move) :
    (∀ caller ∈ (s.run before).leavers, ∀ after,
      ((s.run before).run after).link = .disconnected ∧
      ∀ other patience x, ((s.run before).run after).calls other = none →
        ((s.run before).run after).move (.submit other patience x)
            = ((s.run before).run after).reject other (.notConnected x.id) ∧
          (((s.run before).run after).move (.submit other patience x)).requests
            = ((s.run before).run after).requests) ∧
    (∀ caller ∈ (s.run before).leavers,
      (∀ other phase, (s.run before).stopping? other = some phase → phase.isFirst = false) →
      ∀ after, ((s.run before).run after).hasStopped = true ∧
        ∀ m, m.caller? = none →
          (((s.run before).run after).move m).log = ((s.run before).run after).log) ∧
    ∀ caller phase, (s.run before).stopping? caller = some phase → phase.isFirst = true →
      ((s.run before).move (.proceed caller)).stopping? caller = none →
        (s.run before).hasStopped = true := by
  have hs := (Shuts.of_start h).run before
  have hd := hs.linked.disconnects
  -- what holds of those who have left holds at every later time
  have later {caller : Nat} (hc : caller ∈ (s.run before).leavers) (after : List Move) :
      ((s.run before).run after).opening.isDone = true ∧
        ((s.run before).run after).link = .disconnected := by
    obtain ⟨hleft, hdown⟩ := (hs.run after).returned caller (hd.mem_leavers_run hc after)
    exact ⟨(isLeft_iff.mp hleft).1, hdown⟩
  refine ⟨?_, ?_, ?_⟩
  · intro caller hc after
    obtain ⟨ho, hdown⟩ := later hc after
    refine ⟨hdown, fun other patience x hfree => ?_⟩
    have hm := move_submit_of_down ho hfree hdown patience x
    exact ⟨hm, by rw [hm]; rfl⟩
  · intro caller hc hnone after
    have he : (s.run before).hasStopped = true := by
      obtain he | ⟨other, phase, hp, hfirst⟩ := hs.taken (hs.returned caller hc).1
      · exact he
      · rw [hnone other phase hp] at hfirst
        cases hfirst
    have hafter := hd.hasStopped_run he after
    exact ⟨hafter, fun m hm => (step _ m).log_of_hasStopped hafter (later hc after).1 hm⟩
  · intro caller phase hp hfirst hreturned
    exact ((step _ _).leaves hd).hasStopped_of_returned hp hfirst hreturned

/-- One caller disconnects. -/
def leavesAlone : List Move :=
  comesUp ++ [.disconnect 0, .proceed 0, .proceed 0, .receiver, .teller, .sender, .proceed 0]

theorem disconnecting_takes_effect_alone :
    ∃ s c', start {} greeted = (.done s, c') ∧ 0 ∈ (s.run leavesAlone).leavers ∧
      (∀ other phase, (s.run leavesAlone).stopping? other = some phase → phase.isFirst = false) ∧
      ∀ after, ((s.run leavesAlone).run after).link = .disconnected ∧
        ((s.run leavesAlone).run after).hasStopped = true := by
  obtain ⟨s, c', h, hs⟩ := start_greeted
  have hleft : 0 ∈ (s.run leavesAlone).leavers := by
    rw [hs]
    decide +kernel
  have hown : (s.run leavesAlone).calls 0 = none := by
    rw [← Option.isNone_iff_eq_none, hs]
    decide +kernel
  have hnone : ∀ other, (s.run leavesAlone).stopping? other = none := by
    intro other
    refine stopping?_of_free ?_
    by_cases ho : other = 0
    · rw [ho, hown]
    · have hmoves : ∀ m ∈ leavesAlone, m.caller? = none ∨ m.caller? = some 0 := by decide
      rw [calls_run_of_ne, hs]
      intro m hm hcaller
      rcases hmoves m hm with hn | hz
      · rw [hn] at hcaller
        cases hcaller
      · rw [hz] at hcaller
        exact ho (Option.some.inj hcaller).symm
  have hfirst : ∀ other phase, (s.run leavesAlone).stopping? other = some phase →
      phase.isFirst = false := by
    intro other phase hp
    rw [hnone other] at hp
    cases hp
  obtain ⟨hdown, hended, -⟩ := disconnecting_takes_effect h leavesAlone
  exact ⟨s, c', h, hleft, hfirst, fun after =>
    ⟨(hdown 0 hleft after).1, (hended 0 hleft hfirst after).1⟩⟩

/-- A frame has been queued when two callers disconnect, and the second returns before the first has
got on. -/
def leavesBehind : List Move :=
  comesUp ++ [.peerSends (framed ["49", "1", "4"]), .receiver, .receiver, .receiver,
    .disconnect 0, .disconnect 1, .proceed 1, .proceed 1]

/-- The second of two calls to disconnect returns while the tasks are at work, and an event is told
after that. -/
theorem disconnecting_leaves_tasks_behind :
    ∃ s c', start {} greeted = (.done s, c') ∧
      (s.run leavesBehind).leavers = [1] ∧ (s.run leavesBehind).hasStopped = false ∧
      ((s.run leavesBehind).run [.teller, .teller]).told.length
        = (s.run leavesBehind).told.length + 1 := by
  obtain ⟨s, c', h, hs⟩ := start_greeted
  refine ⟨s, c', h, ?_⟩
  rw [hs]
  decide +kernel

end Session
end BrokerLink

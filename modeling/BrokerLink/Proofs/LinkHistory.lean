import BrokerLink.Proofs.Delivery
import BrokerLink.Proofs.Disconnecting
import BrokerLink.Proofs.WarmUpStage

/-!
# The history of the link

Everyone may mark the link as disconnected, and the teller alone marks it as connected, once, at
the end of the warm-up. It does so without looking: when the receiver has lost the connection in
the meantime, or the opening call has given up, a link that was down comes up again. Behind that
one mark the link only goes down, and stays down.
-/

namespace BrokerLink

namespace Session

variable {s s' : Session} {config : ClientConfig} {c c' : Connection}

/-! ### What is behind the teller -/

/-- The teller has no such chore, and will not be given one. -/
structure IsBehind (s : Session) (chore : Chore) : Prop where
  notDue : chore ∉ s.telling.chores
  warmUp : s.WarmUpIs true

theorem IsBehind.of_works {m : Move} {chore : Chore} (hb : s.IsBehind chore)
    (hc : chore.endsWarmUp = true) (h : s.Works m s') : s'.IsBehind chore := by
  cases h with
  | @perform warmUp first chores busy =>
    refine ⟨fun hm => hb.notDue ?_, warmUpIs_working rfl (hb.warmUp _ _ busy)⟩
    rw [busy]
    exact List.mem_cons_of_mem _ hm
  | @take warmUp payload frames idle queued =>
    have hdone := hb.warmUp _ _ idle
    have hack := (Record.ne_of_mem_eventsIn s.server.version [payload]).1
    have ht := s.tellingOfFrame_eq warmUp payload
    obtain ⟨hnone, hsame⟩ | ⟨-, hopen, -⟩ := WarmUp.filter_chores hack warmUp
    · refine ⟨fun hm => ?_, warmUpIs_working ht (hsame.trans hdone)⟩
      dsimp only at hm
      rw [ht] at hm
      have hin : chore ∈ (warmUp.chores (Record.eventsIn s.server.version [payload])).1.filter
          Chore.endsWarmUp := List.mem_filter.mpr ⟨hm, hc⟩
      rw [hnone] at hin
      cases hin
    · rw [hdone] at hopen
      cases hopen
  | rest idles =>
    refine ⟨?_, idles.warmUpIs hb.warmUp⟩
    rw [idles.chores_eq]
    exact hb.notDue

theorem IsBehind.run {chore : Chore} (hb : s.IsBehind chore) (hc : chore.endsWarmUp = true)
    (moves : List Move) : (s.run moves).IsBehind chore :=
  run_of_steps (P := (·.IsBehind chore)) (fun _ _ _ h hb => hb.of_works hc h.works) hb moves

/-- A teller that has stopped working has everything behind it. -/
theorem isBehind_of_stopped (h : s.telling = .closing ∨ s.telling = .ended) (chore : Chore) :
    s.IsBehind chore := by
  rcases h with h | h
  · exact ⟨by rw [h]; exact List.not_mem_nil, fun w chores hw => by rw [h] at hw; cases hw⟩
  · exact ⟨by rw [h]; exact List.not_mem_nil, fun w chores hw => by rw [h] at hw; cases hw⟩

theorem isBehind_of_due {chore : Chore} (hc : chore.endsWarmUp = true) (hw : s.WarmUpIs true)
    (hd : chore ∉ s.due) : s.IsBehind chore :=
  ⟨fun hm => hd (List.mem_filter.mpr ⟨hm, hc⟩), hw⟩

/-- With the acknowledgement, the mark and the acknowledgement itself are behind the teller. -/
theorem InStage.isBehind (hs : s.InStage) (ha : s.acknowledgements = 1) :
    s.IsBehind .connect ∧ s.IsBehind (.tell .connectAck) := by
  obtain ⟨isDone, hw, hr⟩ := hs
  rw [ha] at hr
  obtain ⟨rfl, hmark, hack⟩ := hr.of_acknowledged
  exact ⟨isBehind_of_due rfl hw hmark, isBehind_of_due rfl hw hack⟩

/-- As long as the mark is to be made, nothing has been acknowledged. When it has been made, it is
behind the teller. -/
theorem InStage.marks (hs : s.InStage) {warmUp : WarmUp} {chores : List Chore}
    (busy : s.telling = .working warmUp (.connect :: chores)) :
    s.acknowledgements = 0 ∧
      IsBehind { s.perform .connect with telling := .working warmUp chores } .connect := by
  obtain ⟨isDone, hw, hr⟩ := hs
  rw [due_of_working busy, List.filter_cons_of_pos rfl] at hr
  obtain ⟨hacks, rfl, hnot⟩ := hr.of_marking
  refine ⟨hacks, isBehind_of_due rfl (warmUpIs_working rfl (hw _ _ busy)) ?_⟩
  exact hnot

/-! ### One step of the link -/

/-- Someone has a reason for the link to be down: the receiver has ended, or a call to disconnect
has begun. -/
def IsLost (s : Session) : Prop := s.receiving = .ended ∨ s.isTaken = true

/-- What one step can do to the link: mark it as disconnected, with a reason that remains; or, if it
is the last step of a teller at the end of the warm-up, as connected. -/
inductive Marks (s : Session) : Move → Session → Prop
  | same {m : Move} {s' : Session} (link : s'.link = s.link) (lost : s.IsLost → s'.IsLost) :
      Marks s m s'
  | down {m : Move} {s' : Session} (link : s'.link = .disconnected) (lost : s'.IsLost) :
      Marks s m s'
  | up {warmUp : WarmUp} {chores : List Chore}
      (busy : s.telling = .working warmUp (.connect :: chores)) :
      Marks s .teller { s.perform .connect with telling := .working warmUp chores }

theorem Marks.apart {m : Move} (hl : s'.link = s.link) (hr : s'.receiving = s.receiving)
    (ht : s'.isTaken = s.isTaken) : s.Marks m s' :=
  .same hl fun h => by rwa [IsLost, hr, ht]

theorem marks_of_listens {m : Move} (h : s.Listens s') : s.Marks m s' := by
  cases h with
  | receives step =>
    have hr := step.receiving_ne_ended
    cases step with
    | queue held => exact .same rfl fun h => h.imp_left (absurd · hr)
    | take reading front => exact .same rfl fun h => h.imp_left (absurd · hr)
    | refuse reading front => exact .down rfl (.inl rfl)
    | receive reading next => exact .same rfl fun h => h
    | finish reading front last closed => exact .down rfl (.inl rfl)
  | stop running why => exact .same rfl fun _ => .inl rfl

theorem marks_of_speaks (h : s.Speaks s') : s.Marks .teller s' := by
  cases h with
  | tells step =>
    cases step with
    | @perform warmUp chore chores busy =>
      cases chore with
      | raise id => exact .apart rfl rfl rfl
      | tell e => exact .apart rfl rfl rfl
      | connect => exact .up busy
      | signal => exact .apart rfl rfl rfl
    | take idle queued => exact .apart rfl rfl rfl
    | close idle last ended => exact .down rfl (.inl ended)
    | finish closing => exact .apart rfl rfl rfl
  | complain idle queued => exact .apart rfl rfl rfl
  | stop idle stopping => exact .apart rfl rfl rfl

theorem marks_of_opens {m : Move} (hd : s.Disconnects) (h : s.Opens s') : s.Marks m s' := by
  cases h with
  | succeed waiting ready => exact .apart rfl rfl rfl
  | fail waiting ended => exact .same rfl fun _ => .inr rfl
  | mark stopping => exact .down rfl (.inr (hd.opener _ _ stopping).2)
  | stop stopping => exact .apart rfl rfl rfl
  | giveUp stopping => exact .apart rfl rfl rfl

theorem Step.marks {m : Move} (hd : s.Disconnects) (h : s.Step m s') : s.Marks m s' := by
  cases h with
  | stay => exact .apart rfl rfl rfl
  | receiver step => exact marks_of_listens step
  | teller step => exact marks_of_speaks step
  | sender step => cases step <;> exact .apart rfl rfl rfl
  | opener step => exact marks_of_opens hd step
  | timeOut waiting => exact .same rfl fun _ => .inr rfl
  | refuse => exact .apart rfl rfl rfl
  | hold => exact .apart rfl rfl rfl
  | accept => exact .apart rfl rfl rfl
  | giveUp => exact .apart rfl rfl rfl
  | draw => exact .apart rfl rfl rfl
  | disconnect => exact .same rfl fun _ => .inr rfl
  | mark stopping => exact .down rfl (.inr (hd.caller _ _ stopping).2)
  | signal => exact .apart rfl rfl rfl
  | leave => exact .apart rfl rfl rfl
  | join => exact .apart rfl rfl rfl
  | peerSends => exact .apart rfl rfl rfl
  | peerCloses => exact .apart rfl rfl rfl

/-! ### From the beginning -/

/-- What holds of the link and of those who mark it. -/
structure Linked (s : Session) : Prop where
  disconnects : s.Disconnects
  stage : s.InStage
  remembers : s.Remembers
  /-- A link is not down without a reason. -/
  lost : s.link = .disconnected → s.IsLost
  /-- A link that is up has been marked, and will not be again. -/
  marked : s.link = .connected → s.IsBehind .connect
  ready : s.opening.isDone = true → s.isReady = true

namespace Linked

theorem of_step {m : Move} (hl : s.Linked) (h : s.Step m s') : s'.Linked where
  disconnects := hl.disconnects.of_step h
  stage := hl.stage.of_works h.works
  remembers := hl.remembers.of_works h.works
  lost hdown := by
    cases h.marks hl.disconnects with
    | same link lost => exact lost (hl.lost (link.symm.trans hdown))
    | down link lost => exact lost
    | up busy => cases hdown
  marked hup := by
    cases h.marks hl.disconnects with
    | same link lost => exact (hl.marked (link.symm.trans hup)).of_works rfl h.works
    | down link lost =>
      rw [link] at hup
      cases hup
    | up busy => exact (hl.stage.marks busy).2
  ready ho := h.works.isReady <| (h.ready_of_opened ho).elim hl.ready id

theorem run (hl : s.Linked) (moves : List Move) : (s.run moves).Linked :=
  run_of_steps (fun _ _ _ h hl => hl.of_step h) hl moves

theorem of_start (h : start config c = (.done s, c')) : s.Linked := by
  have hdisconnects := disconnects_of_start h
  have hstage := inStage_of_start h
  have hremembers := remembers_of_start h
  obtain ⟨_, _, _, -, -, -, -, -, hs⟩ := start_eq_done h
  rw [hs] at hdisconnects hstage hremembers ⊢
  exact {
    disconnects := hdisconnects
    stage := hstage
    remembers := hremembers
    lost := nofun
    marked := nofun
    ready := nofun }

/-- Whoever has been let in has been told that the warm-up has ended. -/
theorem acknowledged (hl : s.Linked) (ho : s.opening.isDone = true) : s.acknowledgements = 1 := by
  obtain ⟨_, -, hr⟩ := hl.stage
  rw [hl.ready ho] at hr
  exact hr.of_isReady.2.2

/-- Behind the mark, a link that is down stays down. -/
theorem down_of_step {m : Move} (hl : s.Linked) (hb : s.IsBehind .connect)
    (hdown : s.link = .disconnected) (h : s.Step m s') : s'.link = .disconnected := by
  cases h.marks hl.disconnects with
  | same link lost => exact link.trans hdown
  | down link lost => exact link
  | up busy =>
    have hdue := hb.notDue
    rw [busy] at hdue
    exact absurd (List.mem_cons_self ..) hdue

theorem stays_down (hl : s.Linked) (hb : s.IsBehind .connect) (hdown : s.link = .disconnected)
    (moves : List Move) : (s.run moves).link = .disconnected := by
  induction moves generalizing s with
  | nil => exact hdown
  | cons m moves ih =>
    have h := s.step m
    exact ih (hl.of_step h) (hb.of_works rfl h.works) (hl.down_of_step hb hdown h)

/-- When callers have been let in, the mark is behind the teller. -/
theorem isBehind_of_opened (hl : s.Linked) (ho : s.opening.isDone = true) :
    s.IsBehind .connect :=
  (hl.stage.isBehind (hl.acknowledged ho)).1

end Linked

/-- Behind the acknowledgement, nothing is acknowledged. -/
theorem acknowledgements_of_works {m : Move} (hb : s.IsBehind (.tell .connectAck))
    (h : s.Works m s') : s'.acknowledgements = s.acknowledgements := by
  cases h with
  | @perform warmUp chore chores busy =>
    refine acknowledgements_of_told (told_perform s chore) ?_
    rintro _ hm rfl
    obtain ⟨chore', hc, he⟩ := List.mem_filterMap.mp hm
    obtain rfl := List.mem_singleton.mp hc
    cases chore' <;> cases he
    have hdue := hb.notDue
    rw [busy] at hdue
    exact hdue (List.mem_cons_self ..)
  | take idle queued => rfl
  | rest idles =>
    exact acknowledgements_of_told idles.told fun e he => (idles.incidental e he).ne_connectAck

theorem acknowledgements_run (hb : s.IsBehind (.tell .connectAck)) (moves : List Move) :
    (s.run moves).acknowledgements = s.acknowledgements := by
  induction moves generalizing s with
  | nil => rfl
  | cons m moves ih =>
    have hw := (s.step m).works
    rw [run_cons, ih (hb.of_works rfl hw), acknowledgements_of_works hb hw]

/-- What becomes of the link with a move. -/
inductive LinkTurns (s : Session) (m : Move) : LinkState → Prop
  | stays : LinkTurns s m s.link
  | goesDown : LinkTurns s m .disconnected
  /-- The teller marks the link at the end of the warm-up, whether it is still to come up or is down
  already. -/
  | comesUp (teller : m = .teller) (seen : SeenBoth s.told) (first : s.acknowledgements = 0)
      (was : s.link = .connecting ∨ s.link = .disconnected ∧ s.IsLost) :
      LinkTurns s m .connected

theorem Linked.turns (hl : s.Linked) (m : Move) : s.LinkTurns m (s.move m).link := by
  have h := s.step m
  generalize s.move m = s' at h
  cases h.marks hl.disconnects with
  | same link lost =>
    rw [link]
    exact .stays
  | down link lost =>
    rw [link]
    exact .goesDown
  | @up warmUp chores busy =>
    have hseen := hl.remembers.marks [] chores (by rw [busy]; rfl)
    rw [List.filterMap_nil, List.append_nil] at hseen
    refine .comesUp rfl hseen (hl.stage.marks busy).1 ?_
    cases hlink : s.link with
    | connecting => exact .inl rfl
    | disconnected => exact .inr ⟨rfl, hl.lost hlink⟩
    | connected =>
      have hdue := (hl.marked hlink).notDue
      rw [busy] at hdue
      exact absurd (List.mem_cons_self ..) hdue

/-- In every run the link begins as connecting, and every move leaves it as it is, or takes it down,
or brings it up at the end of the warm-up, before the acknowledgement is told, which is told once
and has been told when the opening call has succeeded. A link that has come up and gone down again
stays down; and one that is down behind the acknowledgement, or when the teller works no longer,
stays down with nothing more acknowledged. -/
theorem link_history (h : start config c = (.done s, c')) (before : List Move) :
    s.link = .connecting ∧
    (∀ m, (s.run before).LinkTurns m ((s.run before).move m).link) ∧
    (s.run before).acknowledgements ≤ 1 ∧
    ((s.run before).opening.isDone = true → (s.run before).acknowledgements = 1) ∧
    (∀ between after, (s.run before).link = .connected →
      ((s.run before).run between).link = .disconnected →
      (((s.run before).run between).run after).link = .disconnected) ∧
    ∀ after, (s.run before).link = .disconnected →
      ((s.run before).acknowledgements = 1 ∨
        (s.run before).telling = .closing ∨ (s.run before).telling = .ended) →
      ((s.run before).run after).link = .disconnected ∧
        ((s.run before).run after).acknowledgements = (s.run before).acknowledgements := by
  have hl := (Linked.of_start h).run before
  refine ⟨?_, hl.turns, ?_, hl.acknowledged, ?_, ?_⟩
  · obtain ⟨_, _, _, -, -, -, -, -, hs⟩ := start_eq_done h
    rw [hs]
  · obtain ⟨_, -, hr⟩ := hl.stage
    exact hr.le_one
  · intro between after hup hdown
    exact (hl.run between).stays_down ((hl.marked hup).run rfl between) hdown after
  · intro after hdown hover
    have hbehind : (s.run before).IsBehind .connect ∧
        (s.run before).IsBehind (.tell .connectAck) := by
      rcases hover with hacks | hstopped
      · exact hl.stage.isBehind hacks
      · exact ⟨isBehind_of_stopped hstopped _, isBehind_of_stopped hstopped _⟩
    exact ⟨hl.stays_down hbehind.1 hdown after, acknowledgements_run hbehind.2 after⟩

theorem link_history_hungUp :
    ∃ s c', start {} greeted = (.done s, c') ∧
      (s.run comesUp).link = .connected ∧
      ((s.run comesUp).run [.peerCloses, .receiver]).link = .disconnected ∧
      ∀ after,
        (((s.run comesUp).run [.peerCloses, .receiver]).run after).link = .disconnected := by
  obtain ⟨s, c', h, hs⟩ := start_greeted
  have hup : (s.run comesUp).link = .connected := by
    rw [hs]
    decide +kernel
  have hdown : ((s.run comesUp).run [.peerCloses, .receiver]).link = .disconnected := by
    rw [hs]
    decide +kernel
  obtain ⟨-, -, -, -, hstays, -⟩ := link_history h comesUp
  exact ⟨s, c', h, hup, hdown, fun after => hstays _ after hup hdown⟩

/-- The server sends the next id and the accounts, and closes. The receiver has queued both, and has
lost the connection, before the teller looks at either. -/
def hangsUp : List Move :=
  .peerSends (framed ["9", "1", "100"] ++ framed ["15", "1", "DU123"]) :: .peerCloses
    :: List.replicate 6 .receiver

/-- The teller brings a link up again that is down, tells the acknowledgement, and the session is
opened. -/
theorem link_comes_up_again :
    ∃ s c', start {} greeted = (.done s, c') ∧
      (s.run hangsUp).link = .disconnected ∧ (s.run hangsUp).acknowledgements = 0 ∧
      ((s.run hangsUp).run (List.replicate 6 .teller)).link = .connected ∧
      ((s.run hangsUp).run (List.replicate 7 .teller)).acknowledgements = 1 ∧
      ((s.run hangsUp).run (List.replicate 8 .teller ++ [.opener])).link = .connected ∧
      ((s.run hangsUp).run (List.replicate 8 .teller ++ [.opener])).opening.isDone = true := by
  obtain ⟨s, c', h, hs⟩ := start_greeted
  refine ⟨s, c', h, ?_⟩
  rw [hs]
  decide +kernel

end Session
end BrokerLink

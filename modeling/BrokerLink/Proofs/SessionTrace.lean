import BrokerLink.Proofs.EventKind
import BrokerLink.Proofs.Starting
import BrokerLink.Proofs.StillToTell
import BrokerLink.Proofs.WrittenField

/-!
# What a session tells

A session that is left alone tells the events of the frames that it hears, in their
order and without those of frames that cannot be decoded, with the end of the warm-up
acknowledged and the end of the connection behind it all. Neither the portions in which
the bytes come nor the order in which the tasks go make a difference.
-/

namespace BrokerLink

/-- No frame tells an event of the link itself. -/
theorem Record.ne_of_mem_eventsIn (version : Version) (payloads : List (List UInt8)) :
    .connectAck ∉ eventsIn version payloads ∧ .connectionClosed ∉ eventsIn version payloads := by
  have hn : ∀ e ∈ eventsIn version payloads, e ≠ .connectAck ∧ e ≠ .connectionClosed := by
    intro e he
    obtain ⟨payload, -, he⟩ := List.mem_flatMap.mp he
    cases hd : decode version payload with
    | error fault =>
      rw [hd] at he
      cases he
    | ok es =>
      rw [hd] at he
      obtain ⟨ha, hc⟩ := ne_of_decode hd
      constructor
      · rintro rfl
        exact ha he
      · rintro rfl
        exact hc he
  exact ⟨fun h => (hn _ h).1 rfl, fun h => (hn _ h).2 rfl⟩

namespace Session

variable {config : ClientConfig} {c c' : Connection} {s : Session}

theorem quiet_of_start (h : start config c = (.done s, c')) : s.Quiet := by
  obtain ⟨_, _, _, -, -, -, -, -, hs⟩ := start_eq_done h
  rw [hs]
  exact {
    notices := rfl
    requests := rfl
    sending := .inl rfl
    calls := fun _ => rfl
    stopping := fun h => by cases h
    opening := fun _ _ h => by cases h
    finished := fun h => by obtain h | h := h <;> cases h }

/-- In the beginning, all that the peer sends behind its answer is still to be told. -/
theorem willTell_of_start (h : start config c = (.done s, c')) {more : List UInt8}
    {payloads : List (List UInt8)} {ending : LinkError}
    (hd : Divided (s.inbound.stream ++ more) payloads ending) :
    ∃ told, Acknowledged (Record.eventsIn s.server.version payloads) told ∧
      s.WillTell more (told ++ [.connectionClosed]) := by
  obtain ⟨_, _, _, -, -, -, -, -, hs⟩ := start_eq_done h
  have hf : s.frames = [] := by rw [hs]
  have hr : s.receiving = .reading := by rw [hs]
  have ht : s.telling = .working {} [] := by rw [hs]
  have hl : s.told = [] := by rw [hs]; rfl
  refine ⟨_, WarmUp.acknowledged_chores _, payloads, ?_, ?_⟩
  · rw [hf, hr]
    exact .reading hd
  · rw [hl, ht]
    exact List.filterMap_append

/-- A frame that cannot be decoded is passed over, and nothing else changes. -/
theorem Quiet.move_teller_of_error (hq : s.Quiet) {warmUp : WarmUp} {payload : List UInt8}
    {frames : List (List UInt8)} {fault : ReadFault} (ht : s.telling = .working warmUp [])
    (hf : s.frames = payload :: frames)
    (hd : Record.decode s.server.version payload = .error fault) :
    s.move .teller = { s with frames } := by
  have hs := hq.isStopping_eq_false (Telling.ne_ended_of_working ht)
  have hm : s.move? .teller = some { s with frames, telling := .working warmUp [] } := by
    simp only [move?, teller?, ht, hs, Bool.false_eq_true, if_false, hq.notices, hf,
      tellingOfFrame_of_error hd]
  rw [Session.move, hm, ← ht]
  rfl

/-- A session that an accepted answer has started, and that is then left alone, tells the events of
the frames behind the answer, and that the connection has closed, however the bytes are cut and
whoever goes first. -/
theorem told_behind_answer {greeting reply rest : List UInt8} {server : ServerInfo} {frame : Frame}
    (hg : hello config.connectOptions = .ok greeting) (ho : c.outbound.isOpen = true)
    (hr : Front.of c.inbound.stream = .frame reply rest)
    (hp : ServerInfo.ofPayload reply = .ok server)
    (hf : (Request.startApi config.clientId config.optionalCapabilities).frame server.version
      = .ok frame) :
    ∃ s c', start config c = (.done s, c') ∧ s.server = server ∧
      c'.outbound.sent = c.outbound.sent ++ greeting ++ frame.bytes ∧
      ∀ moves, (∀ m ∈ moves, m.isQuiet = true) → (s.run moves).inbound.isClosed = true →
        ∃ payloads ending told,
          Divided (rest ++ s.heard moves) payloads ending ∧
          Acknowledged (Record.eventsIn server.version payloads) told ∧
          (∀ told', Acknowledged (Record.eventsIn server.version payloads) told' → told' = told) ∧
          .connectAck ∉ Record.eventsIn server.version payloads ∧
          .connectionClosed ∉ Record.eventsIn server.version payloads ∧
          (∀ before after, moves = before ++ after →
            (s.run before).told <+: told ++ [.connectionClosed]) ∧
          ((s.run moves).advance? = none → (s.run moves).told = told ++ [.connectionClosed]) ∧
          (s.run moves).settle.told = told ++ [.connectionClosed] ∧
          ∀ before after payload frames warmUp fault, moves = before ++ after →
            (s.run before).telling = .working warmUp [] →
            (s.run before).frames = payload :: frames →
            Record.decode server.version payload = .error fault →
            (s.run before).move .teller = { s.run before with frames } := by
  obtain ⟨hreply, hrest, -⟩ := Inbound.next_of_frame hr
  have hn : c.inbound.next = (.done reply, c.inbound.next.2) := Prod.ext hreply rfl
  obtain ⟨s, c', hs, rfl, hi⟩ := exists_start hg ho hn hp hf
  rw [← hi] at hrest
  obtain ⟨_, _, _, hg', -, -, hf', hsent, -⟩ := start_eq_done hs
  cases hg.symm.trans hg'
  cases hf.symm.trans hf'
  have hq := quiet_of_start hs
  refine ⟨s, c', hs, rfl, hsent, ?_⟩
  intro moves hm hc
  obtain ⟨payloads, ending, hd⟩ := Divided.exists_of (rest ++ s.heard moves)
  obtain ⟨told, ha, hw⟩ := willTell_of_start hs (hrest ▸ hd)
  obtain ⟨hack, hclosed⟩ := Record.ne_of_mem_eventsIn s.server.version payloads
  have hrun : (s.run moves).WillTell [] (told ++ [.connectionClosed]) := by
    refine WillTell.of_run ?_ hq hm fun _ => rfl
    rwa [List.append_nil]
  refine ⟨payloads, ending, told, hd, ha, fun _ h => h.unique ha, hack, hclosed, ?_, ?_, ?_, ?_⟩
  · rintro before after rfl
    obtain ⟨hb, haf⟩ := List.forall_mem_append.mp hm
    have hq' := hq.run hb
    rw [heard_append] at hw
    refine (WillTell.of_run hw hq hb fun hcl => ?_).isPrefix
    exact hq'.heard_of_isClosed haf hcl
  · intro hrest
    exact hrun.told_eq ((hq.run hm).telling_eq_ended hc hrest)
  · exact hrun.told_settle (hq.run hm) hc
  · rintro before after payload frames warmUp fault rfl ht hfr hdec
    obtain ⟨hb, -⟩ := List.forall_mem_append.mp hm
    rw [← hq.server_run hb] at hdec
    exact (hq.run hb).move_teller_of_error ht hfr hdec

/-- Fields behind the length of their payload. -/
def framed (fields : Fields) : List UInt8 :=
  bigEndian fields.payload.length ++ fields.payload

/-- What a server sends behind its answer: a time that is none, an id, a time, the accounts, a
time, and a length that no payload has. -/
def script : List UInt8 :=
  framed ["49", "1", "soon"] ++ (framed ["9", "1", "100"] ++ (framed ["49", "1", "4"]
    ++ (framed ["15", "1", "DU123"] ++ (framed ["49", "1", "5"] ++ (bigEndian 0 ++ [])))))

/-- A server has answered, and begun to send its script. -/
def answered : Connection :=
  { inbound := { arriving := [framed ["157", "20240101"] ++ script.take 5] } }

/-- The rest of the script in two portions, the first of which ends inside a frame. -/
def restOfScript : List Move :=
  [.peerSends ((script.drop 5).take 9), .peerSends ((script.drop 5).drop 9), .peerCloses]

theorem divided_script :
    Divided script
      [Fields.payload ["49", "1", "soon"], Fields.payload ["9", "1", "100"],
        Fields.payload ["49", "1", "4"], Fields.payload ["15", "1", "DU123"],
        Fields.payload ["49", "1", "5"]]
      (.client noId .badLength ("declared frame length " ++ toString 0)) :=
  .frame (by decide) (by decide) <| .frame (by decide) (by decide) <|
    .frame (by decide) (by decide) <| .frame (by decide) (by decide) <|
    .frame (by decide) (by decide) <| .badLength (by decide) (.inl rfl)

theorem heard_restOfScript (h : s.inbound.isClosed = false) :
    s.heard restOfScript = script.drop 5 := by
  have hm : ∀ bytes, (s.move (.peerSends bytes)).inbound.isClosed = false := by
    intro bytes
    rw [Session.move, move?, h]
    exact h
  simp only [restOfScript, heard, hears, h, hm, Bool.false_eq_true, if_false, List.append_nil,
    List.take_append_drop]

theorem exists_frame_startApi : ∃ frame, (Request.startApi 0 "").frame 157 = .ok frame := by
  have hz : Fields.hasZero ["71", "2", "0", ""] = false := by
    rw [Fields.hasZero_eq_any]
    rfl
  have hs : Fields.size ["71", "2", "0", ""] ≤ maxPayload := by decide
  have hf : Frame.ofFields ["71", "2", "0", ""] = .ok ⟨["71", "2", "0", ""], hz, hs⟩ :=
    Frame.ofFields_eq_ok_iff.mpr rfl
  have hu : (Request.startApi 0 "").firstUnmet 157 = none := by rfl
  have hfields : (Request.startApi 0 "").fields 157 = ["71", "2", "0", ""] := by rfl
  refine ⟨⟨["71", "2", "0", ""], hz, hs⟩, ?_⟩
  rw [Request.frame, hu, hfields]
  dsimp only
  rw [hf]
  rfl

theorem told_behind_answer_script :
    ∃ s c', start {} answered = (.done s, c') ∧ (s.run restOfScript).settle.told
      = [.nextValidId 100, .currentTime 4, .managedAccounts ["DU123"], .connectAck,
          .currentTime 5, .connectionClosed] := by
  obtain ⟨greeting, hg⟩ : ∃ greeting, hello "" = .ok greeting := ⟨_, by rfl⟩
  obtain ⟨frame, hf⟩ := exists_frame_startApi
  have hr : Front.of answered.inbound.stream
      = .frame (Fields.payload ["157", "20240101"]) (script.take 5) := by
    have ha : answered.inbound.stream = framed ["157", "20240101"] ++ script.take 5 := by
      simp [answered, Inbound.stream]
    rw [ha]
    exact Front.of_frame _ (by decide) (by decide)
  have hp : ServerInfo.ofPayload (Fields.payload ["157", "20240101"]) = .ok ⟨157, "20240101"⟩ := by
    rfl
  obtain ⟨s, c', hs, -, -, hall⟩ := @told_behind_answer {} answered _ _ _ _ _ hg rfl hr hp hf
  obtain ⟨_, reply, _, -, hn, -⟩ := start_eq_done hs
  have hc : s.inbound.isClosed = false := by
    have hi : answered.inbound.next.2 = s.inbound := congrArg Prod.snd hn
    rw [← hi]
    rfl
  obtain ⟨payloads, _, told, hd, ha, -, -, -, -, -, ht, -⟩ :=
    hall restOfScript (by decide) rfl
  have hstream : script.take 5 ++ s.heard restOfScript = script := by
    rw [heard_restOfScript hc, List.take_append_drop]
  rw [hstream] at hd
  obtain ⟨rfl, -⟩ := hd.unique divided_script
  have hev : Record.eventsIn 157 [Fields.payload ["49", "1", "soon"],
      Fields.payload ["9", "1", "100"], Fields.payload ["49", "1", "4"],
      Fields.payload ["15", "1", "DU123"], Fields.payload ["49", "1", "5"]]
      = [.nextValidId 100, .currentTime 4] ++ .managedAccounts ["DU123"] :: [.currentTime 5] := by
    rfl
  have hack := @Acknowledged.behind [.nextValidId 100, .currentTime 4] [.currentTime 5]
    (.managedAccounts ["DU123"]) (by simp [SeenBoth]) (by simp [SeenBoth])
  rw [hev] at ha
  refine ⟨s, c', hs, ?_⟩
  rw [ht, ha.unique hack]
  rfl

end Session
end BrokerLink

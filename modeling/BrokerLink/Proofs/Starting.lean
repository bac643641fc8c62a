import BrokerLink.Session.Basic

/-!
# Starting

What has happened when a session has started: the hello and the first request have been
written, and the server's answer has been taken and accepted. Nothing else is needed for
a session to start.
-/

namespace BrokerLink

namespace Outbound

variable {o o' : Outbound} {bytes : List UInt8}

theorem sent_write (h : o.write bytes = .ok o') : o'.sent = o.sent ++ bytes := by
  unfold write at h
  split at h
  · cases h
    rfl
  · cases h

theorem sent_writeFrame (h : o.writeFrame bytes = .ok o') : o'.sent = o.sent ++ bytes := by
  unfold writeFrame at h
  cases hw : o.write bytes with
  | error e =>
    rw [hw] at h
    cases h
  | ok o₁ =>
    rw [hw] at h
    have hs := sent_write hw
    cases h
    exact hs

/-- Only an open side takes bytes. -/
theorem isOpen_of_write (h : o.write bytes = .ok o') : o.isOpen = true := by
  unfold write at h
  split at h
  · assumption
  · cases h

end Outbound

namespace Session

variable {config : ClientConfig} {c c' : Connection} {s : Session}

theorem handshake_eq_done {server : ServerInfo} {options : String}
    (h : c.handshake options = (.done server, c')) :
    ∃ greeting reply, hello options = .ok greeting ∧
      c.outbound.write greeting = .ok c'.outbound ∧ c.inbound.next = (.done reply, c'.inbound) ∧
      ServerInfo.ofPayload reply = .ok server := by
  unfold Connection.handshake at h
  split at h
  · cases h
  · rename_i greeting hg
    split at h
    · cases h
    · rename_i outbound hw
      cases hn : c.inbound.next with
      | mk outcome inbound =>
        rw [hn] at h
        cases outcome with
        | failed e => cases h
        | waiting => cases h
        | done reply =>
          cases hp : ServerInfo.ofPayload reply with
          | error e =>
            simp [Outcome.thenTry, hp] at h
          | ok info =>
            simp [Outcome.thenTry, hp] at h
            obtain ⟨rfl, rfl⟩ := h
            exact ⟨greeting, reply, hg, hw, rfl, hp⟩

theorem start_eq_done (h : start config c = (.done s, c')) :
    ∃ greeting reply frame, hello config.connectOptions = .ok greeting ∧
      c.inbound.next = (.done reply, s.inbound) ∧ ServerInfo.ofPayload reply = .ok s.server ∧
      (Request.startApi config.clientId config.optionalCapabilities).frame s.server.version
        = .ok frame ∧
      c'.outbound.sent = c.outbound.sent ++ greeting ++ frame.bytes ∧
      s = { config, server := s.server, inbound := s.inbound, outbound := s.outbound } := by
  unfold start at h
  cases hh : c.handshake config.connectOptions with
  | mk outcome c₁ =>
    rw [hh] at h
    cases outcome with
    | failed e => cases h
    | waiting => cases h
    | done server =>
      obtain ⟨greeting, reply, hg, hw, hn, hp⟩ := handshake_eq_done hh
      dsimp only at h
      split at h
      · cases h
      · rename_i frame hf
        split at h
        · cases h
        · rename_i outbound ho
          cases h
          refine ⟨greeting, reply, frame, hg, hn, hp, hf, ?_, rfl⟩
          rw [Outbound.sent_writeFrame ho, Outbound.sent_write hw]

/-- The session goes on writing behind the hello and the first request. -/
theorem outbound_of_start (h : start config c = (.done s, c')) :
    ∃ greeting frame, hello config.connectOptions = .ok greeting ∧
      (Request.startApi config.clientId config.optionalCapabilities).frame s.server.version
        = .ok frame ∧
      s.outbound = { sent := c.outbound.sent ++ greeting ++ frame.bytes,
                     framesWritten := c.outbound.framesWritten + 1, isOpen := true } := by
  unfold start at h
  cases hh : c.handshake config.connectOptions with
  | mk outcome c₁ =>
    rw [hh] at h
    cases outcome with
    | failed e => cases h
    | waiting => cases h
    | done server =>
      obtain ⟨greeting, reply, hg, hw, -, -⟩ := handshake_eq_done hh
      have hopen := Outbound.isOpen_of_write hw
      rw [Outbound.write, if_pos hopen] at hw
      have hw' := (Except.ok.inj hw).symm
      have hopen' : c₁.outbound.isOpen = true := by rw [hw', hopen]
      dsimp only at h
      split at h
      · cases h
      · rename_i frame hf
        rw [Outbound.writeFrame_of_isOpen hopen'] at h
        cases h
        exact ⟨greeting, frame, hg, hf, by rw [hw', hopen]⟩

/-- A client whose first request can be sent is started by an answer that it accepts. -/
theorem exists_start {greeting reply : List UInt8} {frame : Frame} {server : ServerInfo}
    {inbound : Inbound} (hg : hello config.connectOptions = .ok greeting)
    (ho : c.outbound.isOpen = true) (hn : c.inbound.next = (.done reply, inbound))
    (hp : ServerInfo.ofPayload reply = .ok server)
    (hf : (Request.startApi config.clientId config.optionalCapabilities).frame server.version
      = .ok frame) :
    ∃ s c', start config c = (.done s, c') ∧ s.server = server ∧ s.inbound = inbound := by
  have hw : c.outbound.write greeting
      = .ok { c.outbound with sent := c.outbound.sent ++ greeting } := by
    rw [Outbound.write, if_pos ho]
  have hwf := @Outbound.writeFrame_of_isOpen
    { c.outbound with sent := c.outbound.sent ++ greeting } ho frame.bytes
  have hh : c.handshake config.connectOptions = (.done server,
      { inbound, outbound := { c.outbound with sent := c.outbound.sent ++ greeting } }) := by
    simp only [Connection.handshake, hg, hw, hn, Outcome.thenTry, hp]
  unfold start
  rw [hh]
  dsimp only
  rw [hf]
  dsimp only
  rw [hwf]
  exact ⟨_, _, rfl, rfl, rfl⟩

end Session
end BrokerLink

import BrokerLink.Session.Telling

/-!
# The end of the warm-up

Where the acknowledgement stands among the events that a client is told, said without
the flags of the warm-up: right behind the first event after which both a next valid id
and the managed accounts have been told, and nowhere if that never comes.
-/

namespace BrokerLink

/-- Both events that end the warm-up are among these. -/
def SeenBoth (es : List Event) : Prop :=
  (∃ id, .nextValidId id ∈ es) ∧ ∃ accounts, .managedAccounts accounts ∈ es

theorem SeenBoth.append {es : List Event} (h : SeenBoth es) (more : List Event) :
    SeenBoth (es ++ more) := by
  obtain ⟨⟨id, hi⟩, accounts, ha⟩ := h
  exact ⟨⟨id, List.mem_append_left _ hi⟩, accounts, List.mem_append_left _ ha⟩

theorem not_seenBoth_nil : ¬SeenBoth [] := by
  rintro ⟨⟨_, h⟩, -⟩
  cases h

/-- What is told of the events of a session, with the end of the warm-up acknowledged. -/
inductive Acknowledged : List Event → List Event → Prop
  | never {es : List Event} (missing : ¬SeenBoth es) : Acknowledged es es
  | behind {before after : List Event} {e : Event} (missing : ¬SeenBoth before)
      (both : SeenBoth (before ++ [e])) :
      Acknowledged (before ++ e :: after) (before ++ e :: .connectAck :: after)

namespace Acknowledged

theorem eq_of_not_seenBoth {es told : List Event} (h : Acknowledged es told) (hn : ¬SeenBoth es) :
    told = es := by
  cases h with
  | never => rfl
  | @behind before after e _ both =>
    have hs := both.append after
    rw [List.append_assoc] at hs
    exact absurd hs hn

/-- There is only one place for the acknowledgement. -/
theorem unique {es told told' : List Event} (h : Acknowledged es told)
    (h' : Acknowledged es told') : told = told' := by
  generalize he : es = es' at h'
  cases h with
  | never missing =>
    subst he
    exact (h'.eq_of_not_seenBoth missing).symm
  | @behind before after e missing both =>
    cases h' with
    | never missing' =>
      have hs := both.append after
      rw [List.append_assoc] at hs
      exact absurd (he ▸ hs) missing'
    | @behind before' after' e' missing' both' =>
      obtain ⟨between, hb, ha⟩ | ⟨between, hb, ha⟩ := List.append_eq_append_iff.mp he
      · cases between with
        | nil =>
          rw [List.append_nil] at hb
          cases ha
          rw [hb]
        | cons x between =>
          cases ha
          have hs := both.append between
          rw [List.append_assoc, List.singleton_append, ← hb] at hs
          exact absurd hs missing'
      · cases between with
        | nil =>
          rw [List.append_nil] at hb
          cases ha
          rw [hb]
        | cons x between =>
          cases ha
          have hs := both'.append between
          rw [List.append_assoc, List.singleton_append, ← hb] at hs
          exact absurd hs missing

end Acknowledged

/-- The event that a chore tells. -/
def Chore.event? : Chore → Option Event
  | .tell e => some e
  | _ => none

namespace WarmUp

variable {w : WarmUp} {past : List Event}

/-- A warm-up is right about what has been told. -/
structure Recalls (w : WarmUp) (past : List Event) : Prop where
  sawId : w.sawId = true ↔ ∃ id, .nextValidId id ∈ past
  sawAccounts : w.sawAccounts = true ↔ ∃ accounts, .managedAccounts accounts ∈ past
  isDone : w.isDone = true ↔ SeenBoth past

theorem recalls_nil : Recalls {} [] where
  sawId := by simp
  sawAccounts := by simp
  isDone := by simp [not_seenBoth_nil]

theorem isDone_observe (w : WarmUp) (e : Event) : (w.observe e).isDone = w.isDone := by
  unfold observe
  split <;> rfl

theorem Recalls.sawId_observe (h : w.Recalls past) (e : Event) :
    (w.observe e).sawId = true ↔ ∃ id, .nextValidId id ∈ past ++ [e] := by
  simp only [List.mem_append, List.mem_singleton, exists_or, ← h.sawId]
  cases e <;> simp [observe]

theorem Recalls.sawAccounts_observe (h : w.Recalls past) (e : Event) :
    (w.observe e).sawAccounts = true ↔ ∃ accounts, .managedAccounts accounts ∈ past ++ [e] := by
  simp only [List.mem_append, List.mem_singleton, exists_or, ← h.sawAccounts]
  cases e <;> simp [observe]

theorem Recalls.isComplete_observe (h : w.Recalls past) (e : Event) :
    (w.observe e).isComplete = true ↔ SeenBoth (past ++ [e]) := by
  rw [isComplete, Bool.and_eq_true, h.sawId_observe, h.sawAccounts_observe]
  rfl

/-- The event that ends the warm-up is followed by the acknowledgement. -/
theorem Recalls.choresOf_last (h : w.Recalls past) {e : Event} (missing : ¬SeenBoth past)
    (both : SeenBoth (past ++ [e])) :
    (w.choresOf e).1.filterMap Chore.event? = [e, .connectAck] ∧
      (w.choresOf e).2.Recalls (past ++ [e]) := by
  have hd : w.isDone = false := Bool.eq_false_iff.mpr (mt h.isDone.mp missing)
  have hc := (h.isComplete_observe e).mpr both
  unfold choresOf
  simp only [hd, hc, Bool.not_false, Bool.and_self, if_true]
  constructor
  · split <;> rfl
  · exact ⟨h.sawId_observe e, h.sawAccounts_observe e, by simp [both]⟩

/-- Every other event is told alone. -/
theorem Recalls.choresOf_other (h : w.Recalls past) (e : Event)
    (hn : SeenBoth past ∨ ¬SeenBoth (past ++ [e])) :
    (w.choresOf e).1.filterMap Chore.event? = [e] ∧ (w.choresOf e).2.Recalls (past ++ [e]) := by
  have hc : (!w.isDone && (w.observe e).isComplete) = false := by
    rw [Bool.and_eq_false_iff, Bool.not_eq_false', h.isDone, Bool.eq_false_iff, ne_eq,
      h.isComplete_observe]
    exact hn
  unfold choresOf
  simp only [hc, Bool.false_eq_true, if_false]
  constructor
  · split <;> rfl
  · refine ⟨h.sawId_observe e, h.sawAccounts_observe e, ?_⟩
    have hd : w.isDone = true ↔ SeenBoth (past ++ [e]) := by
      rw [h.isDone]
      exact ⟨fun hs => hs.append [e], fun hs => hn.resolve_right (absurd hs)⟩
    rwa [isDone_observe]

/-- Behind the warm-up, the events are told as they are. -/
theorem Recalls.chores_of_seenBoth (h : w.Recalls past) (hs : SeenBoth past) (es : List Event) :
    (w.chores es).1.filterMap Chore.event? = es := by
  induction es generalizing w past with
  | nil => rfl
  | cons e es ih =>
    obtain ⟨ht, hr⟩ := h.choresOf_other e (.inl hs)
    simp only [chores, List.filterMap_append, ht, ih hr (hs.append [e]), List.singleton_append]

/-- During the warm-up, the events are told and its end is acknowledged. -/
theorem Recalls.chores_of_missing (h : w.Recalls past) (missing : ¬SeenBoth past)
    (es : List Event) :
    Acknowledged (past ++ es) (past ++ (w.chores es).1.filterMap Chore.event?) := by
  induction es generalizing w past with
  | nil => simpa [chores] using Acknowledged.never missing
  | cons e es ih =>
    by_cases both : SeenBoth (past ++ [e])
    · obtain ⟨ht, hr⟩ := h.choresOf_last missing both
      simp only [chores, List.filterMap_append, ht, hr.chores_of_seenBoth both es]
      exact .behind missing both
    · obtain ⟨ht, hr⟩ := h.choresOf_other e (.inr both)
      have hi := ih hr both
      simpa only [chores, List.filterMap_append, ht, List.append_assoc, List.singleton_append]
        using hi

theorem chores_append (w : WarmUp) (es more : List Event) :
    w.chores (es ++ more)
      = ((w.chores es).1 ++ ((w.chores es).2.chores more).1, ((w.chores es).2.chores more).2) := by
  induction es generalizing w with
  | nil => rfl
  | cons e es ih => simp only [List.cons_append, chores, ih, List.append_assoc]

/-- The chores of a whole session tell its events, with the end of the warm-up acknowledged. -/
theorem acknowledged_chores (es : List Event) :
    Acknowledged es ((chores {} es).1.filterMap Chore.event?) :=
  recalls_nil.chores_of_missing not_seenBoth_nil es

end WarmUp

/-- The events of the payloads that can be decoded. -/
def Record.eventsIn (version : Version) (payloads : List (List UInt8)) : List Event :=
  payloads.flatMap fun payload => (decode version payload).toOption.getD []

/-- A frame gives the teller the chores of its events. -/
theorem Session.tellingOfFrame_eq (s : Session) (warmUp : WarmUp) (payload : List UInt8) :
    s.tellingOfFrame warmUp payload =
      .working (warmUp.chores (Record.eventsIn s.server.version [payload])).2
        (warmUp.chores (Record.eventsIn s.server.version [payload])).1 := by
  unfold tellingOfFrame Record.eventsIn
  cases hd : Record.decode s.server.version payload with
  | error fault =>
    simp only [List.flatMap_singleton, hd]
    rfl
  | ok es =>
    simp only [List.flatMap_singleton, hd]
    rfl

end BrokerLink

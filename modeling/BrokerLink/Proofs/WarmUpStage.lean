import BrokerLink.Proofs.Chores
import BrokerLink.Proofs.SessionTrace
import Mathlib.Data.List.Basic

/-!
# Stages of the warm-up

Whatever else happens, the teller ends the warm-up at most once, and in three steps that it takes
one after the other: it marks the link, tells the acknowledgement, and lets the opening call
return (`Reached`). When it does so, both events that it has waited for have been told.
-/

namespace BrokerLink

/-- A chore that ends the warm-up. -/
def Chore.endsWarmUp : Chore → Bool
  | .connect => true
  | .tell .connectAck => true
  | .signal => true
  | _ => false

theorem Chore.endsWarmUp_tell {e : Event} (h : e ≠ .connectAck) :
    (Chore.tell e).endsWarmUp = false := by
  unfold endsWarmUp
  split
  · rename_i heq
    cases heq
  · rename_i heq
    cases heq
    exact absurd rfl h
  · rename_i heq
    cases heq
  · rfl

def Event.isAcknowledgement : Event → Bool
  | .connectAck => true
  | _ => false

theorem Event.isAcknowledgement_eq_false {e : Event} (h : e ≠ .connectAck) :
    e.isAcknowledgement = false := by
  unfold isAcknowledgement
  split
  · exact absurd rfl h
  · rfl

namespace WarmUp

variable {w : WarmUp}

theorem filter_raises (e : Event) : e.raises.filter Chore.endsWarmUp = [] := by
  refine List.filter_eq_nil_iff.mpr fun chore hm => ?_
  obtain ⟨id, -, rfl⟩ := Event.exists_of_mem_raises hm
  exact Bool.false_ne_true

/-- Among the chores of events that come from frames, those that end the warm-up are all three of
them, or none. -/
theorem filter_chores {es : List Event} (hes : .connectAck ∉ es) (w : WarmUp) :
    (w.chores es).1.filter Chore.endsWarmUp = [] ∧ (w.chores es).2.isDone = w.isDone ∨
      (w.chores es).1.filter Chore.endsWarmUp = ending ∧ w.isDone = false ∧
        (w.chores es).2.isDone = true := by
  induction es generalizing w with
  | nil => exact .inl ⟨rfl, rfl⟩
  | cons e es ih =>
    have he : (Chore.tell e).endsWarmUp = false :=
      Chore.endsWarmUp_tell fun h => hes (h ▸ List.mem_cons_self ..)
    have hrest := ih (fun h => hes (List.mem_cons_of_mem _ h)) (w.choresOf e).2
    change ((w.choresOf e).1 ++ ((w.choresOf e).2.chores es).1).filter _ = [] ∧
        ((w.choresOf e).2.chores es).2.isDone = _ ∨
      ((w.choresOf e).1 ++ ((w.choresOf e).2.chores es).1).filter _ = ending ∧ _ ∧
        ((w.choresOf e).2.chores es).2.isDone = true
    obtain ⟨hc, hopen, hdone⟩ | ⟨hc, hsame⟩ := w.choresOf_cases e
    · -- the warm-up ends with this event, so it cannot end with a later one
      obtain ⟨hf, hd⟩ | ⟨-, hd, -⟩ := hrest
      · refine .inr ⟨?_, hopen, hd.trans hdone⟩
        rw [List.filter_append, hf, hc, List.filter_append, filter_raises,
          List.filter_cons_of_neg (by rw [he]; exact Bool.false_ne_true)]
        rfl
      · rw [hdone] at hd
        cases hd
    · have hnone : (w.choresOf e).1.filter Chore.endsWarmUp = [] := by
        rw [hc, List.filter_append, filter_raises,
          List.filter_cons_of_neg (by rw [he]; exact Bool.false_ne_true)]
        rfl
      rw [List.filter_append, hnone, List.nil_append, ← hsame]
      exact hrest

end WarmUp

namespace Session

variable {s s' : Session} {config : ClientConfig} {c c' : Connection}

/-- The chores that are still to end the warm-up. -/
def due (s : Session) : List Chore := s.telling.chores.filter Chore.endsWarmUp

/-- How often the end of the warm-up has been acknowledged. -/
def acknowledgements (s : Session) : Nat := s.told.countP Event.isAcknowledgement

/-- As long as the teller works, its warm-up has ended, or has not. -/
def WarmUpIs (s : Session) (isDone : Bool) : Prop :=
  ∀ w chores, s.telling = .working w chores → w.isDone = isDone

/-- How far the end of the warm-up has come: whether the teller has seen it, what is still to be
done, how often it has been acknowledged, and whether the opening call may return. -/
inductive Reached : Bool → List Chore → Nat → Bool → Prop
  | missing : Reached false [] 0 false
  | marking : Reached true [.connect, .tell .connectAck, .signal] 0 false
  | acknowledging : Reached true [.tell .connectAck, .signal] 0 false
  | signalling : Reached true [.signal] 1 false
  | passed : Reached true [] 1 true

/-- The end of the warm-up has come this far. -/
def InStage (s : Session) : Prop :=
  ∃ isDone, s.WarmUpIs isDone ∧ Reached isDone s.due s.acknowledgements s.isReady

namespace Reached

variable {isDone isReady : Bool} {chore : Chore} {due : List Chore} {acknowledgements : Nat}

/-- There is one way on from each stage. -/
theorem next (h : Reached isDone (chore :: due) acknowledgements isReady) :
    chore = .connect ∧ Reached isDone due acknowledgements isReady ∨
      chore = .tell .connectAck ∧ Reached isDone due (acknowledgements + 1) isReady ∨
      chore = .signal ∧ Reached isDone due acknowledgements true := by
  cases h with
  | marking => exact .inl ⟨rfl, .acknowledging⟩
  | acknowledging => exact .inr (.inl ⟨rfl, .signalling⟩)
  | signalling => exact .inr (.inr ⟨rfl, .passed⟩)

theorem le_one (h : Reached isDone due acknowledgements isReady) : acknowledgements ≤ 1 := by
  cases h <;> decide

/-- The opening call may return only when all is done. -/
theorem of_isReady (h : Reached isDone due acknowledgements true) :
    isDone = true ∧ due = [] ∧ acknowledgements = 1 := by
  cases h
  exact ⟨rfl, rfl, rfl⟩

/-- With the acknowledgement, all but the last step is done. -/
theorem of_acknowledged (h : Reached isDone due 1 isReady) :
    isDone = true ∧ .connect ∉ due ∧ .tell .connectAck ∉ due := by
  cases h with
  | signalling => exact ⟨rfl, by simp, by simp⟩
  | passed => exact ⟨rfl, List.not_mem_nil, List.not_mem_nil⟩

/-- The mark is the first step, and is made once. -/
theorem of_marking (h : Reached isDone (.connect :: due) acknowledgements isReady) :
    acknowledgements = 0 ∧ isDone = true ∧ .connect ∉ due := by
  cases h
  exact ⟨rfl, rfl, by simp⟩

theorem start_ending (h : Reached false due acknowledgements isReady) :
    Reached true WarmUp.ending acknowledgements isReady := by
  cases h
  exact .marking

end Reached

theorem acknowledgements_of_told {own : List Event} (ht : s'.told = s.told ++ own)
    (hown : ∀ e ∈ own, e ≠ .connectAck) : s'.acknowledgements = s.acknowledgements := by
  have hnone : own.countP Event.isAcknowledgement = 0 := by
    refine List.countP_eq_zero.mpr fun e he => ?_
    rw [Event.isAcknowledgement_eq_false (hown e he)]
    exact Bool.false_ne_true
  rw [acknowledgements, ht, List.countP_append, hnone]
  rfl

theorem due_of_working {warmUp : WarmUp} {chores : List Chore}
    (h : s.telling = .working warmUp chores) : s.due = chores.filter Chore.endsWarmUp := by
  rw [due, h]
  rfl

theorem warmUpIs_working {warmUp : WarmUp} {chores : List Chore} {isDone : Bool}
    (h : s.telling = .working warmUp chores) (hd : warmUp.isDone = isDone) :
    s.WarmUpIs isDone := by
  intro w chores' hw
  rw [h] at hw
  cases hw
  exact hd

/-- A chore that does not end the warm-up leaves the stage as it is. -/
theorem perform_apart {chore : Chore} (h : chore.endsWarmUp = false) :
    (s.perform chore).acknowledgements = s.acknowledgements ∧
      (s.perform chore).isReady = s.isReady := by
  cases chore with
  | raise id => exact ⟨rfl, rfl⟩
  | tell e =>
    refine ⟨acknowledgements_of_told (told_perform s (.tell e)) ?_, rfl⟩
    rintro _ (_ | ⟨_, ⟨⟩⟩) rfl
    cases h
  | connect => cases h
  | signal => cases h

theorem InStage.of_perform {warmUp : WarmUp} {chore : Chore} {chores : List Chore}
    (hs : s.InStage) (busy : s.telling = .working warmUp (chore :: chores)) :
    InStage { s.perform chore with telling := .working warmUp chores } := by
  obtain ⟨isDone, hwarm, hr⟩ := hs
  refine ⟨isDone, warmUpIs_working rfl (hwarm _ _ busy), ?_⟩
  rw [due_of_working busy] at hr
  change Reached isDone (chores.filter Chore.endsWarmUp) (s.perform chore).acknowledgements
    (s.perform chore).isReady
  cases hc : chore.endsWarmUp with
  | false =>
    obtain ⟨hacks, hready⟩ := s.perform_apart hc
    rw [hacks, hready]
    rwa [List.filter_cons_of_neg (by rw [hc]; exact Bool.false_ne_true)] at hr
  | true =>
    rw [List.filter_cons_of_pos hc] at hr
    obtain ⟨rfl, hn⟩ | ⟨rfl, hn⟩ | ⟨rfl, hn⟩ := hr.next
    · exact hn
    · have hacks : (s.perform (.tell .connectAck)).acknowledgements = s.acknowledgements + 1 := by
        rw [acknowledgements, told_perform, List.countP_append]
        rfl
      rw [hacks]
      exact hn
    · exact hn

theorem InStage.of_take {warmUp : WarmUp} {payload : List UInt8} {frames : List (List UInt8)}
    (hs : s.InStage) (idle : s.telling = .working warmUp []) :
    InStage { s with frames, telling := s.tellingOfFrame warmUp payload } := by
  obtain ⟨isDone, hwarm, hr⟩ := hs
  have hdone := hwarm _ _ idle
  rw [due_of_working idle, List.filter_nil] at hr
  have hack := (Record.ne_of_mem_eventsIn s.server.version [payload]).1
  have ht := s.tellingOfFrame_eq warmUp payload
  obtain ⟨hnone, hsame⟩ | ⟨hall, hopen, hend⟩ := WarmUp.filter_chores hack warmUp
  · refine ⟨isDone, warmUpIs_working ht (hsame.trans hdone), ?_⟩
    rw [due_of_working ht, hnone]
    exact hr
  · refine ⟨true, warmUpIs_working ht hend, ?_⟩
    rw [due_of_working ht, hall]
    rw [← hdone, hopen] at hr
    exact hr.start_ending

theorem Idles.warmUpIs {own : List Event} {isDone : Bool} (h : s.Idles s' own)
    (hw : s.WarmUpIs isDone) : s'.WarmUpIs isDone :=
  fun w chores ht => hw w chores (h.working ht)

/-- No step leaves the stages, or goes back. -/
theorem InStage.of_works {m : Move} (hs : s.InStage) (h : s.Works m s') : s'.InStage := by
  cases h with
  | perform busy => exact hs.of_perform busy
  | take idle => exact hs.of_take idle
  | rest idles =>
    obtain ⟨isDone, hwarm, hr⟩ := hs
    have hacks := acknowledgements_of_told idles.told fun e he =>
      (idles.incidental e he).ne_connectAck
    refine ⟨isDone, idles.warmUpIs hwarm, ?_⟩
    rw [due, idles.chores_eq, hacks, idles.ready]
    exact hr

theorem inStage_of_start (h : start config c = (.done s, c')) : s.InStage := by
  obtain ⟨_, _, _, -, -, -, -, -, hs⟩ := start_eq_done h
  rw [hs]
  exact ⟨false, warmUpIs_working rfl rfl, .missing⟩

theorem InStage.run (hs : s.InStage) (moves : List Move) : (s.run moves).InStage :=
  run_of_steps (fun _ _ _ h hs => hs.of_works h.works) hs moves

end Session

/-! ### What the warm-up waits for -/

/-- An event that the warm-up waits for. -/
inductive Event.Awaited : Event → Prop
  | nextValidId (id : Int32) : Awaited (.nextValidId id)
  | managedAccounts (accounts : List String) : Awaited (.managedAccounts accounts)

theorem Event.Incidental.not_awaited {e : Event} (h : e.Incidental) : ¬e.Awaited := by
  intro ha
  cases ha with
  | nextValidId id => exact h.ne_nextValidId id rfl
  | managedAccounts accounts => exact h.ne_managedAccounts accounts rfl

theorem Event.not_awaited_connectAck : ¬Event.connectAck.Awaited := nofun

theorem SeenBoth.mono {es es' : List Event} (h : SeenBoth es)
    (hs : ∀ e, e.Awaited → e ∈ es → e ∈ es') : SeenBoth es' := by
  obtain ⟨⟨id, hi⟩, accounts, ha⟩ := h
  exact ⟨⟨id, hs _ (.nextValidId id) hi⟩, accounts, hs _ (.managedAccounts accounts) ha⟩

namespace WarmUp

variable {w : WarmUp} {past past' : List Event}

/-- A warm-up recalls only what it waits for. -/
theorem Recalls.congr (h : w.Recalls past) (hs : ∀ e, e.Awaited → (e ∈ past ↔ e ∈ past')) :
    w.Recalls past' where
  sawId := h.sawId.trans (exists_congr fun id => hs _ (.nextValidId id))
  sawAccounts := h.sawAccounts.trans (exists_congr fun accounts => hs _ (.managedAccounts accounts))
  isDone := h.isDone.trans
    ⟨fun hb => hb.mono fun e he => (hs e he).mp, fun hb => hb.mono fun e he => (hs e he).mpr⟩

theorem Recalls.choresOf (h : w.Recalls past) (e : Event) :
    (w.choresOf e).2.Recalls (past ++ [e]) := by
  by_cases hp : SeenBoth past
  · exact (h.choresOf_other e (.inl hp)).2
  · by_cases hb : SeenBoth (past ++ [e])
    · exact (h.choresOf_last hp hb).2
    · exact (h.choresOf_other e (.inr hb)).2

/-- The chores of an event tell it, and perhaps the acknowledgement. -/
theorem told_choresOf (w : WarmUp) (e : Event) :
    ∃ own, (w.choresOf e).1.filterMap Chore.event? = e :: own ∧ ∀ e' ∈ own, e' = .connectAck := by
  have hraises : e.raises.filterMap Chore.event? = [] := by
    refine List.filterMap_eq_nil_iff.mpr fun chore hm => ?_
    obtain ⟨id, -, rfl⟩ := Event.exists_of_mem_raises hm
    rfl
  obtain ⟨hc, -⟩ | ⟨hc, -⟩ := w.choresOf_cases e
  · refine ⟨[.connectAck], ?_, fun e' he => List.mem_singleton.mp he⟩
    rw [hc, List.filterMap_append, hraises]
    rfl
  · refine ⟨[], ?_, fun e' he => absurd he List.not_mem_nil⟩
    rw [hc, List.filterMap_append, hraises]
    rfl

/-- When the chores of some events have been done, the warm-up is right about what has been told. -/
theorem Recalls.chores (h : w.Recalls past) (es : List Event) :
    (w.chores es).2.Recalls (past ++ (w.chores es).1.filterMap Chore.event?) := by
  induction es generalizing w past with
  | nil =>
    rw [WarmUp.chores, List.filterMap_nil, List.append_nil]
    exact h
  | cons e es ih =>
    obtain ⟨own, ht, hown⟩ := w.told_choresOf e
    have hrest := ih (h.choresOf e)
    refine hrest.congr fun e' he => ?_
    have hne : e' ∉ own := by
      intro hm
      rw [hown e' hm] at he
      exact Event.not_awaited_connectAck he
    change _ ↔ e' ∈ past ++ ((w.choresOf e).1 ++ ((w.choresOf e).2.chores es).1).filterMap _
    rw [List.filterMap_append, ht]
    simp only [List.mem_append, List.mem_cons, hne, or_false, or_assoc,
      List.not_mem_nil]

/-- When the link is to be marked, both events that the warm-up waits for have been told. -/
theorem Recalls.seenBoth_of_connect (h : w.Recalls past) {es : List Event}
    {before after : List Chore} (hc : (w.chores es).1 = before ++ .connect :: after) :
    SeenBoth (past ++ before.filterMap Chore.event?) := by
  obtain ⟨first, e, rest, own, more, rfl, hown, rfl⟩ := exists_of_chores hc
  have hraises : .connect ∉ e.raises ++ [.tell e] := by
    rintro hm
    obtain hm | hm := List.mem_append.mp hm
    · obtain ⟨id, -, hc⟩ := Event.exists_of_mem_raises hm
      cases hc
    · cases List.mem_singleton.mp hm
  have hfirst := h.chores first
  have hdone := (hfirst.choresOf e).isDone
  obtain ⟨hall, -, hd⟩ | ⟨hall, -⟩ := (w.chores first).2.choresOf_cases e
  · -- the chores of the event are told apart by the only place of the mark
    have hsplit : (e.raises ++ [.tell e]) ++ .connect :: [.tell .connectAck, .signal]
        = own ++ .connect :: more := by
      rw [← hown, hall, List.append_assoc]
      rfl
    obtain ⟨rfl, -⟩ := (List.append_cons_inj_of_notMem hraises (by simp)).mp hsplit
    refine (hdone.mp hd).mono fun e' he hm => ?_
    rw [List.filterMap_append, ← List.append_assoc, List.filterMap_append]
    obtain hm | hm := List.mem_append.mp hm
    · exact List.mem_append_left _ hm
    · exact List.mem_append_right _ (List.mem_append_right _ hm)
  · rw [hall] at hown
    rw [hown] at hraises
    exact absurd (List.mem_append_right _ (List.mem_cons_self ..)) hraises

end WarmUp

namespace Session

variable {s s' : Session} {config : ClientConfig} {c c' : Connection}

/-- The teller is right about what has been told when its chores are done; and when it marks the
link, both events that the warm-up waits for have been told. -/
structure Remembers (s : Session) : Prop where
  recalls : ∀ w chores, s.telling = .working w chores →
    w.Recalls (s.told ++ chores.filterMap Chore.event?)
  marks : ∀ before after, s.telling.chores = before ++ .connect :: after →
    SeenBoth (s.told ++ before.filterMap Chore.event?)

theorem Remembers.of_works {m : Move} (hs : s.Remembers) (h : s.Works m s') : s'.Remembers := by
  cases h with
  | @perform warmUp chore chores busy =>
    have htold : ∀ rest : List Chore,
        (s.perform chore).told ++ rest.filterMap Chore.event?
          = s.told ++ (chore :: rest).filterMap Chore.event? := by
      intro rest
      rw [told_perform, List.append_assoc, ← List.filterMap_append]
      rfl
    constructor
    · intro w rest ht
      cases ht
      change warmUp.Recalls ((s.perform chore).told ++ _)
      rw [htold]
      exact hs.recalls _ _ busy
    · intro before after hc
      change SeenBoth ((s.perform chore).told ++ _)
      rw [htold]
      refine hs.marks _ after ?_
      rw [busy]
      exact congrArg (chore :: ·) hc
  | @take warmUp payload frames idle queued =>
    have hpast := hs.recalls _ _ idle
    rw [List.filterMap_nil, List.append_nil] at hpast
    have htelling := s.tellingOfFrame_eq warmUp payload
    constructor
    · intro w rest ht
      dsimp only at ht
      rw [htelling] at ht
      cases ht
      exact hpast.chores _
    · intro before after hc
      dsimp only at hc
      rw [htelling] at hc
      exact hpast.seenBoth_of_connect hc
  | @rest _ _ own idles =>
    constructor
    · intro w chores ht
      refine (hs.recalls w chores (idles.working ht)).congr fun e he => ?_
      have hne : e ∉ own := fun hm => (idles.incidental e hm).not_awaited he
      rw [idles.told]
      simp only [List.mem_append, hne, or_false]
    · intro before after hc
      rw [idles.chores_eq] at hc
      refine (hs.marks before after hc).mono fun e _ hm => ?_
      rw [idles.told, List.append_assoc]
      obtain hm | hm := List.mem_append.mp hm
      · exact List.mem_append_left _ hm
      · exact List.mem_append_right _ (List.mem_append_right _ hm)

theorem remembers_of_start (h : start config c = (.done s, c')) : s.Remembers := by
  obtain ⟨_, _, _, -, -, -, -, -, hs⟩ := start_eq_done h
  rw [hs]
  constructor
  · intro w chores ht
    cases ht
    exact WarmUp.recalls_nil
  · intro before after hc
    exact absurd hc.symm (List.append_ne_nil_of_right_ne_nil _ (List.cons_ne_nil _ _))

theorem Remembers.run (hs : s.Remembers) (moves : List Move) : (s.run moves).Remembers :=
  run_of_steps (fun _ _ _ h hs => hs.of_works h.works) hs moves

end Session
end BrokerLink

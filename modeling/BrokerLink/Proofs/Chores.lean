import BrokerLink.Proofs.StillToTell

/-!
# Chores

What the teller has to do changes in two ways only: it does the first of its chores, or it
takes a frame when there are none left. With every other step its chores stay as they are,
or it ends without any, and what is told is told on account of no frame (`Idles`).
-/

namespace BrokerLink

/-- What the teller has to do before it looks for anything new. -/
def Telling.chores : Telling → List Chore
  | working _ chores => chores
  | _ => []

/-- An event that is told on account of no frame, and does not end the warm-up either. -/
inductive Event.Incidental : Event → Prop
  | fault (e : LinkError) : Incidental (.ofError e)
  | closed : Incidental .connectionClosed

theorem Event.Incidental.eq {e : Event} (h : e.Incidental) :
    (∃ id code message, e = .error id code message) ∨ e = .connectionClosed := by
  cases h with
  | fault error => cases error <;> exact .inl ⟨_, _, _, rfl⟩
  | closed => exact .inr rfl

theorem Event.Incidental.ne_connectAck {e : Event} (h : e.Incidental) : e ≠ .connectAck := by
  obtain ⟨id, code, message, rfl⟩ | rfl := h.eq <;> exact Event.noConfusion

theorem Event.Incidental.ne_nextValidId {e : Event} (h : e.Incidental) (id : Int32) :
    e ≠ .nextValidId id := by
  obtain ⟨id, code, message, rfl⟩ | rfl := h.eq <;> exact Event.noConfusion

theorem Event.Incidental.ne_managedAccounts {e : Event} (h : e.Incidental)
    (accounts : List String) : e ≠ .managedAccounts accounts := by
  obtain ⟨id, code, message, rfl⟩ | rfl := h.eq <;> exact Event.noConfusion

/-- What comes before a next valid id is told. -/
def Event.raises : Event → List Chore
  | .nextValidId id => [.raise id]
  | _ => []

theorem Event.exists_of_mem_raises {e : Event} {chore : Chore} (h : chore ∈ e.raises) :
    ∃ id, e = .nextValidId id ∧ chore = .raise id := by
  unfold raises at h
  split at h
  · exact ⟨_, rfl, List.mem_singleton.mp h⟩
  · cases h

/-- What the teller does at the end of the warm-up. -/
def WarmUp.ending : List Chore := [.connect, .tell .connectAck, .signal]

/-- The chores of an event end the warm-up, unless it has ended or something is still missing. -/
theorem WarmUp.choresOf_cases (w : WarmUp) (e : Event) :
    (w.choresOf e).1 = e.raises ++ .tell e :: ending ∧ w.isDone = false ∧
      (w.choresOf e).2.isDone = true ∨
    (w.choresOf e).1 = e.raises ++ [.tell e] ∧ (w.choresOf e).2.isDone = w.isDone := by
  unfold choresOf
  dsimp only
  split
  · rename_i h
    simp only [Bool.and_eq_true, Bool.not_eq_true'] at h
    exact .inl ⟨rfl, h.1, rfl⟩
  · exact .inr ⟨rfl, w.isDone_observe e⟩

/-- Each of the chores of some events is a chore of one of them, behind those of the events before
it. -/
theorem WarmUp.exists_of_chores {w : WarmUp} {es : List Event} {before after : List Chore}
    {chore : Chore} (h : (w.chores es).1 = before ++ chore :: after) :
    ∃ first e rest own more, es = first ++ e :: rest ∧
      ((w.chores first).2.choresOf e).1 = own ++ chore :: more ∧
      before = (w.chores first).1 ++ own := by
  induction es generalizing w before with
  | nil =>
    rw [chores] at h
    exact absurd h.symm (List.append_ne_nil_of_right_ne_nil _ (List.cons_ne_nil _ _))
  | cons e es ih =>
    change (w.choresOf e).1 ++ ((w.choresOf e).2.chores es).1 = _ at h
    have later {between : List Chore} (hb : before = (w.choresOf e).1 ++ between)
        (ha : ((w.choresOf e).2.chores es).1 = between ++ chore :: after) :
        ∃ first e' rest own more, e :: es = first ++ e' :: rest ∧
          ((w.chores first).2.choresOf e').1 = own ++ chore :: more ∧
          before = (w.chores first).1 ++ own := by
      obtain ⟨first, e', rest, own, more, rfl, hc, rfl⟩ := ih ha
      refine ⟨e :: first, e', rest, own, more, rfl, hc, ?_⟩
      rw [hb, ← List.append_assoc]
      rfl
    obtain ⟨between, hb, ha⟩ | ⟨between, hb, ha⟩ := List.append_eq_append_iff.mp h
    · exact later hb ha
    · cases between with
      | nil =>
        rw [List.append_nil] at hb
        exact @later [] (by rw [hb, List.append_nil]) ha.symm
      | cons chore' between =>
        cases ha
        exact ⟨[], e, es, before, between, rfl, hb, rfl⟩

namespace Session

variable {s s' : Session}

/-- The teller does not get on with its chores, and tells these events, if any. -/
structure Idles (s s' : Session) (own : List Event) : Prop where
  told : s'.told = s.told ++ own
  incidental : ∀ e ∈ own, e.Incidental
  telling : s'.telling = s.telling ∨
    s.telling.chores = [] ∧ (s'.telling = .closing ∨ s'.telling = .ended)
  ready : s'.isReady = s.isReady

/-- The moves of a session, by what they do to the chores of the teller. -/
inductive Works (s : Session) : Move → Session → Prop
  | perform {warmUp : WarmUp} {chore : Chore} {chores : List Chore}
      (busy : s.telling = .working warmUp (chore :: chores)) :
      Works s .teller { s.perform chore with telling := .working warmUp chores }
  | take {warmUp : WarmUp} {payload : List UInt8} {frames : List (List UInt8)}
      (idle : s.telling = .working warmUp []) (queued : s.frames = payload :: frames) :
      Works s .teller { s with frames, telling := s.tellingOfFrame warmUp payload }
  | rest {m : Move} {s' : Session} {own : List Event} (idles : s.Idles s' own) : Works s m s'

namespace Idles

/-- Nothing is told that could be seen in the log. -/
theorem quiet (ht : s'.telling = s.telling) (hl : s'.log = s.log)
    (hr : s'.isReady = s.isReady) : s.Idles s' [] where
  told := by rw [Session.told, hl, List.append_nil]; rfl
  incidental _ h := absurd h List.not_mem_nil
  telling := .inl ht
  ready := hr

/-- What is reported is no event. -/
theorem reporting {r : Report} (hr : r.event? = none) : s.Idles (s.report r) [] where
  told := by rw [told_report, List.filterMap_cons_none hr]; rfl
  incidental _ h := absurd h List.not_mem_nil
  telling := .inl rfl
  ready := rfl

theorem telling_own {e : Event} (he : e.Incidental) : s.Idles (s.tell e) [e] where
  told := told_report s (.told e)
  incidental := by
    rintro _ (_ | ⟨_, ⟨⟩⟩)
    exact he
  telling := .inl rfl
  ready := rfl

theorem reject (s : Session) (caller : Nat) (e : LinkError) :
    s.Idles (s.reject caller e) [.ofError e] :=
  { telling_own (.fault e) with
    told := by
      change ((s.tell (.ofError e)).report (.rejected caller e)).told = _
      rw [told_report, tell, told_report]
      exact List.append_nil _ }

theorem of_listens (h : s.Listens s') : s.Idles s' [] := by
  cases h with
  | receives step => cases step <;> exact .quiet rfl rfl rfl
  | stop => exact .quiet rfl rfl rfl

theorem of_sends (h : s.Sends s') : s.Idles s' [] := by
  cases h <;> exact .quiet rfl rfl rfl

theorem of_opens (h : s.Opens s') : s.Idles s' [] := by
  cases h with
  | succeed => exact { reporting (s := s) (r := .opened) rfl with }
  | fail => exact .quiet rfl rfl rfl
  | mark => exact .quiet rfl rfl rfl
  | stop => exact .quiet rfl rfl rfl
  | @giveUp _ e => exact { reporting (s := s) (r := .openFailed e) rfl with }

/-- A teller that goes on working has been at the same work before. -/
theorem working {own : List Event} {warmUp : WarmUp} {chores : List Chore} (h : s.Idles s' own)
    (ht : s'.telling = .working warmUp chores) : s.telling = .working warmUp chores := by
  obtain hsame | ⟨-, hc | he⟩ := h.telling
  · exact hsame.symm.trans ht
  · rw [hc] at ht
    cases ht
  · rw [he] at ht
    cases ht

theorem chores_eq {own : List Event} (h : s.Idles s' own) :
    s'.telling.chores = s.telling.chores := by
  obtain hsame | ⟨hnone, hc | he⟩ := h.telling
  · rw [hsame]
  · rw [hnone, hc]
    rfl
  · rw [hnone, he]
    rfl

end Idles

/-- What lets the opening call return is never taken back. -/
theorem Works.isReady {m : Move} (h : s.Works m s') (hr : s.isReady = true) :
    s'.isReady = true := by
  cases h with
  | @perform _ chore =>
    cases chore with
    | raise => exact hr
    | tell => exact hr
    | connect => exact hr
    | signal => rfl
  | take => exact hr
  | rest idles => exact idles.ready.trans hr

theorem works_of_speaks (h : s.Speaks s') : s.Works .teller s' := by
  cases h with
  | tells step =>
    cases step with
    | perform busy => exact .perform busy
    | take idle queued => exact .take idle queued
    | close idle =>
      have hc : s.telling.chores = [] := by rw [idle]; rfl
      exact .rest { Idles.quiet (s := s) rfl rfl rfl with telling := .inr ⟨hc, .inl rfl⟩ }
    | finish closing =>
      have hc : s.telling.chores = [] := by rw [closing]; rfl
      exact .rest { Idles.telling_own (s := s) .closed with telling := .inr ⟨hc, .inr rfl⟩ }
  | @complain _ notice => exact .rest { Idles.telling_own (s := s) (.fault notice) with }
  | stop idle =>
    have hc : s.telling.chores = [] := by rw [idle]; rfl
    exact .rest { Idles.quiet (s := s) rfl rfl rfl with telling := .inr ⟨hc, .inr rfl⟩ }

/-- Every step is one of these. -/
theorem Step.works {m : Move} (h : s.Step m s') : s.Works m s' := by
  cases h with
  | stay => exact .rest (.quiet rfl rfl rfl)
  | receiver step => exact .rest (.of_listens step)
  | teller step => exact works_of_speaks step
  | sender step => exact .rest (.of_sends step)
  | opener step => exact .rest (.of_opens step)
  | timeOut => exact .rest (.quiet rfl rfl rfl)
  | refuse => exact .rest (.reject s _ _)
  | hold => exact .rest (.quiet rfl rfl rfl)
  | @accept caller bytes =>
    exact .rest { Idles.reporting (s := s) (r := .accepted caller bytes) rfl with }
  | @giveUp caller =>
    exact .rest { Idles.reporting (s := s) (r := .rejected caller .queueFull) rfl with }
  | @draw caller =>
    exact .rest { Idles.reporting (s := s) (r := .drew caller s.nextId) rfl with }
  | disconnect => exact .rest (.quiet rfl rfl rfl)
  | mark => exact .rest (.quiet rfl rfl rfl)
  | signal => exact .rest (.quiet rfl rfl rfl)
  | @leave caller => exact .rest { Idles.reporting (s := s) (r := .stopped caller) rfl with }
  | @join caller => exact .rest { Idles.reporting (s := s) (r := .stopped caller) rfl with }
  | peerSends => exact .rest (.quiet rfl rfl rfl)
  | peerCloses => exact .rest (.quiet rfl rfl rfl)

end Session
end BrokerLink

import BrokerLink.Proofs.Chores
import BrokerLink.Proofs.Delivery

/-!
# Drawn ids

Two kinds of steps touch the next id: the teller raises it when a next valid id is to be told,
and callers draw it, which takes it one further. Whatever happens in between, the ids in a run
follow one count (`Counts`). It goes up with every draw, as long as the greatest id there is has
not been drawn; behind that id the count goes round, and ids come again.
-/

namespace BrokerLink

/-- There is a greater number behind every number but the greatest. -/
theorem lt_add_one_of_ne_maxValue {n : Int32} (h : n ≠ Int32.maxValue) : n < n + 1 := by
  have hn : n.toInt ≠ 2147483647 := mt (@Int32.toInt_inj n Int32.maxValue).mp h
  have hlt := Int32.toInt_lt n
  have hge := Int32.le_toInt n
  have hone : (1 : Int32).toInt = 1 := by decide
  rw [Int32.lt_iff_toInt_lt, Int32.toInt_add, hone, Int.bmod_eq_of_le] <;> omega

/-- What is done with the next id. -/
inductive IdUse where
  /-- It is made no less than this one. -/
  | raised (id : Int32)
  | drawn (id : Int32)
  deriving DecidableEq, Repr

namespace IdUse

def drawn? : IdUse → Option Int32
  | drawn id => some id
  | raised _ => none

/-- An id that is drawn is no less than those that have been raised before, and greater than those
that have been drawn before. -/
def Precedes : IdUse → IdUse → Prop
  | raised a, drawn b => a ≤ b
  | drawn a, drawn b => a < b
  | _, raised _ => True

/-- What is done with an id, in order, beginning with one next id and ending with another. -/
inductive Counts : Int32 → List IdUse → Int32 → Prop
  | done (n : Int32) : Counts n [] n
  | raise {n id last : Int32} {uses : List IdUse}
      (rest : Counts (if n < id then id else n) uses last) : Counts n (raised id :: uses) last
  | draw {n last : Int32} {uses : List IdUse} (rest : Counts (n + 1) uses last) :
      Counts n (drawn n :: uses) last

namespace Counts

variable {n middle last : Int32} {uses more : List IdUse}

theorem append (h : Counts n uses middle) (h' : Counts middle more last) :
    Counts n (uses ++ more) last := by
  induction h with
  | done => exact h'
  | raise rest ih => exact .raise (ih h')
  | draw rest ih => exact .draw (ih h')

/-- Unless the greatest id is drawn and another one behind it, the count only goes up: what is drawn
is no less than the next id at the beginning, and than all that has come before. -/
theorem precedes (h : Counts n uses last)
    (hmax : Int32.maxValue ∉ (uses.filterMap drawn?).dropLast) :
    (∀ id, drawn id ∈ uses → n ≤ id) ∧ uses.Pairwise Precedes := by
  induction h with
  | done => exact ⟨fun _ h => absurd h List.not_mem_nil, .nil⟩
  | @raise n id last uses rest ih =>
    obtain ⟨hge, hpw⟩ := ih hmax
    constructor
    · intro drew hd
      have hle := hge drew (by simpa using hd)
      grind
    · refine .cons (fun use hu => ?_) hpw
      cases use with
      | raised => trivial
      | drawn drew =>
        have hle := hge drew hu
        change id ≤ drew
        grind
  | @draw n last uses rest ih =>
    by_cases hlast : uses.filterMap drawn? = []
    · have hnone : ∀ id, drawn id ∉ uses := fun id hd => by
        have hm := List.mem_filterMap.mpr ⟨drawn id, hd, (rfl : drawn? (drawn id) = some id)⟩
        rw [hlast] at hm
        cases hm
      obtain ⟨-, hpw⟩ := ih (by rw [hlast]; exact List.not_mem_nil)
      constructor
      · intro id hd
        obtain h | h := List.mem_cons.mp hd
        · cases h
          exact Int32.le_refl n
        · exact absurd h (hnone id)
      · refine .cons (fun use hu => ?_) hpw
        cases use with
        | raised => trivial
        | drawn id => exact absurd hu (hnone id)
    · have hdrawn : (drawn n :: uses).filterMap drawn? = n :: uses.filterMap drawn? := rfl
      rw [hdrawn, List.dropLast_cons_of_ne_nil hlast, List.mem_cons, not_or] at hmax
      have hlt := lt_add_one_of_ne_maxValue (Ne.symm hmax.1)
      obtain ⟨hge, hpw⟩ := ih hmax.2
      have hgt : ∀ id, drawn id ∈ uses → n < id := fun id hd =>
        Int32.lt_of_lt_of_le hlt (hge id hd)
      constructor
      · intro id hd
        obtain h | h := List.mem_cons.mp hd
        · cases h
          exact Int32.le_refl n
        · exact Int32.le_of_lt (hgt id h)
      · refine .cons (fun use hu => ?_) hpw
        cases use with
        | raised => trivial
        | drawn id => exact hgt id hu

end Counts

/-- Of what is drawn in this order, each id is greater than those before. -/
theorem pairwise_drawn {uses : List IdUse} (h : uses.Pairwise Precedes) :
    (uses.filterMap drawn?).Pairwise (· < ·) := by
  refine List.Pairwise.filterMap _ (fun a b hp => ?_) h
  intro x hx y hy
  cases a <;> cases hx
  cases b <;> cases hy
  exact hp

end IdUse

/-- No number is greater than the greatest, so nothing comes behind it. -/
theorem maxValue_notMem_of_pairwise {ids : List Int32} (h : ids.Pairwise (· < ·)) :
    Int32.maxValue ∉ ids.dropLast := by
  intro hm
  cases hl : ids.getLast? with
  | none =>
    rw [List.getLast?_eq_none_iff.mp hl] at hm
    cases hm
  | some last =>
    rw [← List.dropLast_append_getLast? last hl] at h
    have hlt := (List.pairwise_append.mp h).2.2 _ hm last (List.mem_singleton_self _)
    exact absurd hlt (Int32.not_lt.mpr (Int32.le_maxValue last))

namespace Session

variable {s s' : Session} {config : ClientConfig} {c c' : Connection}

/-- The ids that have been drawn so far. -/
def drawn (s : Session) : List Int32 := s.log.filterMap Report.id?

/-- What a move does with the next id. -/
def idUse? (s : Session) : Move → Option IdUse
  | .teller =>
    match s.telling with
    | .working _ (.raise id :: _) => some (.raised id)
    | _ => none
  | .draw caller =>
    if s.opening.isDone && (s.calls caller).isNone then some (.drawn s.nextId) else none
  | _ => none

/-- What the moves of a run do with the next id. -/
def idUses (s : Session) : List Move → List IdUse
  | [] => []
  | m :: moves => (s.idUse? m).toList ++ (s.move m).idUses moves

theorem idUses_append (s : Session) (first second : List Move) :
    s.idUses (first ++ second) = s.idUses first ++ (s.run first).idUses second := by
  induction first generalizing s with
  | nil => rfl
  | cons m first ih => simp only [List.cons_append, idUses, ih, run_cons, List.append_assoc]

/-! ### A move and the next id -/

theorem idUse?_eq_some {m : Move} {use : IdUse} (h : s.idUse? m = some use) :
    (∃ warmUp id chores, m = .teller ∧ s.telling = .working warmUp (.raise id :: chores) ∧
      use = .raised id) ∨
    ∃ caller, m = .draw caller ∧ s.opening.isDone = true ∧ s.calls caller = none ∧
      use = .drawn s.nextId := by
  unfold idUse? at h
  split at h
  · split at h
    · rename_i warmUp id chores ht
      cases h
      exact .inl ⟨warmUp, id, chores, rfl, ht, rfl⟩
    · cases h
  · rename_i caller
    split at h
    · rename_i hf
      simp only [Bool.and_eq_true, Option.isNone_iff_eq_none] at hf
      cases h
      exact .inr ⟨caller, rfl, hf.1, hf.2, rfl⟩
    · cases h
  · cases h

/-- Every other step leaves the next id alone, and nothing is drawn with it. -/
theorem Step.nextId_eq {m : Move} (h : s.Step m s') (hn : s.idUse? m = none) :
    s'.nextId = s.nextId ∧ s'.drawn = s.drawn := by
  cases h with
  | stay => exact ⟨rfl, rfl⟩
  | receiver step =>
    cases step with
    | receives step => cases step <;> exact ⟨rfl, rfl⟩
    | stop => exact ⟨rfl, rfl⟩
  | teller step =>
    cases step with
    | tells step =>
      cases step with
      | @perform warmUp chore chores busy =>
        cases chore with
        | raise id =>
          rw [idUse?, busy] at hn
          cases hn
        | tell e => exact ⟨rfl, filterMap_report_of_none s rfl⟩
        | connect => exact ⟨rfl, rfl⟩
        | signal => exact ⟨rfl, rfl⟩
      | take => exact ⟨rfl, rfl⟩
      | close => exact ⟨rfl, rfl⟩
      | finish => exact ⟨rfl, filterMap_report_of_none s rfl⟩
    | complain => exact ⟨rfl, filterMap_report_of_none s rfl⟩
    | stop => exact ⟨rfl, rfl⟩
  | sender step => cases step <;> exact ⟨rfl, rfl⟩
  | opener step =>
    cases step with
    | succeed => exact ⟨rfl, filterMap_report_of_none s rfl⟩
    | fail => exact ⟨rfl, rfl⟩
    | mark => exact ⟨rfl, rfl⟩
    | stop => exact ⟨rfl, rfl⟩
    | giveUp => exact ⟨rfl, filterMap_report_of_none s rfl⟩
  | timeOut => exact ⟨rfl, rfl⟩
  | refuse => exact ⟨rfl, filterMap_reject_of_none s _ _ rfl rfl⟩
  | hold => exact ⟨rfl, rfl⟩
  | accept => exact ⟨rfl, filterMap_report_of_none s rfl⟩
  | giveUp => exact ⟨rfl, filterMap_report_of_none s rfl⟩
  | draw opened free =>
    rw [idUse?, opened, free] at hn
    cases hn
  | disconnect => exact ⟨rfl, rfl⟩
  | mark => exact ⟨rfl, rfl⟩
  | signal => exact ⟨rfl, rfl⟩
  | leave => exact ⟨rfl, filterMap_report_of_none s rfl⟩
  | join => exact ⟨rfl, filterMap_report_of_none s rfl⟩
  | peerSends => exact ⟨rfl, rfl⟩
  | peerCloses => exact ⟨rfl, rfl⟩

/-- A move counts as it says, and reports what it draws. -/
theorem counts_move (s : Session) (m : Move) :
    IdUse.Counts s.nextId (s.idUse? m).toList (s.move m).nextId ∧
      (s.move m).drawn = s.drawn ++ (s.idUse? m).toList.filterMap IdUse.drawn? := by
  cases hu : s.idUse? m with
  | none =>
    obtain ⟨hid, hd⟩ := (s.step m).nextId_eq hu
    rw [hid, hd]
    exact ⟨.done _, (List.append_nil _).symm⟩
  | some use =>
    obtain ⟨warmUp, id, chores, rfl, ht, rfl⟩ | ⟨caller, rfl, ho, hc, rfl⟩ := idUse?_eq_some hu
    · simp only [Session.move, move?, teller?, ht, Option.getD_some]
      exact ⟨.raise (.done _), (List.append_nil _).symm⟩
    · simp only [Session.move, move?, draw?, ho, hc, Option.isNone_none, Bool.and_self, if_true,
        Option.getD_some]
      exact ⟨.draw (.done _), filterMap_report Report.id? s (.drew caller s.nextId)⟩

theorem counts_run (s : Session) (moves : List Move) :
    IdUse.Counts s.nextId (s.idUses moves) (s.run moves).nextId ∧
      (s.run moves).drawn = s.drawn ++ (s.idUses moves).filterMap IdUse.drawn? := by
  induction moves generalizing s with
  | nil => exact ⟨.done _, (List.append_nil _).symm⟩
  | cons m moves ih =>
    obtain ⟨hm, hd⟩ := s.counts_move m
    obtain ⟨hms, hds⟩ := ih (s.move m)
    rw [run_cons, hds, hd, List.append_assoc, ← List.filterMap_append]
    exact ⟨hm.append hms, rfl⟩

end Session

/-! ### Raised before it is told -/

namespace WarmUp

/-- Only the chores of a next valid id tell it, and they begin with raising it. -/
theorem exists_of_tell_mem_choresOf {w : WarmUp} {e : Event} {id : Int32}
    (h : .tell (.nextValidId id) ∈ (w.choresOf e).1) :
    ∃ chores, (w.choresOf e).1 = .raise id :: chores := by
  have hraises : .tell (.nextValidId id) ∉ e.raises := fun hm => by
    obtain ⟨_, -, hc⟩ := Event.exists_of_mem_raises hm
    cases hc
  have hrest : ∃ rest, (w.choresOf e).1 = e.raises ++ .tell e :: rest ∧
      .tell (.nextValidId id) ∉ rest := by
    obtain ⟨hc, -⟩ | ⟨hc, -⟩ := w.choresOf_cases e
    · exact ⟨ending, hc, by simp [ending]⟩
    · exact ⟨[], hc, List.not_mem_nil⟩
  obtain ⟨rest, hc, hrest⟩ := hrest
  rw [hc] at h ⊢
  obtain h | h := List.mem_cons.mp ((List.mem_append.mp h).resolve_left hraises)
  · cases h
    exact ⟨_, rfl⟩
  · exact absurd h hrest

/-- Among the chores of some events, a next valid id is raised before it is told. -/
theorem raise_mem_of_chores {w : WarmUp} {es : List Event} {before after : List Chore} {id : Int32}
    (h : (w.chores es).1 = before ++ .tell (.nextValidId id) :: after) : .raise id ∈ before := by
  obtain ⟨first, e, rest, own, more, rfl, hown, rfl⟩ := exists_of_chores h
  have hmem : .tell (.nextValidId id) ∈ ((w.chores first).2.choresOf e).1 := by
    rw [hown]
    exact List.mem_append_right _ (List.mem_cons_self ..)
  obtain ⟨chores, hc⟩ := exists_of_tell_mem_choresOf hmem
  rw [hc] at hown
  cases own with
  | nil => cases hown
  | cons chore own =>
    cases hown
    exact List.mem_append_right _ (List.mem_cons_self ..)

end WarmUp

namespace Session

variable {s s' : Session} {config : ClientConfig} {c c' : Connection}

/-- Every next valid id that has been told has been raised before, and every one that is to be told
has been or is to be raised before. -/
structure Announced (s : Session) (uses : List IdUse) : Prop where
  told : ∀ id, .nextValidId id ∈ s.told → .raised id ∈ uses
  due : ∀ before id after, s.telling.chores = before ++ .tell (.nextValidId id) :: after →
    .raised id ∈ uses ∨ .raise id ∈ before

theorem Announced.of_works {m : Move} {uses : List IdUse} (ha : s.Announced uses)
    (h : s.Works m s') : s'.Announced (uses ++ (s.idUse? m).toList) := by
  cases h with
  | @perform warmUp chore chores busy =>
    have hdue : ∀ before id after,
        chore :: chores = before ++ .tell (.nextValidId id) :: after →
        .raised id ∈ uses ∨ .raise id ∈ before := by
      intro before id after heq
      refine ha.due before id after ?_
      rw [busy]
      exact heq
    constructor
    · intro id ht
      change .nextValidId id ∈ (s.perform chore).told at ht
      rw [told_perform, List.mem_append] at ht
      obtain ht | ht := ht
      · exact List.mem_append_left _ (ha.told id ht)
      · cases chore with
        | tell e =>
          obtain rfl := List.mem_singleton.mp ht
          obtain hr | hr := hdue [] id chores rfl
          · exact List.mem_append_left _ hr
          · cases hr
        | raise => cases ht
        | connect => cases ht
        | signal => cases ht
    · intro before id after heq
      change chores = _ at heq
      obtain hr | hr := hdue (chore :: before) id after (by rw [heq]; rfl)
      · exact .inl (List.mem_append_left _ hr)
      · obtain rfl | hr := List.mem_cons.mp hr
        · left
          rw [idUse?, busy]
          exact List.mem_append_right _ (List.mem_singleton_self _)
        · exact .inr hr
  | @take warmUp payload frames idle queued =>
    constructor
    · intro id ht
      exact List.mem_append_left _ (ha.told id ht)
    · intro before id after heq
      right
      dsimp only at heq
      rw [tellingOfFrame_eq] at heq
      exact WarmUp.raise_mem_of_chores heq
  | @rest _ _ own idles =>
    constructor
    · intro id ht
      rw [idles.told, List.mem_append] at ht
      obtain ht | ht := ht
      · exact List.mem_append_left _ (ha.told id ht)
      · exact absurd rfl ((idles.incidental _ ht).ne_nextValidId id)
    · intro before id after heq
      rw [idles.chores_eq] at heq
      exact (ha.due before id after heq).imp_left (List.mem_append_left _)

theorem Announced.run {uses : List IdUse} (ha : s.Announced uses) (moves : List Move) :
    (s.run moves).Announced (uses ++ s.idUses moves) := by
  induction moves generalizing s uses with
  | nil =>
    rw [idUses, List.append_nil]
    exact ha
  | cons m moves ih =>
    rw [idUses, ← List.append_assoc]
    exact ih (ha.of_works (s.step m).works)

theorem announced_of_start (h : start config c = (.done s, c')) : s.Announced [] := by
  obtain ⟨_, _, _, -, -, -, -, -, hs⟩ := start_eq_done h
  rw [hs]
  constructor
  · intro id ht
    cases ht
  · intro before id after heq
    exact absurd heq.symm (List.append_ne_nil_of_right_ne_nil _ (List.cons_ne_nil _ _))

/-- In every run, the ids that are drawn are each greater than those drawn before if and only if the
greatest id there is has not been drawn with another one behind it. Until then, each is also no less
than every next valid id that has been raised, or told, before; and all that are told have been
raised. -/
theorem drawn_ids_increase (h : start config c = (.done s, c')) (moves : List Move) :
    (s.run moves).drawn = (s.idUses moves).filterMap IdUse.drawn? ∧
    ((s.run moves).drawn.Pairwise (· < ·) ↔
      Int32.maxValue ∉ (s.run moves).drawn.dropLast) ∧
    (Int32.maxValue ∉ (s.run moves).drawn.dropLast →
      (s.idUses moves).Pairwise IdUse.Precedes) ∧
    ∀ before after id, moves = before ++ after → .nextValidId id ∈ (s.run before).told →
      .raised id ∈ s.idUses before ∧
        (Int32.maxValue ∉ (s.run moves).drawn.dropLast →
          ∀ later, .drawn later ∈ (s.run before).idUses after → id ≤ later) := by
  obtain ⟨_, _, _, -, -, -, -, -, hs⟩ := start_eq_done h
  have hnone : s.drawn = [] := by rw [hs]; rfl
  obtain ⟨hcounts, hdrawn⟩ := s.counts_run moves
  rw [hnone, List.nil_append] at hdrawn
  rw [hdrawn]
  have hprecedes := fun hmax => (hcounts.precedes hmax).2
  refine ⟨rfl, ⟨maxValue_notMem_of_pairwise, ?_⟩, hprecedes, ?_⟩
  · exact fun hmax => IdUse.pairwise_drawn (hprecedes hmax)
  · rintro before after id rfl ht
    have hraised : .raised id ∈ s.idUses before := ((announced_of_start h).run before).told id ht
    refine ⟨hraised, fun hmax later hlater => ?_⟩
    have hpw := hprecedes hmax
    rw [idUses_append, List.pairwise_append] at hpw
    exact hpw.2.2 _ hraised _ hlater

theorem drawn_ids_increase_twoCallers :
    ∃ s c', start {} greeted = (.done s, c') ∧
      (s.idUses (comesUp ++ [.draw 0, .draw 1, .draw 0])).Pairwise IdUse.Precedes ∧
      s.idUses (comesUp ++ [.draw 0, .draw 1, .draw 0])
        = [.raised 100, .drawn 100, .drawn 101, .drawn 102] := by
  obtain ⟨s, c', h, hs⟩ := start_greeted
  obtain ⟨hdrawn, -, hprecedes, -⟩ := drawn_ids_increase h (comesUp ++ [.draw 0, .draw 1, .draw 0])
  have huses : s.idUses (comesUp ++ [.draw 0, .draw 1, .draw 0])
      = [.raised 100, .drawn 100, .drawn 101, .drawn 102] := by
    rw [hs]
    decide +kernel
  refine ⟨s, c', h, hprecedes ?_, huses⟩
  rw [hdrawn, huses]
  decide

/-- The server sends the greatest id there is, and the accounts. Two ids are drawn, then the server
sends that id again, and one more is drawn. -/
def drawsBeyond : List Move :=
  .peerSends (framed ["9", "1", "2147483647"] ++ framed ["15", "1", "DU123"])
    :: (List.replicate 5 .receiver ++ List.replicate 8 .teller ++ [.opener, .draw 0, .draw 1])
    ++ .peerSends (framed ["9", "1", "2147483647"])
    :: (List.replicate 3 .receiver ++ List.replicate 3 .teller ++ [.draw 0])

/-- Behind the greatest id comes the least, and an id can come again. -/
theorem drawn_ids_go_round :
    ∃ s c', start {} greeted = (.done s, c') ∧
      s.idUses drawsBeyond = [.raised 2147483647, .drawn 2147483647, .drawn (-2147483648),
        .raised 2147483647, .drawn 2147483647] ∧
      (s.run drawsBeyond).drawn = [2147483647, -2147483648, 2147483647] ∧
      ¬(s.run drawsBeyond).drawn.Pairwise (· < ·) ∧ ¬(s.run drawsBeyond).drawn.Nodup := by
  obtain ⟨s, c', h, hs⟩ := start_greeted
  have huses : s.idUses drawsBeyond = [.raised 2147483647, .drawn 2147483647,
      .drawn (-2147483648), .raised 2147483647, .drawn 2147483647] := by
    rw [hs]
    decide +kernel
  have hdrawn : (s.run drawsBeyond).drawn = [2147483647, -2147483648, 2147483647] := by
    rw [hs]
    decide +kernel
  refine ⟨s, c', h, huses, hdrawn, ?_, ?_⟩
  · rw [hdrawn]
    decide
  · rw [hdrawn]
    decide

end Session
end BrokerLink

import BrokerLink.Proofs.Outgoing
import Mathlib.Data.List.Forall2

/-!
# The order of answers

A caller submits one thing at a time, so that the answers it gets are those to what it had
built, one for one and in the same order; what has no answer yet is the frame that waits to
be queued. In particular the frames that are accepted of one caller were built in the order
in which they are accepted.
-/

namespace BrokerLink
namespace Session

variable {s s' : Session} {caller : Nat} {m : Move}

/-- What a caller has built in the course of a run. -/
def issued (s : Session) (caller : Nat) : List Move → List (Except LinkError (List UInt8))
  | [] => []
  | m :: moves => s.issues caller m ++ (s.move m).issued caller moves

/-- What a caller has built and not been answered yet. -/
def awaited (s : Session) (caller : Nat) : List (Except LinkError (List UInt8)) :=
  (s.pending caller).toList.map .ok

def answersTo (s : Session) (caller : Nat) : List (Except LinkError (List UInt8)) :=
  (s.answers.filter fun answer => answer.1 = caller).map Prod.snd

/-- A frame is only returned if it was built. -/
def Fits (built answer : Except LinkError (List UInt8)) : Prop :=
  ∀ bytes, answer = .ok bytes → built = .ok bytes

/-- What a caller awaited before, and what it has built since, is what it awaits now and what it was
answered in between, in this order. -/
def Settles (s s' : Session) (caller : Nat) (built : List (Except LinkError (List UInt8))) :
    Prop :=
  ∃ settled new, s.awaited caller ++ built = settled ++ s'.awaited caller ∧
    s'.answersTo caller = s.answersTo caller ++ new ∧ List.Forall₂ Fits settled new

namespace Settles

variable {built more : List (Except LinkError (List UInt8))}
  {b r : Except LinkError (List UInt8)}

theorem same (hp : s'.pending caller = s.pending caller) (ha : s'.answers = s.answers) :
    s.Settles s' caller [] := by
  refine ⟨[], [], ?_, ?_, .nil⟩
  · rw [awaited, awaited, hp, List.append_nil, List.nil_append]
  · rw [answersTo, answersTo, ha, List.append_nil]

/-- The answer to somebody else is no matter. -/
theorem apart {other : Nat} (h : other ≠ caller) (hp : s'.pending caller = s.pending caller)
    (ha : s'.answers = s.answers ++ [(other, r)]) : s.Settles s' caller [] := by
  refine ⟨[], [], ?_, ?_, .nil⟩
  · rw [awaited, awaited, hp, List.append_nil, List.nil_append]
  · simp [answersTo, ha, h]

/-- The only thing to answer is answered. -/
theorem answered (hb : s.awaited caller ++ built = [b]) (hp : s'.pending caller = none)
    (ha : s'.answers = s.answers ++ [(caller, r)]) (hf : Fits b r) :
    s.Settles s' caller built := by
  refine ⟨[b], [r], ?_, ?_, .cons hf .nil⟩
  · rw [hb, awaited, hp]
    rfl
  · simp [answersTo, ha]

theorem trans {s'' : Session} (h : s.Settles s' caller built) (h' : s'.Settles s'' caller more) :
    s.Settles s'' caller (built ++ more) := by
  obtain ⟨settled, new, hb, ha, hf⟩ := h
  obtain ⟨settled', new', hb', ha', hf'⟩ := h'
  refine ⟨settled ++ settled', new ++ new', ?_, ?_, List.rel_append hf hf'⟩
  · rw [← List.append_assoc, hb, List.append_assoc, hb', List.append_assoc]
  · rw [ha', ha, List.append_assoc]

end Settles

theorem fits_error (b : Except LinkError (List UInt8)) (e : LinkError) : Fits b (.error e) := nofun

theorem fits_self (b : Except LinkError (List UInt8)) : Fits b b := fun _ h => h

theorem pending_setCall_of_ne {other : Nat} (call : Option Call) (h : other ≠ caller) :
    (s.setCall other call).pending caller = s.pending caller := by
  rw [pending, calls_setCall_of_ne s call h.symm, pending]

theorem pending_setCall (call : Option Call) :
    (s.setCall caller call).pending caller = call.bind Call.frame? := by
  rw [pending, calls_setCall]

theorem awaited_of_calls {patience : Patience} {id : Int32} {bytes : List UInt8}
    (h : s.calls caller = some (.submitting patience id bytes)) :
    s.awaited caller = [.ok bytes] := by
  rw [awaited, pending, h]
  rfl

theorem awaited_of_free (h : s.calls caller = none) : s.awaited caller = [] := by
  rw [awaited, pending, h]
  rfl

theorem issues_self {patience : Patience} {x : Submission} (ho : s.opening.isDone = true)
    (hc : s.calls caller = none) :
    s.issues caller (.submit caller patience x) = [x.build s.server.version] :=
  if_pos ⟨rfl, ho, by rw [hc]; rfl⟩

theorem issues_of_ne {other : Nat} {patience : Patience} {x : Submission} (h : other ≠ caller) :
    s.issues caller (.submit other patience x) = [] := if_neg fun hi => h hi.1

/-- Somebody's frame, which was about to be queued, is answered. -/
theorem Settles.of_busy {s₁ : Session} {other : Nat} {patience : Patience} {id : Int32}
    {bytes : List UInt8} {r : Except LinkError (List UInt8)} (caller : Nat)
    (busy : s.calls other = some (.submitting patience id bytes)) (hc : s₁.calls = s.calls)
    (ha : (s₁.setCall other none).answers = s.answers ++ [(other, r)]) (hf : Fits (.ok bytes) r) :
    s.Settles (s₁.setCall other none) caller [] := by
  by_cases hother : other = caller
  · subst hother
    have hb : s.awaited other ++ [] = [.ok bytes] := by
      rw [List.append_nil, awaited_of_calls busy]
    exact .answered hb (pending_setCall _) ha hf
  · have hp : s₁.pending caller = s.pending caller := by rw [pending, hc, pending]
    exact .apart hother ((pending_setCall_of_ne _ hother).trans hp) ha

/-- A move answers a caller only what it awaits or has just built. -/
theorem settles_move (s : Session) (m : Move) (caller : Nat) :
    s.Settles (s.move m) caller (s.issues caller m) := by
  have h := s.outgoing m
  generalize s.move m = s' at h
  cases h with
  | aside rest idle =>
    rw [idle]
    exact .same (by rw [pending, rest.calls]; rfl) rest.answers
  | sender step => cases step <;> exact .same rfl rfl
  | @stopping _ other s₁ call own rest was now idle =>
    have hp : s₁.pending caller = s.pending caller := by rw [pending, rest.calls]; rfl
    rw [idle]
    refine .same ?_ rest.answers
    by_cases hc : other = caller
    · subst hc
      rw [was, pending_setCall, now]
    · rw [pending_setCall_of_ne _ hc, hp]
  | @refuse other patience x e opened free refused =>
    by_cases hc : other = caller
    · subst hc
      have hb : s.awaited other ++ [x.build s.server.version] = [x.build s.server.version] := by
        rw [awaited_of_free free, List.nil_append]
      rw [issues_self opened free]
      exact .answered hb (pending_setCall _) (answers_reject _ _ _) (fits_error _ e)
    · rw [issues_of_ne hc]
      exact .apart hc (pending_setCall_of_ne _ hc) (answers_reject _ _ _)
  | @begin other patience x bytes opened free up built =>
    by_cases hc : other = caller
    · subst hc
      rw [issues_self opened free, built]
      refine ⟨[], [], ?_, (List.append_nil _).symm, .nil⟩
      rw [awaited_of_free free, awaited_of_calls (calls_setCall _ _ _)]
    · rw [issues_of_ne hc]
      exact .same (pending_setCall_of_ne _ hc) rfl
  | turnAway busy ended =>
    exact .of_busy caller busy rfl (answers_reject _ _ _) (fits_error _ _)
  | accept busy running room => exact .of_busy caller busy rfl (answers_accept _ _ _) (fits_self _)
  | full busy running full =>
    exact .of_busy caller busy rfl (answers_report _ _) (fits_error _ _)

/-- Along every run, a caller is answered one by one what it has built. -/
theorem settles_run (s : Session) (moves : List Move) (caller : Nat) :
    s.Settles (s.run moves) caller (s.issued caller moves) := by
  induction moves generalizing s with
  | nil => exact .same rfl rfl
  | cons m moves ih => exact (s.settles_move m caller).trans (ih (s.move m))

end Session
end BrokerLink

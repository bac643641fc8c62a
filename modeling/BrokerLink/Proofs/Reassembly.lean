import BrokerLink.Proofs.Stream

/-!
# Reassembly

Taking frames from an inbound side gives what its stream divides into, however the
stream was cut into portions. A call looks only at what is buffered, but its front is
the front of the whole stream as soon as it is decided (`of_stream`). The counters are
followed through every portion received and every frame taken.
-/

namespace BrokerLink
namespace Inbound

/-- All bytes that were sent and not taken, received or not. -/
def stream (s : Inbound) : List UInt8 := s.buffer ++ s.arriving.flatten

/-- A peer that sends portions to a client that has read nothing yet, and closes or does not. -/
def fresh (portions : List (List UInt8)) (isClosed : Bool) : Inbound :=
  { arriving := portions, isClosed }

@[simp] theorem stream_fresh (portions : List (List UInt8)) (isClosed : Bool) :
    (fresh portions isClosed).stream = portions.flatten := rfl

/-- What calls for a frame give, one after the other, and the inbound side after them. -/
def nexts (s : Inbound) : Nat → List (Outcome (List UInt8)) × Inbound
  | 0 => ([], s)
  | calls + 1 =>
    let (outcome, s) := s.next
    let (outcomes, s) := s.nexts calls
    (outcome :: outcomes, s)

/-! ### One call -/

theorem stream_fillFrom (s : Inbound) (portions : List (List UInt8)) :
    (s.fillFrom portions).stream = s.buffer ++ portions.flatten := by
  induction portions generalizing s with
  | nil => rfl
  | cons portion portions ih =>
    unfold fillFrom
    split
    · rw [ih]
      simp [receive, List.append_assoc]
    · rfl

/-- Receiving stops early only in front of a decided front. -/
theorem arriving_fillFrom (s : Inbound) (portions : List (List UInt8))
    (h : (s.fillFrom portions).front.isIncomplete = true) :
    (s.fillFrom portions).arriving = [] := by
  induction portions generalizing s with
  | nil => rfl
  | cons portion portions ih =>
    unfold fillFrom at h ⊢
    split at h
    · rename_i hf
      rw [if_pos hf]
      exact ih _ h
    · rename_i hf
      exact absurd h hf

@[simp] theorem isClosed_fillFrom (s : Inbound) (portions : List (List UInt8)) :
    (s.fillFrom portions).isClosed = s.isClosed := by
  induction portions generalizing s with
  | nil => rfl
  | cons portion portions ih =>
    unfold fillFrom
    split
    · rw [ih]
      rfl
    · rfl

/-- The front of the stream is the front of what a call has received. -/
theorem of_stream (s : Inbound) :
    Front.of s.stream = s.fill.front.append s.fill.arriving.flatten := by
  have hs : s.fill.stream = s.stream := stream_fillFrom s s.arriving
  rw [← hs]
  by_cases hi : s.fill.front.isIncomplete = true
  · have ha : s.fill.arriving = [] := arriving_fillFrom s s.arriving hi
    rw [stream, ha, List.flatten_nil, List.append_nil]
    cases hf : s.fill.front with
    | incomplete => exact hf
    | refused length => exact hf
    | frame payload rest => rw [hf] at hi; cases hi
  · rw [Bool.not_eq_true] at hi
    exact Front.of_append _ hi

/-- A decided front of what has been received is the front of all that is sent. -/
theorem of_stream_append {s : Inbound} (h : s.front.isIncomplete = false)
    (more : List UInt8) :
    Front.of (s.stream ++ more) = s.front.append (s.arriving.flatten ++ more) := by
  rw [stream, List.append_assoc]
  exact Front.of_append _ h

theorem next_of_frame {s : Inbound} {payload rest : List UInt8}
    (h : Front.of s.stream = .frame payload rest) :
    s.next.1 = .done payload ∧ s.next.2.stream = rest ∧ s.next.2.isClosed = s.isClosed := by
  rw [of_stream] at h
  cases hf : s.fill.front with
  | incomplete => rw [hf] at h; cases h
  | refused length => rw [hf] at h; cases h
  | frame payload' rest' =>
    rw [hf] at h
    cases h
    simp only [next, hf]
    exact ⟨trivial, rfl, isClosed_fillFrom s s.arriving⟩

theorem next_of_refused {s : Inbound} {length : Nat} (h : Front.of s.stream = .refused length) :
    s.next = (.failed (badLength length), s.fill) := by
  rw [of_stream] at h
  cases hf : s.fill.front with
  | incomplete => rw [hf] at h; cases h
  | refused length' =>
    rw [hf] at h
    cases h
    simp only [next, hf]
  | frame payload rest => rw [hf] at h; cases h

theorem next_of_incomplete {s : Inbound} (h : Front.of s.stream = .incomplete)
    (hc : s.isClosed = true) : s.next = (.failed closedByPeer, s.fill) := by
  rw [of_stream] at h
  have hc' : s.fill.isClosed = true := by rw [fill, isClosed_fillFrom, hc]
  cases hf : s.fill.front with
  | incomplete => simp only [next, hf, hc', if_true]
  | refused length => rw [hf] at h; cases h
  | frame payload rest => rw [hf] at h; cases h

/-- A call on a stream that has no frame left fails, and leaves the stream as it is. -/
theorem next_of_divided_nil {s : Inbound} {ending : LinkError} (h : Divided s.stream [] ending)
    (hc : s.isClosed = true ∨ ending ≠ closedByPeer) : s.next = (.failed ending, s.fill) := by
  cases hf : Front.of s.stream with
  | incomplete =>
    obtain ⟨-, rfl⟩ := h.front_incomplete hf
    exact next_of_incomplete hf (hc.resolve_right fun hne => hne rfl)
  | refused length =>
    obtain ⟨-, rfl⟩ := h.front_refused hf
    exact next_of_refused hf
  | frame payload rest =>
    obtain ⟨more, he, -⟩ := h.front_frame hf
    cases he

theorem next_of_divided_cons {s : Inbound} {payload : List UInt8} {payloads : List (List UInt8)}
    {ending : LinkError} (h : Divided s.stream (payload :: payloads) ending) :
    s.next.1 = .done payload ∧ Divided s.next.2.stream payloads ending ∧
      s.next.2.isClosed = s.isClosed := by
  cases hf : Front.of s.stream with
  | incomplete => cases (h.front_incomplete hf).1
  | refused length => cases (h.front_refused hf).1
  | frame payload' rest =>
    obtain ⟨more, he, hm⟩ := h.front_frame hf
    cases he
    obtain ⟨ho, hs, hc⟩ := next_of_frame hf
    exact ⟨ho, hs ▸ hm, hc⟩

/-! ### Successive calls -/

/-- Successive calls give the payloads of the stream, and then its ending again and again. Only the
end of the stream is not noticed before the peer has closed. -/
theorem nexts_of_divided {s : Inbound} {payloads : List (List UInt8)} {ending : LinkError}
    {calls : Nat} (h : Divided s.stream payloads ending)
    (hc : s.isClosed = true ∨ ending ≠ closedByPeer ∨ calls ≤ payloads.length) :
    (s.nexts calls).1 = (payloads.take calls).map .done
      ++ List.replicate (calls - payloads.length) (.failed ending) := by
  induction calls generalizing s payloads with
  | zero => simp [nexts]
  | succ calls ih =>
    cases payloads with
    | nil =>
      have hc' : s.isClosed = true ∨ ending ≠ closedByPeer := by simpa using hc
      have hn := next_of_divided_nil h hc'
      have hs : s.fill.stream = s.stream := stream_fillFrom s s.arriving
      have hf : s.fill.isClosed = s.isClosed := isClosed_fillFrom s s.arriving
      have hi := @ih s.fill [] (hs ▸ h) (hf ▸ hc'.imp_right .inl)
      simp only [nexts, hn, hi]
      simp [List.replicate_succ]
    | cons payload payloads =>
      obtain ⟨ho, hd, hf⟩ := next_of_divided_cons h
      have hi := ih hd (hf ▸ hc.imp_right (.imp_right Nat.le_of_succ_le_succ))
      simp only [nexts, ho, hi, List.take_succ_cons, List.map_cons, List.length_cons,
        Nat.add_sub_add_right, List.cons_append]

/-! ### The counters -/

/-- The points that taking frames comes through, between any two steps of any call, with the
payloads taken so far. -/
inductive Reached (origin : Inbound) : List (List UInt8) → Inbound → Prop
  | start : Reached origin [] origin
  | receive {taken : List (List UInt8)} {s : Inbound} {portion : List UInt8}
      {portions : List (List UInt8)} (before : Reached origin taken s)
      (undecided : s.front.isIncomplete = true) (next : s.arriving = portion :: portions) :
      Reached origin taken { s.receive portion with arriving := portions }
  | take {taken : List (List UInt8)} {s : Inbound} {payload rest : List UInt8}
      (before : Reached origin taken s) (decided : s.front = .frame payload rest) :
      Reached origin (taken ++ [payload]) (s.taken rest)

/-- Every byte read is still buffered or has been handed out in a frame. -/
theorem Reached.counted {origin s : Inbound} {taken : List (List UInt8)}
    (h : Reached origin taken s) :
    s.bytesRead + origin.buffer.length
        = origin.bytesRead + (taken.map fun payload => 4 + payload.length).sum + s.buffer.length ∧
      s.framesRead = origin.framesRead + taken.length := by
  induction h with
  | start => simp
  | receive _ _ _ ih =>
    obtain ⟨hb, hf⟩ := ih
    refine ⟨?_, hf⟩
    simp only [Inbound.receive, List.length_append]
    omega
  | take _ hfront ih =>
    obtain ⟨hb, hf⟩ := ih
    have hl := (Front.length_of_frame hfront).2.2
    constructor
    · simp only [Inbound.taken, List.map_append, List.sum_append, List.map_cons, List.map_nil,
        List.sum_cons, List.sum_nil]
      omega
    · simp only [Inbound.taken, List.length_append, List.length_singleton]
      omega

theorem Reached.fillFrom {origin s : Inbound} {taken portions : List (List UInt8)}
    (h : Reached origin taken { s with arriving := portions }) :
    Reached origin taken (s.fillFrom portions) := by
  induction portions generalizing s with
  | nil => exact h
  | cons portion portions ih =>
    unfold Inbound.fillFrom
    split
    · rename_i hi
      exact ih (@Reached.receive _ _ { s with arriving := portion :: portions } _ _ h hi rfl)
    · exact h

/-- The payload of a call that gave one. -/
def handed : Outcome (List UInt8) → List (List UInt8)
  | .done payload => [payload]
  | _ => []

theorem Reached.next {origin s : Inbound} {taken : List (List UInt8)} (h : Reached origin taken s) :
    Reached origin (taken ++ handed s.next.1) s.next.2 := by
  have hf : Reached origin taken s.fill := Reached.fillFrom h
  unfold Inbound.next
  dsimp only
  split
  · rename_i hd
    exact hf.take hd
  · simpa [handed] using hf
  · split <;> simpa [handed] using hf

theorem Reached.nexts {origin s : Inbound} {taken : List (List UInt8)} (h : Reached origin taken s)
    (calls : Nat) :
    Reached origin (taken ++ (s.nexts calls).1.flatMap handed) (s.nexts calls).2 := by
  induction calls generalizing s taken with
  | zero => simpa [Inbound.nexts] using h
  | succ calls ih => simpa [Inbound.nexts, List.append_assoc] using ih h.next

/-- However a stream is cut into portions, successive calls give the payloads it divides into, then
its ending for ever, and the counters are right at every point on the way. A bad header needs no
end of the stream to be refused. -/
theorem frames_reassembled (portions : List (List UInt8)) :
    ∃ payloads ending, Divided portions.flatten payloads ending ∧
      (∀ payloads' ending', Divided portions.flatten payloads' ending' →
        payloads' = payloads ∧ ending' = ending) ∧
      (∀ calls, ((fresh portions true).nexts calls).1 = (payloads.take calls).map .done
        ++ List.replicate (calls - payloads.length) (.failed ending)) ∧
      (∀ calls, ((fresh portions true).nexts calls).1
        = ((fresh [portions.flatten] true).nexts calls).1) ∧
      (ending.code? = some 507 → ∀ calls,
        ((fresh portions false).nexts calls).1 = ((fresh portions true).nexts calls).1) ∧
      (∀ calls, Reached (fresh portions true) (payloads.take calls)
        ((fresh portions true).nexts calls).2) ∧
      ∀ taken s, Reached (fresh portions true) taken s →
        s.bytesRead = (taken.map fun payload => 4 + payload.length).sum + s.buffer.length ∧
          s.framesRead = taken.length := by
  obtain ⟨payloads, ending, hd⟩ := Divided.exists_of portions.flatten
  have hall := fun calls => @nexts_of_divided (fresh portions true) _ _ calls hd (.inl rfl)
  refine ⟨payloads, ending, hd, fun _ _ h => h.unique hd, hall, ?_, ?_, ?_, ?_⟩
  · intro calls
    have hd' : Divided (fresh [portions.flatten] true).stream payloads ending := by
      simpa using hd
    rw [hall, nexts_of_divided hd' (.inl rfl)]
  · intro hcode calls
    have hne : ending ≠ closedByPeer := by
      rintro rfl
      cases hcode
    rw [hall, @nexts_of_divided (fresh portions false) _ _ calls hd (.inr (.inl hne))]
  · intro calls
    have hr := (@Reached.start (fresh portions true)).nexts calls
    have hh : ((fresh portions true).nexts calls).1.flatMap handed = payloads.take calls := by
      rw [hall, List.flatMap_append, List.flatMap_map, List.flatMap_replicate]
      simp [handed]
    rwa [List.nil_append, hh] at hr
  · intro taken s h
    simpa [fresh] using h.counted

end Inbound
end BrokerLink

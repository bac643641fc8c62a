import BrokerLink.Connection.Inbound

/-!
# Streams of frames

How the bytes of a peer divide into frames once no more will come, said without a
buffer: whole frames one after the other, and then the reason why there are no more.
Every stream divides in exactly one way, and what stands at its front decides the first
step.
-/

namespace BrokerLink

/-- A stream that has come to its end, the payloads of its frames, and the error behind the last. -/
inductive Divided : List UInt8 → List (List UInt8) → LinkError → Prop
  | frame {payload rest : List UInt8} {payloads : List (List UInt8)} {ending : LinkError}
      (nonempty : 0 < payload.length) (fits : payload.length ≤ maxPayload)
      (more : Divided rest payloads ending) :
      Divided (bigEndian payload.length ++ payload ++ rest) (payload :: payloads) ending
  /-- A header that declares a length no payload has. What follows it does not matter. -/
  | badLength {length : Nat} {rest : List UInt8} (header : length < 2 ^ 32)
      (bad : length = 0 ∨ maxPayload < length) :
      Divided (bigEndian length ++ rest) []
        (.client noId .badLength ("declared frame length " ++ toString length))
  /-- The stream ends between two frames or inside a header. -/
  | shortHeader {bs : List UInt8} (short : bs.length < 4) :
      Divided bs [] (.disconnected "connection closed by peer")
  | shortBody {length : Nat} {body : List UInt8} (nonempty : 0 < length)
      (fits : length ≤ maxPayload) (short : body.length < length) :
      Divided (bigEndian length ++ body) [] (.disconnected "connection closed by peer")

theorem bigEndian_ofBigEndian (a b c d : UInt8) :
    bigEndian (ofBigEndian a b c d) = [a, b, c, d] := by
  have ha := a.toNat_lt
  have hb := b.toNat_lt
  have hc := c.toNat_lt
  have hd := d.toNat_lt
  simp only [bigEndian, ofBigEndian, List.cons.injEq, and_true, ← UInt8.toNat_inj,
    UInt8.toNat_ofNat']
  omega

theorem ofBigEndian_lt (a b c d : UInt8) : ofBigEndian a b c d < 2 ^ 32 := by
  have ha := a.toNat_lt
  have hb := b.toNat_lt
  have hc := c.toNat_lt
  have hd := d.toNat_lt
  unfold ofBigEndian
  omega

namespace Front

/-- The front of a header and what follows it. -/
theorem of_header {length : Nat} (body : List UInt8) (h : length < 2 ^ 32) :
    of (bigEndian length ++ body) =
      if length = 0 ∨ maxPayload < length then refused length
      else if body.length < length then incomplete
      else frame (body.take length) (body.drop length) := by
  simp only [bigEndian, List.cons_append, List.nil_append, of, ofBigEndian_bigEndian h]

theorem of_short {bs : List UInt8} (h : bs.length < 4) : of bs = incomplete := by
  match bs, h with
  | [], _ => rfl
  | [_], _ => rfl
  | [_, _], _ => rfl
  | [_, _, _], _ => rfl

theorem exists_header {bs : List UInt8} (h : 4 ≤ bs.length) :
    ∃ length body, length < 2 ^ 32 ∧ bs = bigEndian length ++ body := by
  match bs, h with
  | a :: b :: c :: d :: body, _ =>
    exact ⟨ofBigEndian a b c d, body, ofBigEndian_lt a b c d, by rw [bigEndian_ofBigEndian]; rfl⟩

theorem of_frame {payload : List UInt8} (rest : List UInt8) (h0 : 0 < payload.length)
    (h1 : payload.length ≤ maxPayload) :
    of (bigEndian payload.length ++ payload ++ rest) = frame payload rest := by
  have h2 : payload.length < 2 ^ 32 := by unfold maxPayload at h1; omega
  rw [List.append_assoc, of_header _ h2, if_neg (by omega), if_neg (by simp), List.take_left,
    List.drop_left]

end Front

namespace Divided

/-- The first step of dividing a stream is decided by its front. -/
theorem front {bs : List UInt8} {payloads : List (List UInt8)} {ending : LinkError}
    (h : Divided bs payloads ending) :
    match Front.of bs with
    | .frame payload rest => ∃ more, payloads = payload :: more ∧ Divided rest more ending
    | .refused length => payloads = [] ∧ ending = Inbound.badLength length
    | .incomplete => payloads = [] ∧ ending = Inbound.closedByPeer := by
  cases h with
  | frame h0 h1 more =>
    rw [Front.of_frame _ h0 h1]
    exact ⟨_, rfl, more⟩
  | badLength hl bad =>
    rw [Front.of_header _ hl, if_pos bad]
    exact ⟨rfl, rfl⟩
  | shortHeader short =>
    rw [Front.of_short short]
    exact ⟨rfl, rfl⟩
  | shortBody h0 h1 short =>
    rw [Front.of_header _ (by unfold maxPayload at h1; omega), if_neg (by omega), if_pos short]
    exact ⟨rfl, rfl⟩

theorem front_frame {bs payload rest : List UInt8} {payloads : List (List UInt8)}
    {ending : LinkError} (h : Divided bs payloads ending) (hf : Front.of bs = .frame payload rest) :
    ∃ more, payloads = payload :: more ∧ Divided rest more ending := by
  have hd := h.front
  rwa [hf] at hd

theorem front_refused {bs : List UInt8} {length : Nat} {payloads : List (List UInt8)}
    {ending : LinkError} (h : Divided bs payloads ending) (hf : Front.of bs = .refused length) :
    payloads = [] ∧ ending = Inbound.badLength length := by
  have hd := h.front
  rwa [hf] at hd

theorem front_incomplete {bs : List UInt8} {payloads : List (List UInt8)}
    {ending : LinkError} (h : Divided bs payloads ending) (hf : Front.of bs = .incomplete) :
    payloads = [] ∧ ending = Inbound.closedByPeer := by
  have hd := h.front
  rwa [hf] at hd

theorem unique {bs : List UInt8} {payloads payloads' : List (List UInt8)}
    {ending ending' : LinkError} (h : Divided bs payloads ending)
    (h' : Divided bs payloads' ending') : payloads = payloads' ∧ ending = ending' := by
  induction h generalizing payloads' with
  | frame h0 h1 _ ih =>
    obtain ⟨more, rfl, hm⟩ := h'.front_frame (Front.of_frame _ h0 h1)
    obtain ⟨rfl, rfl⟩ := ih hm
    exact ⟨rfl, rfl⟩
  | badLength hl bad =>
    obtain ⟨rfl, rfl⟩ := h'.front_refused (by rw [Front.of_header _ hl, if_pos bad])
    exact ⟨rfl, rfl⟩
  | shortHeader short =>
    obtain ⟨rfl, rfl⟩ := h'.front_incomplete (Front.of_short short)
    exact ⟨rfl, rfl⟩
  | shortBody h0 h1 short =>
    obtain ⟨rfl, rfl⟩ := h'.front_incomplete (by
      rw [Front.of_header _ (by unfold maxPayload at h1; omega), if_neg (by omega), if_pos short])
    exact ⟨rfl, rfl⟩

/-- Every stream divides: behind a frame a shorter stream is left. -/
theorem exists_of (bs : List UInt8) : ∃ payloads ending, Divided bs payloads ending := by
  by_cases hs : bs.length < 4
  · exact ⟨_, _, .shortHeader hs⟩
  · obtain ⟨length, body, hl, he⟩ := Front.exists_header (Nat.le_of_not_lt hs)
    have hb : bs.length = 4 + body.length := by rw [he, List.length_append]; rfl
    by_cases bad : length = 0 ∨ maxPayload < length
    · rw [he]
      exact ⟨_, _, .badLength hl bad⟩
    · by_cases short : body.length < length
      · rw [he]
        exact ⟨_, _, .shortBody (by omega) (by omega) short⟩
      · obtain ⟨payloads, ending, hd⟩ := exists_of (body.drop length)
        have ht : (body.take length).length = length := by
          rw [List.length_take]
          omega
        have hf := @Divided.frame (body.take length) _ _ _ (by omega) (by omega) hd
        rw [ht, List.append_assoc, List.take_append_drop, ← he] at hf
        exact ⟨_, _, hf⟩
termination_by bs.length
decreasing_by
  rw [List.length_drop]
  omega

end Divided
end BrokerLink

import BrokerLink.Frame.Draft
import BrokerLink.Proofs.Reassembly
import BrokerLink.Proofs.WrittenField

/-!
# The format of frames

What any sequence of writes comes to: a refusal, or a frame from which the texts are
read back one by one. Frames that follow each other on a stream are taken one by one,
the longest included.
-/

namespace BrokerLink

theorem Fields.size_eq_sum (fields : Fields) :
    fields.size = (fields.map fun s => (Utf8.encode s).length + 1).sum := by
  simp only [Fields.size, Fields.length_encode]

namespace Draft

variable (entries : List Entry)

/-- The texts of all fields that were written. -/
def texts : Fields := entries.flatMap Entry.texts

/-- A finished draft is the frame of its texts. -/
theorem finish_ofEntries :
    (ofEntries entries).finish = (Frame.ofFields (texts entries)).map Frame.bytes := by
  have hl : ([0, 0, 0, 0] ++ Fields.payload (texts entries)).length - 4 = (texts entries).size := by
    rw [List.length_append, Fields.length_payload]
    exact Nat.add_sub_cancel_left ..
  rw [ofEntries_eq, ← Fields.hasZero_eq_any]
  change Draft.finish ⟨[0, 0, 0, 0] ++ (texts entries).payload, (texts entries).hasZero⟩ = _
  unfold finish Frame.ofFields
  dsimp only
  rw [hl]
  by_cases hz : (texts entries).hasZero = false
  · rw [if_neg (by simp [hz]), dif_pos hz]
    by_cases hs : (texts entries).size ≤ maxPayload
    · rw [if_neg (by omega), dif_pos hs]
      rfl
    · rw [if_pos (by omega), dif_neg hs]
      rfl
  · rw [if_pos (by simpa using hz), dif_neg hz]
    rfl

theorem hasZero_texts_iff :
    (texts entries).hasZero = true ↔ ∃ s ∈ texts entries, 0 ∈ Utf8.encode s := by
  simp [Fields.hasZero_eq_any]

theorem hasZero_texts_eq_false_iff :
    (texts entries).hasZero = false ↔ ∀ s ∈ texts entries, 0 ∉ Utf8.encode s := by
  rw [← Bool.not_eq_true, hasZero_texts_iff]
  simp

theorem finish_eq_embeddedZero_iff :
    (ofEntries entries).finish = .error .embeddedZero ↔ (texts entries).hasZero = true := by
  rw [finish_ofEntries]
  unfold Frame.ofFields
  by_cases hz : (texts entries).hasZero = false
  · rw [dif_pos hz, hz]
    by_cases hs : (texts entries).size ≤ maxPayload
    · simp [dif_pos hs, Except.map]
    · simp [dif_neg hs, Except.map]
  · simpa [dif_neg hz, Except.map] using hz

theorem finish_eq_tooLong_iff :
    (ofEntries entries).finish = .error (.tooLong (texts entries).size) ↔
      (texts entries).hasZero = false ∧ maxPayload < (texts entries).size := by
  rw [finish_ofEntries]
  unfold Frame.ofFields
  by_cases hz : (texts entries).hasZero = false
  · rw [dif_pos hz, hz]
    by_cases hs : (texts entries).size ≤ maxPayload
    · simp [Except.map, hs]
    · simp [dif_neg hs, Except.map, Nat.lt_of_not_le hs]
  · simp [Except.map, hz]

variable {entries}

theorem finish_eq_ok_iff {bytes : List UInt8} :
    (ofEntries entries).finish = .ok bytes ↔
      (texts entries).hasZero = false ∧ (texts entries).size ≤ maxPayload ∧
        bytes = bigEndian (texts entries).size ++ (texts entries).payload := by
  rw [finish_ofEntries]
  constructor
  · intro h
    cases hf : Frame.ofFields (texts entries) with
    | error fault => rw [hf] at h; cases h
    | ok f =>
      rw [hf] at h
      cases h
      have he := Frame.ofFields_eq_ok_iff.mp hf
      rw [← he]
      exact ⟨f.zeroFree, f.fits, rfl⟩
  · rintro ⟨hz, hs, rfl⟩
    have hf : Frame.ofFields (texts entries) = .ok ⟨texts entries, hz, hs⟩ :=
      Frame.ofFields_eq_ok_iff.mpr rfl
    rw [hf]
    rfl

/-- Frames with at least one field, one behind the other, are a stream that divides into them. -/
theorem divided_of_finished {frames : List (List UInt8)}
    (h : ∀ frame ∈ frames, ∃ entries, texts entries ≠ [] ∧
      (ofEntries entries).finish = .ok frame) :
    Divided frames.flatten (frames.map (List.drop 4)) Inbound.closedByPeer := by
  induction frames with
  | nil => exact .shortHeader (by decide)
  | cons frame frames ih =>
    obtain ⟨⟨entries, hne, hf⟩, hm⟩ := List.forall_mem_cons.mp h
    obtain ⟨-, hs, rfl⟩ := finish_eq_ok_iff.mp hf
    rw [← Fields.length_payload] at hs ⊢
    have hp : 0 < (texts entries).payload.length := by
      cases ht : texts entries with
      | nil => exact absurd ht hne
      | cons s texts =>
        simp only [Fields.payload, List.flatMap_cons, List.length_append, List.length_singleton]
        omega
    exact .frame hp hs (ih hm)

/-- A sequence of writes is refused for a zero byte first and for its length second, and makes a
frame otherwise, from which the texts are read back to the last byte. Frames that follow each other
are taken whole, in order, and nothing else is taken. -/
theorem written_is_read :
    (∀ entries : List Entry,
      let size := ((texts entries).map fun s => (Utf8.encode s).length + 1).sum
      let payload := (texts entries).flatMap fun s => Utf8.encode s ++ [0]
      ((ofEntries entries).finish = .error .embeddedZero ↔
        ∃ s ∈ texts entries, 0 ∈ Utf8.encode s) ∧
      ((ofEntries entries).finish = .error (.tooLong size) ↔
        (∀ s ∈ texts entries, 0 ∉ Utf8.encode s) ∧ maxPayload < size) ∧
      ((∀ s ∈ texts entries, 0 ∉ Utf8.encode s) → size ≤ maxPayload →
        (ofEntries entries).finish = .ok (bigEndian size ++ payload) ∧
        ∃ rest, (Reader.times (texts entries).length Reader.string).run payload
          = (.ok (texts entries), rest) ∧ Reader.finish rest = .ok ())) ∧
    ∀ frames portions : List (List UInt8),
      (∀ frame ∈ frames, ∃ entries, texts entries ≠ [] ∧
        (ofEntries entries).finish = .ok frame) →
      portions.flatten = frames.flatten →
      (∀ isClosed, ((Inbound.fresh portions isClosed).nexts frames.length).1
        = frames.map fun frame => .done (frame.drop 4)) ∧
      ∀ more, ((Inbound.fresh portions true).nexts (frames.length + more)).1
        = (frames.map fun frame => .done (frame.drop 4))
          ++ List.replicate more (.failed Inbound.closedByPeer) := by
  refine ⟨?_, ?_⟩
  · intro entries
    dsimp only
    rw [← Fields.size_eq_sum, ← hasZero_texts_iff, ← hasZero_texts_eq_false_iff]
    refine ⟨finish_eq_embeddedZero_iff entries, finish_eq_tooLong_iff entries, ?_⟩
    intro hz hs
    refine ⟨finish_eq_ok_iff.mpr ⟨hz, hs, rfl⟩, [], ?_, rfl⟩
    have hr := Reader.run_times_string (texts entries) []
      ((hasZero_texts_eq_false_iff entries).mp hz)
    rwa [List.append_nil] at hr
  · intro frames portions h hp
    have hd : ∀ isClosed, Divided (Inbound.fresh portions isClosed).stream
        (frames.map (List.drop 4)) Inbound.closedByPeer := by
      intro isClosed
      rw [Inbound.stream_fresh, hp]
      exact divided_of_finished h
    constructor
    · intro isClosed
      rw [Inbound.nexts_of_divided (hd isClosed) (.inr (.inr (by simp))),
        List.take_of_length_le (by simp)]
      simp [Function.comp_def]
    · intro more
      rw [Inbound.nexts_of_divided (hd true) (.inl rfl), List.take_of_length_le (by simp)]
      simp [Function.comp_def]

end Draft
end BrokerLink

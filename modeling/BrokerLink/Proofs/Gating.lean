import BrokerLink.Proofs.PlacedAlike

/-!
# Requests and the version of the server

Whether a server is too old for a request is decided before anything else and depends on
the version alone in one direction: a newer server has every feature of an older one, and
the newest has them all. Of the other requests those are refused whose fields, as they are
written at that version, do not make a frame; the rest are sent.
-/

namespace BrokerLink

namespace Requirement

variable {version : Version} {q : Requirement} {rs : List Requirement}

theorem isMet_eq_false_iff : q.isMet version = false ↔ q.used = true ∧ version < q.since := by
  unfold isMet Version.supports
  rw [Bool.or_eq_false_iff, Bool.not_eq_false', decide_eq_false_iff_not, Int.not_le]

/-- What is reported as missing is used, and the server is too old for it. -/
theorem of_firstUnmet (h : firstUnmet version rs = some q) :
    q ∈ rs ∧ q.used = true ∧ version < q.since := by
  have hunmet := List.find?_some h
  rw [Bool.not_eq_true'] at hunmet
  exact ⟨List.mem_of_find?_eq_some h, isMet_eq_false_iff.mp hunmet⟩

end Requirement

theorem OrderGate.since_le_newest : ∀ g ∈ all, g.since ≤ Version.newest := by decide

namespace Request

variable {version version' : Version} {r : Request}

/-- No request requires more than the newest version has. -/
theorem since_le_newest (r : Request) : ∀ q ∈ r.requirements, q.since ≤ Version.newest := by
  cases r with
  | placeOrder id contract order =>
    intro q hq
    obtain ⟨g, hg, rfl⟩ := List.mem_map.mp hq
    exact OrderGate.since_le_newest g hg
  | _ =>
    simp only [requirements, List.forall_mem_cons]
    decide

theorem code_ne_maxValue (r : Request) : r.code ≠ Int32.maxValue := by
  unfold code
  split <;> decide

/-- The server is too old: the request is refused with the number that says so. -/
def IsOutdated (version : Version) (r : Request) : Prop :=
  ∃ e, r.frame version = .error e ∧ e.code? = some 503

/-- The request uses a feature that the server does not have. -/
def Lacks (version : Version) (r : Request) : Prop :=
  ∃ q ∈ r.requirements, q.used = true ∧ version < q.since

/-- The fields that are written at the version make no frame: a zero byte is in one of them, or
they are too long. -/
def Unwritable (version : Version) (r : Request) : Prop :=
  (∃ s ∈ r.fields version, 0 ∈ Utf8.encode s) ∨ maxPayload < (r.fields version).size

/-! ### What becomes of a request -/

theorem lacks_of_firstUnmet {q : Requirement} (h : r.firstUnmet version = some q) :
    r.Lacks version := ⟨q, Requirement.of_firstUnmet h⟩

theorem not_lacks_of_firstUnmet (h : r.firstUnmet version = none) : ¬r.Lacks version := by
  rintro ⟨q, hq, hunmet⟩
  have hmet := Requirement.firstUnmet_eq_none_iff.mp h q hq
  rw [Requirement.isMet_eq_false_iff.mpr hunmet] at hmet
  cases hmet

theorem firstUnmet_of_not_lacks (h : ¬r.Lacks version) : r.firstUnmet version = none := by
  cases hu : r.firstUnmet version with
  | none => rfl
  | some q => exact absurd (lacks_of_firstUnmet hu) h

/-- What a server lacks is reported, whatever else is wrong. -/
theorem frame_of_lacks (h : r.Lacks version) :
    ∃ q ∈ r.requirements, q.used = true ∧ version < q.since ∧
      r.frame version = .error (.unsupported r.subject q.feature) := by
  cases hu : r.firstUnmet version with
  | none => exact absurd h (not_lacks_of_firstUnmet hu)
  | some q =>
    obtain ⟨hq, hused, hold⟩ := Requirement.of_firstUnmet hu
    refine ⟨q, hq, hused, hold, ?_⟩
    simp only [frame, hu]

theorem frame_of_unwritable (h : ¬r.Lacks version) (hw : r.Unwritable version) :
    ∃ fault, r.frame version = .error (.encoding fault) := by
  simp only [frame, firstUnmet_of_not_lacks h]
  cases hf : Frame.ofFields (r.fields version) with
  | error fault => exact ⟨fault, rfl⟩
  | ok f =>
    have hzero := f.zero_notMem
    have hfits := f.fits
    rw [Frame.ofFields_eq_ok_iff.mp hf] at hzero hfits
    rcases hw with ⟨s, hs, h0⟩ | hlong
    · exact absurd h0 (hzero s hs)
    · omega

theorem frame_of_writable (h : ¬r.Lacks version) (hw : ¬r.Unwritable version) :
    ∃ f, r.frame version = .ok f := by
  have hzero : ∀ s ∈ r.fields version, 0 ∉ Utf8.encode s :=
    fun s hs h0 => hw (.inl ⟨s, hs, h0⟩)
  have hfits : Fields.size (r.fields version) ≤ maxPayload :=
    Nat.le_of_not_lt fun hlong => hw (.inr hlong)
  obtain ⟨f, hf, -⟩ := exists_frame version r (firstUnmet_of_not_lacks h) hzero hfits
  exact ⟨f, hf⟩

/-- One of three things becomes of a request. -/
theorem frame_cases (version : Version) (r : Request) :
    (r.Lacks version ∧ ∃ q ∈ r.requirements, q.used = true ∧ version < q.since ∧
      r.frame version = .error (.unsupported r.subject q.feature)) ∨
    (¬r.Lacks version ∧ r.Unwritable version ∧
      ∃ fault, r.frame version = .error (.encoding fault)) ∨
    (¬r.Lacks version ∧ ¬r.Unwritable version ∧ ∃ f, r.frame version = .ok f) := by
  by_cases hl : r.Lacks version
  · exact .inl ⟨hl, frame_of_lacks hl⟩
  · by_cases hw : r.Unwritable version
    · exact .inr (.inl ⟨hl, hw, frame_of_unwritable hl hw⟩)
    · exact .inr (.inr ⟨hl, hw, frame_of_writable hl hw⟩)

/-- A request is refused as too new for the server exactly if it uses what the server lacks. -/
theorem isOutdated_iff : r.IsOutdated version ↔ r.Lacks version := by
  unfold IsOutdated
  rcases frame_cases version r with ⟨hl, q, -, -, -, hf⟩ | ⟨hl, -, fault, hf⟩ | ⟨hl, -, f, hf⟩
  · exact ⟨fun _ => hl, fun _ => ⟨_, hf, rfl⟩⟩
  · simp [hf, hl, LinkError.code?]
  · simp [hf, hl]

theorem exists_encoding_iff :
    (∃ fault, r.frame version = .error (.encoding fault)) ↔
      ¬r.Lacks version ∧ r.Unwritable version := by
  rcases frame_cases version r with ⟨hl, q, -, -, -, hf⟩ | ⟨hl, hw, fault, hf⟩ | ⟨hl, hw, f, hf⟩
  · simp [hf, hl, LinkError.unsupported]
  · simp [hf, hl, hw]
  · simp [hf, hl, hw]

theorem exists_frame_iff :
    (∃ f, r.frame version = .ok f) ↔ ¬r.Lacks version ∧ ¬r.Unwritable version := by
  rcases frame_cases version r with ⟨hl, q, -, -, -, hf⟩ | ⟨hl, hw, fault, hf⟩ | ⟨hl, hw, f, hf⟩
  · simp [hf, hl]
  · simp [hf, hl, hw]
  · simp [hf, hl, hw]

/-- The first thing that a server reads of a request is its code. -/
theorem run_int32_payload {f : Frame} (h : r.frame version = .ok f) :
    (Reader.int32.run f.payload).1 = .ok r.code := by
  have hparse : Reader.orEmpty 0 Reader.parseInt32 (fieldText r.code) = .ok r.code := by
    rw [Reader.parse_fieldText_int32, if_neg r.code_ne_maxValue]
  have hpayload : f.payload
      = Utf8.encode (fieldText r.code) ++ 0 :: Fields.payload (r.body version) := by
    have hcons := Fields.payload_cons_append (fieldText r.code) (r.body version) []
    rw [List.append_nil, List.append_nil] at hcons
    rw [Frame.payload, fields_of_frame h]
    exact hcons
  have hrun := Reader.run_parsed (Fields.payload (r.body version)) (Utf8.zero_notMem_int32 r.code)
    hparse
  rw [hpayload]
  exact congrArg Prod.fst hrun

/-! ### Old and new servers -/

theorem lacks_antitone (h : version ≤ version') (hl : r.Lacks version') : r.Lacks version := by
  obtain ⟨q, hq, hused, hold⟩ := hl
  exact ⟨q, hq, hused, Int.lt_of_le_of_lt h hold⟩

theorem not_lacks_newest (r : Request) : ¬r.Lacks Version.newest := by
  rintro ⟨q, hq, -, hold⟩
  exact absurd (r.since_le_newest q hq) (Int.not_le.mpr hold)

/-- What a server is not too old for, no newer server is too old for, and the newest is too old for
nothing. Of every request one of three things becomes: it is refused because it uses a feature that
the server lacks, whatever else is wrong with it; or else it is refused because of the fields as
they are written at that version; or else it is a frame of these fields, the first of which is the
code of the request. -/
theorem gates_come_first (r : Request) :
    (∀ version version', version ≤ version' → ¬r.IsOutdated version → ¬r.IsOutdated version') ∧
    ¬r.IsOutdated 157 ∧
    ∀ version,
      (r.IsOutdated version ↔ r.Lacks version) ∧
      (r.IsOutdated version → ∃ q ∈ r.requirements, q.used = true ∧ version < q.since ∧
        r.frame version = .error (.unsupported r.subject q.feature)) ∧
      ((∃ fault, r.frame version = .error (.encoding fault)) ↔
        ¬r.IsOutdated version ∧ r.Unwritable version) ∧
      ((∃ f, r.frame version = .ok f) ↔ ¬r.IsOutdated version ∧ ¬r.Unwritable version) ∧
      ∀ f, r.frame version = .ok f →
        f.fields = r.fields version ∧ (Reader.int32.run f.payload).1 = .ok r.code := by
  refine ⟨?_, ?_, ?_⟩
  · intro version version' hle hn ho
    exact hn (isOutdated_iff.mpr (lacks_antitone hle (isOutdated_iff.mp ho)))
  · intro ho
    exact r.not_lacks_newest (isOutdated_iff.mp ho)
  · intro version
    rw [isOutdated_iff]
    exact ⟨Iff.rfl, frame_of_lacks, exists_encoding_iff, exists_frame_iff,
      fun f hf => ⟨fields_of_frame hf, run_int32_payload hf⟩⟩

/-- A pattern with a zero byte in it is no obstacle to finding that the server is too old. -/
example :
    (matchingSymbols 1 "A\x00").frame 107
      = .error (.unsupported (-1) "matching symbols request") := by rfl

end Request
end BrokerLink

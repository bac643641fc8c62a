import BrokerLink.Proofs.FirstField
import BrokerLink.Proofs.Reassembly
import BrokerLink.Proofs.Starting
import BrokerLink.Proofs.WholeText

/-!
# The answer to the hello

What the client writes before it reads anything, and what it makes of the first frame that
comes back, said of the bytes themselves. Only that frame matters, and what follows it is left
to whoever reads next.
-/

namespace BrokerLink

/-! ### Whole numbers in the first field -/

namespace Reader

/-- A text that is a whole number of 32 bits. The empty text is zero. -/
inductive IsInt32 : String → Int32 → Prop
  | empty : IsInt32 "" 0
  | spelled {s : String} {n : Int32} (spells : Numeral.Spells s.toList n.toInt) : IsInt32 s n

theorem not_spells_empty (n : Int) : ¬Numeral.Spells [] n := by
  intro h
  cases h with
  | plain nonempty => exact nonempty rfl

theorem isInt32_iff {s : String} {n : Int32} : IsInt32 s n ↔ orEmpty 0 parseInt32 s = .ok n := by
  unfold orEmpty parseInt32
  by_cases hs : s = ""
  · subst hs
    constructor
    · intro h
      cases h with
      | empty => rfl
      | spelled spells => exact absurd spells (not_spells_empty _)
    · intro h
      cases h
      exact .empty
  · rw [if_neg (mt String.isEmpty_iff.mp hs)]
    constructor
    · intro h
      cases h with
      | empty => exact absurd rfl hs
      | spelled spells =>
        rw [Numeral.int32_eq_ok_iff.mpr spells]
        rfl
    · intro h
      cases hn : Numeral.int32 s.toList with
      | error fault =>
        rw [hn] at h
        cases h
      | ok m =>
        rw [hn] at h
        cases h
        exact .spelled (Numeral.int32_eq_ok_iff.mp hn)

theorem parse_error_iff {s : String} {fault : ReadFault} :
    orEmpty 0 parseInt32 s = .error fault ↔
      (∀ n, ¬IsInt32 s n) ∧
        ∃ why, Numeral.int32 s.toList = .error why ∧ fault = .notInt32 s why := by
  constructor
  · intro h
    refine ⟨fun n hn => ?_, ?_⟩
    · rw [isInt32_iff.mp hn] at h
      cases h
    · unfold orEmpty at h
      split at h
      · cases h
      · unfold parseInt32 at h
        cases hn : Numeral.int32 s.toList with
        | error why =>
          rw [hn] at h
          cases h
          exact ⟨why, rfl, rfl⟩
        | ok m =>
          rw [hn] at h
          cases h
  · rintro ⟨hnone, why, hwhy, rfl⟩
    have hs : s ≠ "" := by
      rintro rfl
      exact hnone 0 .empty
    rw [orEmpty, if_neg (mt String.isEmpty_iff.mp hs), parseInt32, hwhy]
    rfl

theorem run_int32_of_text {bs rest : List UInt8} {s : String} (h : Leads bs (.ok (s, rest))) :
    int32.run bs = (orEmpty 0 parseInt32 s, rest) := by
  simp only [int32, parsed, run, runWith, h.takeField_eq]
  cases orEmpty 0 parseInt32 s <;> rfl

theorem run_int32_of_fault {bs : List UInt8} {fault : ReadFault} (h : Leads bs (.error fault)) :
    int32.run bs = (.error fault, bs) := by
  simp only [int32, parsed, run, runWith, h.takeField_eq]

end Reader

/-! ### What the answer says -/

namespace ServerInfo

/-- What the bytes behind the version say: nothing if there are none, or the text of a field. -/
inductive Remarks : List UInt8 → Except ReadFault String → Prop
  | absent : Remarks [] (.ok "")
  | text {bs rest : List UInt8} {s : String} (present : bs ≠ [])
      (field : Reader.Leads bs (.ok (s, rest))) : Remarks bs (.ok s)
  | malformed {bs : List UInt8} {fault : ReadFault} (present : bs ≠ [])
      (field : Reader.Leads bs (.error fault)) : Remarks bs (.error fault)

theorem remarks_iff {bs : List UInt8} {r : Except ReadFault String} :
    Remarks bs r ↔ remark bs = r := by
  constructor
  · intro h
    cases h with
    | absent => rfl
    | text present field =>
      rw [remark, if_neg (mt List.isEmpty_iff.mp present), Reader.string, Reader.run,
        Reader.runWith, field.takeField_eq]
      rfl
    | malformed present field =>
      rw [remark, if_neg (mt List.isEmpty_iff.mp present), Reader.string, Reader.run,
        Reader.runWith, field.takeField_eq]
  · rintro rfl
    by_cases hb : bs = []
    · rw [hb]
      exact .absent
    · rw [remark, if_neg (mt List.isEmpty_iff.mp hb), Reader.string, Reader.run, Reader.runWith]
      have hl := Reader.leads_takeField bs
      split
      · rename_i fault hf
        rw [hf] at hl
        exact .malformed hb hl
      · rename_i s rest hf
        rw [hf] at hl
        exact .text hb hl

/-- What the client makes of a payload that answers its hello. -/
inductive Answers : List UInt8 → Except LinkError ServerInfo → Prop
  | unreadable {payload : List UInt8} {fault : ReadFault}
      (first : Reader.Leads payload (.error fault)) :
      Answers payload (.error (.decoding fault))
  | noNumber {payload rest : List UInt8} {text : String} {why : Numeral.WholeFault}
      (first : Reader.Leads payload (.ok (text, rest))) (none : ∀ n, ¬Reader.IsInt32 text n)
      (reason : Numeral.int32 text.toList = .error why) :
      Answers payload (.error (.decoding (.notInt32 text why)))
  /-- Zero, and what is beyond the newest version, are refused whatever follows. -/
  | unsupported {payload rest : List UInt8} {text : String} {version : Int32}
      (first : Reader.Leads payload (.ok (text, rest))) (number : Reader.IsInt32 text version)
      (beyond : version = 0 ∨ 157 < version.toInt) :
      Answers payload
        (.error (.client (-1) .unsupportedVersion ("server version " ++ toString version)))
  | malformed {payload rest : List UInt8} {text : String} {version : Int32} {fault : ReadFault}
      (first : Reader.Leads payload (.ok (text, rest))) (number : Reader.IsInt32 text version)
      (within : version ≠ 0 ∧ version.toInt ≤ 157) (second : Remarks rest (.error fault)) :
      Answers payload (.error (.decoding fault))
  | redirected {payload rest : List UInt8} {text target : String} {version : Int32}
      (first : Reader.Leads payload (.ok (text, rest))) (number : Reader.IsInt32 text version)
      (negative : version.toInt < 0) (second : Remarks rest (.ok target)) :
      Answers payload (.error (.redirected target))
  | accepted {payload rest : List UInt8} {text time : String} {version : Int32}
      (first : Reader.Leads payload (.ok (text, rest))) (number : Reader.IsInt32 text version)
      (within : 0 < version.toInt ∧ version.toInt ≤ 157) (second : Remarks rest (.ok time)) :
      Answers payload (.ok ⟨version.toInt, time⟩)

theorem ofPayload_of_number {payload rest : List UInt8} {text : String} {version : Int32}
    (first : Reader.Leads payload (.ok (text, rest))) (number : Reader.IsInt32 text version) :
    ofPayload payload =
      if version = 0 ∨ 157 < version.toInt then .error (unsupported version)
      else
        match remark rest with
        | .error fault => .error (.decoding fault)
        | .ok text =>
          if version < 0 then .error (.redirected text) else .ok ⟨version.toInt, text⟩ := by
  rw [ofPayload, Reader.run_int32_of_text first, Reader.isInt32_iff.mp number]
  rfl

theorem Answers.ofPayload_eq {payload : List UInt8} {r : Except LinkError ServerInfo}
    (h : Answers payload r) : ofPayload payload = r := by
  have hsign : ∀ version : Int32, version < 0 ↔ version.toInt < 0 := fun version =>
    Int32.lt_iff_toInt_lt
  have hzero : ∀ version : Int32, version = 0 ↔ version.toInt = 0 := fun version =>
    (@Int32.toInt_inj version 0).symm
  cases h with
  | unreadable first => rw [ofPayload, Reader.run_int32_of_fault first]
  | noNumber first none reason =>
    rw [ofPayload, Reader.run_int32_of_text first,
      Reader.parse_error_iff.mpr ⟨none, _, reason, rfl⟩]
  | unsupported first number beyond =>
    rw [ofPayload_of_number first number, if_pos beyond]
    rfl
  | malformed first number within second =>
    rw [ofPayload_of_number first number, if_neg (not_or.mpr ⟨within.1, by omega⟩),
      remarks_iff.mp second]
  | @redirected _ _ _ version first number negative second =>
    rw [ofPayload_of_number first number, if_neg (by rw [hzero]; omega), remarks_iff.mp second]
    exact if_pos ((hsign version).mpr negative)
  | @accepted _ _ _ version first number within second =>
    rw [ofPayload_of_number first number, if_neg (by rw [hzero]; omega), remarks_iff.mp second]
    exact if_neg (by rw [hsign]; omega)

theorem exists_answers (payload : List UInt8) : ∃ r, Answers payload r := by
  have first := Reader.leads_takeField payload
  cases ht : Reader.takeField payload with
  | error fault =>
    rw [ht] at first
    exact ⟨_, .unreadable first⟩
  | ok field =>
    obtain ⟨text, rest⟩ := field
    rw [ht] at first
    cases hn : Reader.orEmpty 0 Reader.parseInt32 text with
    | error fault =>
      obtain ⟨none, why, reason, -⟩ := Reader.parse_error_iff.mp hn
      exact ⟨_, .noNumber first none reason⟩
    | ok version =>
      have number := Reader.isInt32_iff.mpr hn
      by_cases beyond : version = 0 ∨ 157 < version.toInt
      · exact ⟨_, .unsupported first number beyond⟩
      · obtain ⟨hz, hle⟩ := not_or.mp beyond
        cases hr : remark rest with
        | error fault =>
          exact ⟨_, .malformed first number ⟨hz, by omega⟩ (remarks_iff.mpr hr)⟩
        | ok remark =>
          have hz' : version.toInt ≠ 0 := mt (@Int32.toInt_inj version 0).mp hz
          by_cases negative : version.toInt < 0
          · exact ⟨_, .redirected first number negative (remarks_iff.mpr hr)⟩
          · exact ⟨_, .accepted first number ⟨by omega, by omega⟩ (remarks_iff.mpr hr)⟩

/-- The client makes of a payload what it says, and it says one thing. -/
theorem answers_iff {payload : List UInt8} {r : Except LinkError ServerInfo} :
    Answers payload r ↔ ofPayload payload = r := by
  refine ⟨Answers.ofPayload_eq, ?_⟩
  rintro rfl
  obtain ⟨r, h⟩ := exists_answers payload
  rwa [← h.ofPayload_eq] at h

example : ofPayload (Fields.payload ["-1", "elsewhere:7496"])
    = .error (.redirected "elsewhere:7496") := by rfl

example : ofPayload (Fields.payload ["+100", "now", "and more"]) = .ok ⟨100, "now"⟩ := by rfl

end ServerInfo

/-! ### What is written -/

namespace Utf8

theorem encode_append (s t : String) : encode (s ++ t) = encode s ++ encode t := by
  rw [encode_eq_flatMap, encode_eq_flatMap, encode_eq_flatMap, String.toList_append,
    List.flatMap_append]

end Utf8

/-- The versions that the client offers, and its options if it has any. -/
def offer (options : String) : List UInt8 :=
  Utf8.encode "v100..157" ++ if options = "" then [] else Utf8.encode " " ++ Utf8.encode options

/-- A mark, the length of the offer, and the offer. -/
def greetingWith (options : String) : List UInt8 :=
  Utf8.encode "API" ++ [0] ++ bigEndian (offer options).length ++ offer options

theorem hello_eq (options : String) :
    hello options =
      if (offer options).length ≤ maxPayload then .ok (greetingWith options)
      else .error .helloTooLong := by
  have hversions : "v" ++ toString Version.oldest ++ ".." ++ toString Version.newest
      = "v100..157" := by rfl
  have hoffer : offer options = Utf8.encode
      (if options.isEmpty then "v100..157" else "v100..157" ++ " " ++ options) := by
    by_cases ho : options = ""
    · rw [offer, if_pos ho, if_pos (String.isEmpty_iff.mpr ho), List.append_nil]
    · rw [offer, if_neg ho, if_neg (mt String.isEmpty_iff.mp ho), Utf8.encode_append,
        Utf8.encode_append, List.append_assoc]
  rw [greetingWith, hoffer, Fields.length_encode]
  unfold hello
  dsimp only
  rw [hversions]

/-! ### The handshake -/

/-- A call on a stream that has no frame left waits, if the peer may still send one. -/
theorem Inbound.next_of_undecided {s : Inbound} (h : Divided s.stream [] closedByPeer)
    (hc : s.isClosed = false) : s.next = (.waiting, s.fill) := by
  have hc' : s.fill.isClosed = false := by rw [fill, isClosed_fillFrom, hc]
  have hs : Front.of s.stream = s.fill.front.append s.fill.arriving.flatten := s.of_stream
  cases hf : s.fill.front with
  | incomplete => simp only [next, hf, hc', Bool.false_eq_true, if_false]
  | refused length =>
    rw [hf] at hs
    obtain ⟨-, he⟩ := h.front_refused hs
    cases he
  | frame payload rest =>
    rw [hf] at hs
    obtain ⟨more, he, -⟩ := h.front_frame hs
    cases he

/-- A call that takes a frame leaves what is behind it. -/
theorem Inbound.stream_eq_of_divided_cons {s : Inbound} {payload : List UInt8}
    {payloads : List (List UInt8)} {ending : LinkError}
    (h : Divided s.stream (payload :: payloads) ending) :
    s.stream = bigEndian payload.length ++ payload ++ s.next.2.stream := by
  generalize hs : s.stream = bs at h
  cases h with
  | @frame _ rest _ _ nonempty fits more =>
    have hf : Front.of s.stream = .frame payload rest := by
      rw [hs]
      exact Front.of_frame rest nonempty fits
    rw [(next_of_frame hf).2.1]

namespace Connection

variable {options : String} {c : Connection}

theorem handshake_of_tooLong (h : maxPayload < (offer options).length) :
    c.handshake options = (.failed (.encoding .helloTooLong), c) := by
  rw [handshake, hello_eq, if_neg (Nat.not_le.mpr h)]

theorem handshake_of_fits (h : (offer options).length ≤ maxPayload)
    (ho : c.outbound.isOpen = true) :
    c.handshake options =
      (c.inbound.next.1.thenTry ServerInfo.ofPayload,
        { inbound := c.inbound.next.2,
          outbound := { c.outbound with sent := c.outbound.sent ++ greetingWith options } }) := by
  rw [handshake, hello_eq, if_pos h]
  simp only [Outbound.write, ho, if_true]

/-- A session starts only with an answer that is accepted; else nothing more is written. -/
theorem start_of_handshake {config : ClientConfig} {outcome : Outcome ServerInfo} {c' : Connection}
    (h : c.handshake config.connectOptions = (outcome, c')) :
    (∀ e, outcome = .failed e → Session.start config c = (.failed e, c')) ∧
      (outcome = .waiting → Session.start config c = (.waiting, c')) ∧
      ∀ s c'', Session.start config c = (.done s, c'') →
        outcome = .done s.server ∧ s.inbound = c'.inbound := by
  unfold Session.start
  rw [h]
  refine ⟨?_, ?_, ?_⟩
  · rintro e rfl
    rfl
  · rintro rfl
    rfl
  · intro s c'' hs
    cases outcome with
    | failed e => cases hs
    | waiting => cases hs
    | done server =>
      dsimp only at hs
      split at hs
      · cases hs
      · split at hs
        · cases hs
        · cases hs
          exact ⟨rfl, rfl⟩

/-- A client with any options that meets any stream, cut in any way, writes its whole hello and
nothing else, or nothing at all if the hello would be too long. Every stream divides into frames,
and what comes of it is decided by the first; without one, it is the reason why there is none. What
is behind the first frame is all there for the next calls, whatever portion it came in. A session
starts from there if the answer is accepted, and if not, nothing more is written. -/
theorem handshake_takes_one_frame (options : String) (portions : List (List UInt8))
    (isClosed : Bool) :
    (∃ payloads ending, Divided portions.flatten payloads ending) ∧
    (maxPayload < (offer options).length →
      handshake options { inbound := .fresh portions isClosed }
        = (.failed (.encoding .helloTooLong), { inbound := .fresh portions isClosed })) ∧
    ((offer options).length ≤ maxPayload →
      ∃ outcome inbound,
        handshake options { inbound := .fresh portions isClosed }
          = (outcome, { inbound, outbound := { sent := greetingWith options } }) ∧
        (∀ ending, Divided portions.flatten [] ending →
          outcome = (if isClosed = true ∨ ending ≠ Inbound.closedByPeer then .failed ending
            else .waiting) ∧
          inbound.stream = portions.flatten) ∧
        ∀ payload more ending, Divided portions.flatten (payload :: more) ending →
          (∃ result, ServerInfo.Answers payload result) ∧
          (∀ server, ServerInfo.Answers payload (.ok server) ↔ outcome = .done server) ∧
          (∀ e, ServerInfo.Answers payload (.error e) ↔ outcome = .failed e) ∧
          portions.flatten = bigEndian payload.length ++ payload ++ inbound.stream ∧
          ∀ calls, isClosed = true ∨ ending ≠ Inbound.closedByPeer ∨ calls ≤ more.length →
            (inbound.nexts calls).1 = (more.take calls).map .done
              ++ List.replicate (calls - more.length) (.failed ending)) ∧
    ∀ config outcome c', config.connectOptions = options →
      handshake options { inbound := .fresh portions isClosed } = (outcome, c') →
      (∀ e, outcome = .failed e →
        Session.start config { inbound := .fresh portions isClosed } = (.failed e, c')) ∧
      (outcome = .waiting →
        Session.start config { inbound := .fresh portions isClosed } = (.waiting, c')) ∧
      ∀ s c'', Session.start config { inbound := .fresh portions isClosed } = (.done s, c'') →
        outcome = .done s.server ∧ s.inbound = c'.inbound := by
  refine ⟨Divided.exists_of _, handshake_of_tooLong, fun hfits => ?_, ?_⟩
  · refine ⟨_, _, handshake_of_fits hfits rfl, ?_, ?_⟩
    · intro ending hd
      rw [← Inbound.stream_fresh portions isClosed] at hd ⊢
      by_cases hc : isClosed = true ∨ ending ≠ Inbound.closedByPeer
      · rw [Inbound.next_of_divided_nil hd hc, if_pos hc]
        exact ⟨rfl, Inbound.stream_fillFrom _ _⟩
      · obtain ⟨hopen, hending⟩ := not_or.mp hc
        obtain rfl := Classical.not_not.mp hending
        rw [Inbound.next_of_undecided hd (Bool.eq_false_iff.mpr hopen), if_neg hc]
        exact ⟨rfl, Inbound.stream_fillFrom _ _⟩
    · intro payload more ending hd
      rw [← Inbound.stream_fresh portions isClosed] at hd ⊢
      obtain ⟨hpayload, hmore, hclosed⟩ := Inbound.next_of_divided_cons hd
      rw [hpayload]
      refine ⟨ServerInfo.exists_answers payload, ?_, ?_, ?_, ?_⟩
      · intro server
        rw [ServerInfo.answers_iff, Outcome.thenTry]
        cases ServerInfo.ofPayload payload <;> simp
      · intro e
        rw [ServerInfo.answers_iff, Outcome.thenTry]
        cases ServerInfo.ofPayload payload <;> simp
      · exact Inbound.stream_eq_of_divided_cons hd
      · intro calls hcalls
        refine Inbound.nexts_of_divided hmore ?_
        rwa [hclosed]
  · rintro config outcome c' rfl h
    exact start_of_handshake h

end Connection
end BrokerLink

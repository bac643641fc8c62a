import BrokerLink.Session.Telling

/-!
# Where a record ends

A record of a known kind says itself where it ends: what was read of it does not depend
on what follows (`Reader.run_append`), so nothing may follow, and nothing of it may be
missing. A payload that is one byte too long or too short is refused as a whole.
-/

namespace BrokerLink

open Reader

namespace Record

variable {version : Version} {payload rest : List UInt8} {k : RecordKind} {es : List Event}

theorem decode_eq_eventsOf (hi : int32.run payload = (.ok k.code, rest)) :
    decode version payload = eventsOf true version k.code rest := by
  have hi' : runWith true int32 payload = (.ok k.code, rest) := hi
  simp only [decode, decodeWith, hi']

theorem eventsOf_eq_ok_iff {guarded : Bool} {kind : Int32} {bs : List UInt8}
    (hk : RecordKind.ofCode? kind = some k) :
    eventsOf guarded version kind bs = .ok es ↔
      (events version k).runWith guarded bs = (.ok es, []) := by
  simp only [eventsOf, hk]
  cases hr : runWith guarded (events version k) bs with
  | mk outcome left =>
    cases outcome with
    | error fault => simp
    | ok es' => cases left <;> simp

/-- A record of a known kind is accepted exactly if its reader reads all of it. -/
theorem decode_eq_ok_iff (hi : int32.run payload = (.ok k.code, rest)) :
    decode version payload = .ok es ↔ (events version k).run rest = (.ok es, []) := by
  rw [decode_eq_eventsOf hi]
  exact eventsOf_eq_ok_iff (RecordKind.ofCode?_code k)

/-- What follows a record is counted, and nothing of the record is told. -/
theorem decode_append {more : List UInt8} (hi : int32.run payload = (.ok k.code, rest))
    (hd : decode version payload = .ok es) (hm : more ≠ []) :
    decode version (payload ++ more) = .error (.unreadInRecord k.code.toInt more.length) := by
  have hr : runWith true (events version k) (rest ++ more) = (.ok es, [] ++ more) :=
    run_append more ((decode_eq_ok_iff hi).mp hd)
  rw [decode_eq_eventsOf (run_append more hi)]
  simp only [eventsOf, RecordKind.ofCode?_code, hr, List.nil_append]
  rw [if_neg (by simpa using hm)]

/-- The kind of an accepted record has been read from its front. -/
theorem exists_kind (hd : decode version payload = .ok es) :
    ∃ kind rest, int32.run payload = (.ok kind, rest) := by
  cases hr : int32.run payload with
  | mk outcome rest =>
    cases outcome with
    | ok kind => exact ⟨kind, rest, rfl⟩
    | error fault =>
      have hr' : runWith true int32 payload = (.error fault, rest) := hr
      simp only [decode, decodeWith, hr'] at hd
      cases hd

/-- A record that lost its end is refused: were it accepted, the whole of it would not be. -/
theorem decode_of_truncated {front back : List UInt8}
    (hi : int32.run (front ++ back) = (.ok k.code, rest))
    (hd : decode version (front ++ back) = .ok es) (hb : back ≠ []) :
    ∃ fault, decode version front = .error fault := by
  cases hf : decode version front with
  | error fault => exact ⟨fault, rfl⟩
  | ok es' =>
    obtain ⟨kind, rest', hi'⟩ := exists_kind hf
    have he := run_append back hi'
    rw [hi] at he
    cases he
    have hu := decode_append hi' hf hb
    rw [hd] at hu
    cases hu

end Record

/-- A frame that cannot be decoded gives the teller nothing to do, and leaves the warm-up as it
was. -/
theorem Session.tellingOfFrame_of_error {s : Session} {payload : List UInt8} {fault : ReadFault}
    (h : Record.decode s.server.version payload = .error fault) (warmUp : WarmUp) :
    s.tellingOfFrame warmUp payload = .working warmUp [] := by
  simp only [tellingOfFrame, h]

theorem LinkError.message_decoding (fault : ReadFault) :
    (LinkError.decoding fault).message = "Decoding error: " ++ fault.message := rfl

theorem ReadFault.message_unreadInRecord (kind : Int32) (bytes : Nat) :
    (ReadFault.unreadInRecord kind.toInt bytes).message =
      "message kind " ++ toString kind ++ ": Decoding error: " ++ toString bytes
        ++ " unread bytes at end of record" := rfl

/-- A record of a known kind, followed by anything or cut off anywhere, is refused and tells
nothing. -/
theorem Record.refused_unless_whole {version : Version} {payload : List UInt8} {k : RecordKind}
    {es : List Event} (hk : (int32.run payload).1 = .ok k.code)
    (hd : Record.decode version payload = .ok es) :
    (∀ more, more ≠ [] → ∃ fault, Record.decode version (payload ++ more) = .error fault ∧
      (LinkError.decoding fault).message = "Decoding error: message kind " ++ toString k.code
        ++ ": Decoding error: " ++ toString more.length ++ " unread bytes at end of record") ∧
    (∀ front back, payload = front ++ back → back ≠ [] →
      ∃ fault, Record.decode version front = .error fault) ∧
    ∀ (s : Session) (warmUp : WarmUp) (other more : List UInt8), s.server.version = version →
      more ≠ [] → other = payload ++ more ∨ payload = other ++ more →
      s.tellingOfFrame warmUp other = .working warmUp [] := by
  have hi : int32.run payload = (.ok k.code, (int32.run payload).2) := Prod.ext hk rfl
  have hlong : ∀ more, more ≠ [] → Record.decode version (payload ++ more)
      = .error (.unreadInRecord k.code.toInt more.length) :=
    fun more hm => Record.decode_append hi hd hm
  have hshort : ∀ front back, payload = front ++ back → back ≠ [] →
      ∃ fault, Record.decode version front = .error fault := by
    rintro front back rfl hb
    exact Record.decode_of_truncated hi hd hb
  refine ⟨?_, hshort, ?_⟩
  · intro more hm
    refine ⟨_, hlong more hm, ?_⟩
    have hs : "Decoding error: message kind " = "Decoding error: " ++ "message kind " := by decide
    rw [LinkError.message_decoding, ReadFault.message_unreadInRecord, hs]
    simp only [String.append_assoc]
  · rintro s warmUp other more rfl hm (rfl | ho)
    · exact Session.tellingOfFrame_of_error (hlong more hm) warmUp
    · obtain ⟨fault, hf⟩ := hshort other more ho hm
      exact Session.tellingOfFrame_of_error hf warmUp

/-- A record of two symbols, the second with no derivatives at its very end. -/
def Record.twoSymbols : List UInt8 :=
  Fields.payload ["79", "3", "2", "8314", "IBM", "STK", "NYSE", "USD", "1", "OPT", "265598",
    "AAPL", "STK", "NASDAQ", "USD", "0"]

/-- One more empty field is refused, and so is the record without its last byte. -/
theorem Record.refused_unless_whole_twoSymbols :
    (int32.run twoSymbols).1 = .ok RecordKind.symbolSamples.code ∧
      (∃ es, Record.decode 157 twoSymbols = .ok es) ∧
      (∃ fault, Record.decode 157 (twoSymbols ++ [0]) = .error fault ∧
        (LinkError.decoding fault).message = "Decoding error: message kind "
          ++ toString RecordKind.symbolSamples.code ++ ": Decoding error: " ++ toString 1
          ++ " unread bytes at end of record") ∧
      ∃ fault, Record.decode 157 twoSymbols.dropLast = .error fault := by
  have hk : (int32.run twoSymbols).1 = .ok RecordKind.symbolSamples.code := by rfl
  have hd : ∃ es, Record.decode 157 twoSymbols = .ok es := ⟨_, by rfl⟩
  obtain ⟨es, hes⟩ := hd
  have h := Record.refused_unless_whole hk hes
  exact ⟨hk, ⟨es, hes⟩, h.1 [0] (by decide),
    h.2.1 twoSymbols.dropLast [0] (by decide) (by decide)⟩

end BrokerLink

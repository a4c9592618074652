import Mathlib.Logic.ExistsUnique
import WebSocketClient.Frame.Wire
import WebSocketClient.Proofs.Frame.Schedule

/-! # The grammar of frames

A new decoder accepts exactly the octets of the frame sequences that a server may send, and reads
each of them back. A length need not be written in its shortest form, and control frames may stand
between the fragments of a message. -/
namespace WebSocketClient.Frame

theorem OpCode.code_of_ofNat? {n : Nat} {o : OpCode} (h : OpCode.ofNat? n = some o) :
    o.code = n := by
  unfold OpCode.ofNat? at h
  split at h <;> cases h <;> rfl

namespace LengthForm

def second : LengthForm → Nat → UInt8
  | sevenBit, n => UInt8.ofNat n
  | sixteenBit, _ => 126
  | sixtyFourBit, _ => 127

def extension : LengthForm → Nat → Bytes
  | sevenBit, _ => []
  | sixteenBit, n => Bytes.ofNat 2 n
  | sixtyFourBit, n => Bytes.ofNat 8 n

theorem encode_eq (form : LengthForm) (n : Nat) :
    form.encode n = form.second n :: form.extension n := by
  cases form <;> rfl

theorem toNat_second_sevenBit {n : Nat} (h : n ≤ 125) : (sevenBit.second n).toNat = n := by
  rw [second, UInt8.toNat_ofNat']
  omega

theorem second_sound {form : LengthForm} {n : Nat} (h : form.Holds n) :
    maskBit (form.second n) = false ∧
    (form.extension n).length = extendedLength (lengthCode (form.second n)) ∧
    payloadLength (form.second n) (form.extension n) = n := by
  cases form with
  | sevenBit =>
    have value := toNat_second_sevenBit h
    have small : n ≤ 125 := h
    have code : lengthCode (sevenBit.second n) = n := by
      rw [lengthCode, value]
      omega
    have none_ : extendedLength n = 0 := by
      rw [extendedLength, if_neg (by omega), if_neg (by omega)]
    refine ⟨?_, ?_, ?_⟩
    · simp [maskBit, value]
      omega
    · rw [code, none_]
      rfl
    · rw [payloadLength, code, if_pos none_]
  | sixteenBit =>
    refine ⟨rfl, Bytes.length_ofNat .., ?_⟩
    have code : extendedLength (lengthCode (sixteenBit.second n)) = 2 := rfl
    rw [payloadLength, code, if_neg (by decide), extension, Bytes.toNat_ofNat, Bytes.range_two]
    exact Nat.mod_eq_of_lt (Nat.lt_succ_of_le h)
  | sixtyFourBit =>
    refine ⟨rfl, Bytes.length_ofNat .., ?_⟩
    have code : extendedLength (lengthCode (sixtyFourBit.second n)) = 8 := rfl
    rw [payloadLength, code, if_neg (by decide), extension, Bytes.toNat_ofNat, Bytes.range_eight]
    exact Nat.mod_eq_of_lt (Nat.lt_succ_of_le h)

/-- The form in which a length was written can be seen from its first octet. -/
theorem exists_of_spelled {second : UInt8} {extension : Bytes} (clear : maskBit second = false)
    (whole : extension.length = extendedLength (lengthCode second)) :
    ∃ form : LengthForm, form.Holds (payloadLength second extension) ∧
      form.encode (payloadLength second extension) = second :: extension := by
  have low : second.toNat < 128 := by simpa [maskBit] using clear
  have code : lengthCode second = second.toNat := Nat.mod_eq_of_lt low
  have value := Bytes.toNat_lt extension
  have back := Bytes.ofNat_toNat extension
  by_cases h126 : second.toNat = 126
  · have two : extendedLength (lengthCode second) = 2 := by rw [code, h126]; rfl
    have is : second = 126 := UInt8.toNat.inj h126
    rw [whole, two] at value back
    rw [Bytes.range_two] at value
    refine ⟨sixteenBit, ?_, ?_⟩ <;> rw [payloadLength, two, if_neg (by decide)]
    · exact Nat.le_of_lt_succ value
    · rw [encode, back, is]
  by_cases h127 : second.toNat = 127
  · have eight : extendedLength (lengthCode second) = 8 := by rw [code, h127]; rfl
    have is : second = 127 := UInt8.toNat.inj h127
    rw [whole, eight] at value back
    rw [Bytes.range_eight] at value
    refine ⟨sixtyFourBit, ?_, ?_⟩ <;> rw [payloadLength, eight, if_neg (by decide)]
    · exact Nat.le_of_lt_succ value
    · rw [encode, back, is]
  · have zero : extendedLength (lengthCode second) = 0 := by
      rw [code, extendedLength, if_neg h126, if_neg h127]
    have empty : extension = [] := List.length_eq_zero_iff.mp (whole.trans zero)
    refine ⟨sevenBit, ?_, ?_⟩ <;> rw [payloadLength, zero, if_pos rfl, code]
    · show second.toNat ≤ 125
      omega
    · simp [encode, empty]

end LengthForm

/-- A decoder that waits for a header, without a limit. -/
def Decoder.between (messageOpen : Bool) : Decoder := ⟨none, messageOpen, maxSize⟩

namespace Wire

theorem toNat_firstOctet (w : Wire) :
    w.firstOctet.toNat = (if w.fin then 128 else 0) + w.opcode.code := by
  have := w.opcode.code_lt
  rw [firstOctet, UInt8.toNat_ofNat']
  split <;> omega

theorem firstOctet_sound (w : Wire) :
    reservedBits w.firstOctet = 0 ∧ opcodeBits w.firstOctet = w.opcode.code ∧
    finBit w.firstOctet = w.fin := by
  have := w.opcode.code_lt
  rw [reservedBits, opcodeBits, finBit, toNat_firstOctet]
  cases w.fin <;> simp <;> omega

theorem encode_eq (w : Wire) :
    w.encode = w.firstOctet :: w.form.second w.payload.length ::
      (w.form.extension w.payload.length ++ w.payload) := by
  rw [encode, LengthForm.encode_eq]
  rfl

theorem Valid.spelled {w : Wire} (h : w.Valid) :
    Spelled w.firstOctet (w.form.second w.payload.length) (w.form.extension w.payload.length)
      w.header := by
  obtain ⟨clear, bits, fin⟩ := w.firstOctet_sound
  obtain ⟨mask, whole, length⟩ := LengthForm.second_sound h.form_holds
  have known : OpCode.ofNat? (opcodeBits w.firstOctet) = some w.opcode := by
    rw [bits, OpCode.ofNat?_code]
  refine ⟨?_, known, fin.symm, whole, length.symm⟩
  simp [openingFault, clear, known, mask]

/-- Every whole header is that of a frame, whatever payload of its length follows. -/
theorem exists_of_spelled {first second : UInt8} {extension payload : Bytes} {frame : Header}
    (h : Spelled first second extension frame) (full : payload.length = frame.length) :
    ∃ w : Wire, w.header = frame ∧ w.payload = payload ∧ w.form.Holds w.payload.length ∧
      w.encode = first :: second :: (extension ++ payload) := by
  obtain ⟨opcode, fin, length⟩ := frame
  obtain ⟨clear, mask⟩ : reservedBits first = 0 ∧ maskBit second = false := by
    have sound := h.sound
    simp only [openingFault, h.known] at sound
    split at sound <;> simp_all
  obtain ⟨form, holds, written⟩ := LengthForm.exists_of_spelled mask h.whole
  rw [← h.length_eq, ← full] at holds written
  have code : opcode.code = opcodeBits first := OpCode.code_of_ofNat? h.known
  have firstOctet : UInt8.ofNat ((if fin then 128 else 0) + opcode.code) = first := by
    apply UInt8.toNat.inj
    have := first.toNat_lt
    have hfin : fin = finBit first := h.fin_eq
    rw [code, hfin, UInt8.toNat_ofNat']
    unfold reservedBits at clear
    unfold opcodeBits finBit
    by_cases high : 128 ≤ first.toNat <;> simp [high] <;> omega
  refine ⟨⟨opcode, fin, payload, form⟩, by simp [header, full], rfl, holds, ?_⟩
  simp only [encode, Wire.firstOctet, firstOctet, written]
  rfl

theorem Valid.length_le {w : Wire} (h : w.Valid) : w.payload.length ≤ maxSize :=
  h.spelled.length_le

theorem readHeader_encode {w : Wire} (valid : w.Valid) {isOpen after : Bool}
    (judged : judge isOpen w.header = .ok after) (later : Bytes) :
    readHeader isOpen (w.encode ++ later) = .read w.header after (w.payload ++ later) := by
  rw [encode_eq, List.cons_append, List.cons_append, List.append_assoc,
    readHeader_of_spelled valid.spelled, judged]

/-- The order in which frames may come is the one that headers are judged by. -/
theorem conversation_cons {isOpen after : Bool} {w : Wire} {rest : List Wire} :
    Conversation isOpen (w :: rest) after ↔
      w.Valid ∧ ∃ between, judge isOpen w.header = .ok between ∧
        Conversation between rest after := by
  constructor
  · intro h
    cases h with
    | control valid control next =>
      obtain ⟨fin, small⟩ := valid.control_whole control
      exact ⟨valid, isOpen, judge_eq_ok.mpr (.inl ⟨control, fin, small, rfl⟩), next⟩
    | start valid opcode next =>
      exact ⟨valid, !w.fin, judge_eq_ok.mpr (.inr (.inr ⟨opcode, rfl, rfl⟩)), next⟩
    | resume valid opcode next =>
      exact ⟨valid, !w.fin, judge_eq_ok.mpr (.inr (.inl ⟨opcode, rfl, rfl⟩)), next⟩
  · rintro ⟨valid, between, judged, next⟩
    rcases judge_eq_ok.mp judged with
      ⟨control, -, -, rfl⟩ | ⟨opcode, rfl, rfl⟩ | ⟨opcode, rfl, rfl⟩
    · exact .control valid control next
    · exact .resume valid opcode next
    · exact .start valid opcode next

def pieces (frame : Header) (data : Bytes) : List Event :=
  if data = [] then [] else [.payload frame data]

def events (w : Wire) : List Event :=
  .begin w.header :: (pieces w.header w.payload ++ [.complete w.header])

end Wire

namespace Decoder

theorem drain_owed {d : Decoder} {frame : Header} {data : Bytes}
    (reading : d.pending = some ⟨frame, data.length⟩) (unlimited : data.length ≤ d.limit)
    (later : Bytes) :
    d.drain (data ++ later) =
      (({ d with pending := none } : Decoder).drain later).after
        (Wire.pieces frame data ++ [.complete frame]) := by
  by_cases empty : data = []
  · subst empty
    rw [List.nil_append, drain_of_event (decode_complete reading later), Wire.pieces, if_pos rfl,
      List.nil_append]
  · have allowed : d.allowance ⟨frame, data.length⟩ = data.length := allowance_of_le unlimited
    have first := decode_payload reading empty (Nat.le_of_eq allowed.symm) later (.inl allowed.symm)
    have paid : (d.pay ⟨frame, data.length⟩ data.length).pending = some ⟨frame, 0⟩ := by
      simp [pay]
    rw [drain_of_event first, drain_of_event (decode_complete paid later), Drained.after_after,
      Wire.pieces, if_neg empty]
    rfl

/-- A frame that is not there as a whole takes everything and still owes. -/
theorem drain_starved {d : Decoder} {p : Pending} {data : Bytes} (reading : d.pending = some p)
    (unlimited : p.owed ≤ d.limit) (few : data.length < p.owed) :
    d.drain data =
      ⟨Wire.pieces p.frame data, none, d.pay p data.length, []⟩ := by
  by_cases empty : data = []
  · subst empty
    rw [drain_of_nothing (decode_starved reading (by omega) (.inr rfl))]
    simp [Wire.pieces, pay, ← reading]
  · have allowed : d.allowance p = p.owed := allowance_of_le unlimited
    have first := decode_payload reading empty (by omega) [] (.inr rfl)
    rw [List.append_nil] at first
    rw [drain_of_event first, drain_of_nothing (decode_starved rfl (by simp; omega) (.inr rfl)),
      Wire.pieces, if_neg empty]
    rfl

theorem drain_wire {w : Wire} (valid : w.Valid) {isOpen after : Bool}
    (judged : judge isOpen w.header = .ok after) (later : Bytes) :
    (between isOpen).drain (w.encode ++ later) = ((between after).drain later).after w.events := by
  have first : (between isOpen).decode (w.encode ++ later) =
      ⟨.event (.begin w.header), ⟨some ⟨w.header, w.payload.length⟩, after, maxSize⟩,
        w.payload ++ later⟩ := by
    have header := Wire.readHeader_encode valid judged later
    simp only [decode, between, header]
    rfl
  rw [drain_of_event first, drain_owed rfl valid.length_le, Drained.after_after]
  rfl

end Decoder

theorem drain_encodeAll {isOpen after : Bool} {frames : List Wire}
    (h : Wire.Conversation isOpen frames after) :
    (Decoder.between isOpen).drain (encodeAll frames) =
      ⟨frames.flatMap Wire.events, none, .between after, []⟩ := by
  induction frames generalizing isOpen with
  | nil =>
    cases h
    rfl
  | cons w rest ih =>
    obtain ⟨valid, middle, judged, next⟩ := Wire.conversation_cons.mp h
    rw [encodeAll, List.flatMap_cons, Decoder.drain_wire valid judged, ← encodeAll, ih next]
    rfl

/-- Where decoding stops without an error. Either it stops between frames, with at most part of a
header left, or inside a frame, and then the octets that this frame still owes, whatever they are,
would complete it to one that the grammar allows there. -/
inductive Ending (isOpen : Bool) (octets : Bytes) (r : Drained) : Prop
  | between (frames : List Wire)
      (conversation : Wire.Conversation isOpen frames r.decoder.messageOpen)
      (idle : r.decoder.pending = none) (octets_eq : octets = encodeAll frames ++ r.rest)
      (part : readHeader r.decoder.messageOpen r.rest = .incomplete)
      (events : r.events = frames.flatMap Wire.events)
  | inside (frames : List Wire) (data : Bytes) {p} (reading : r.decoder.pending = some p)
      (owes : 0 < p.owed) (dry : r.rest = [])
      (events : r.events =
        frames.flatMap Wire.events ++ .begin p.frame :: Wire.pieces p.frame data)
      (completes : ∀ missing : Bytes, missing.length = p.owed →
        ∃ w : Wire, w.header = p.frame ∧ w.payload = data ++ missing ∧
          Wire.Conversation isOpen (frames ++ [w]) r.decoder.messageOpen ∧
          octets ++ missing = encodeAll (frames ++ [w]))

theorem Ending.cons {isOpen middle : Bool} {w : Wire} {octets : Bytes} {r : Drained}
    (valid : w.Valid) (judged : judge isOpen w.header = .ok middle) (h : Ending middle octets r) :
    Ending isOpen (w.encode ++ octets) (r.after w.events) := by
  cases h with
  | between frames conversation idle octets_eq part events =>
    refine .between (w :: frames) ?_ idle ?_ part ?_
    · exact Wire.conversation_cons.mpr ⟨valid, middle, judged, conversation⟩
    · simp [octets_eq, encodeAll, Drained.after]
    · simp [events, Drained.after]
  | inside frames data reading owes dry events completes =>
    refine .inside (w :: frames) data reading owes dry ?_ ?_
    · simp [events, Drained.after]
    · intro missing length
      obtain ⟨last, header, payload, conversation, octets_eq⟩ := completes missing length
      refine ⟨last, header, payload, ?_, ?_⟩
      · exact Wire.conversation_cons.mpr ⟨valid, middle, judged, conversation⟩
      · rw [List.append_assoc, octets_eq]
        simp [encodeAll]

/-- A frame that was judged sound by its header is sound. -/
theorem Wire.valid_of_judged {w : Wire} {isOpen after : Bool} (holds : w.form.Holds w.payload.length)
    (judged : judge isOpen w.header = .ok after) : w.Valid := by
  refine ⟨holds, ?_⟩
  intro control
  rcases judge_eq_ok.mp judged with ⟨-, fin, small, -⟩ | ⟨opcode, -, -⟩ | ⟨opcode, -, -⟩
  · exact ⟨fin, small⟩
  · have : w.opcode = .continuation := opcode
    simp [this, OpCode.isControl] at control
  · have : w.opcode = .text ∨ w.opcode = .binary := opcode
    rcases this with this | this <;> simp [this, OpCode.isControl] at control

theorem Decoder.decode_between (isOpen : Bool) (octets : Bytes) :
    (Decoder.between isOpen).decode octets =
      match readHeader isOpen octets with
      | .incomplete => ⟨.nothing, .between isOpen, octets⟩
      | .refused cause rest => ⟨.fault cause, .between isOpen, rest⟩
      | .read frame after rest =>
        ⟨.event (.begin frame), ⟨some ⟨frame, frame.length⟩, after, maxSize⟩, rest⟩ := by
  rfl

/-- Octets that do not hold the whole payload of their first frame. -/
theorem ending_of_few {isOpen after : Bool} {first second : UInt8} {extension rest : Bytes}
    {frame : Header} (spelled : Spelled first second extension frame)
    (judged : judge isOpen frame = .ok after) (few : rest.length < frame.length) :
    Ending isOpen (first :: second :: (extension ++ rest))
      ((Decoder.between isOpen).drain (first :: second :: (extension ++ rest))) := by
  have begun := Decoder.decode_between isOpen (first :: second :: (extension ++ rest))
  rw [readHeader_of_spelled spelled, judged] at begun
  rw [Decoder.drain_of_event begun, Decoder.drain_starved rfl spelled.length_le few]
  refine .inside [] rest rfl (by simp; omega) rfl rfl ?_
  intro missing length
  have full : (rest ++ missing).length = frame.length := by
    rw [List.length_append, length]
    simp only
    omega
  obtain ⟨w, header, payload, holds, written⟩ := Wire.exists_of_spelled spelled full
  subst header
  have valid := Wire.valid_of_judged holds judged
  refine ⟨w, rfl, payload, ?_, ?_⟩
  · exact Wire.conversation_cons.mpr ⟨valid, after, judged, .nil after⟩
  · simp [encodeAll, written]

theorem drain_ending {isOpen : Bool} {octets : Bytes}
    (h : ((Decoder.between isOpen).drain octets).fault = none) :
    Ending isOpen octets ((Decoder.between isOpen).drain octets) := by
  induction size : octets.length using Nat.strongRecOn generalizing isOpen octets with
  | _ n ih =>
    have step := Decoder.decode_between isOpen octets
    have read := readHeader_case isOpen octets
    generalize header : readHeader isOpen octets = r at step read
    cases read with
    | short | cut =>
      rw [Decoder.drain_of_nothing step]
      exact .between [] (.nil isOpen) rfl rfl header rfl
    | faulty | broken => rw [Decoder.drain_of_fault step] at h; cases h
    | @whole first second extension frame after rest spelled judged =>
      by_cases few : rest.length < frame.length
      · exact ending_of_few spelled judged few
      -- The first frame is whole, and what follows it is shorter.
      have full : (rest.take frame.length).length = frame.length := by
        rw [List.length_take]
        omega
      obtain ⟨w, header, payload, holds, written⟩ := Wire.exists_of_spelled spelled full
      subst header
      have valid := Wire.valid_of_judged holds judged
      have parts : first :: second :: (extension ++ rest) =
          w.encode ++ rest.drop w.header.length := by
        rw [written, List.cons_append, List.cons_append, List.append_assoc,
          List.take_append_drop]
      rw [parts] at h size ⊢
      rw [Decoder.drain_wire valid judged] at h ⊢
      have shorter : (rest.drop w.header.length).length < n := by
        rw [← size, List.length_append, Wire.encode_eq]
        simp only [List.length_cons]
        omega
      exact .cons valid judged (ih _ shorter h rfl)

theorem LengthForm.eq_of_second {form other : LengthForm} {n : Nat} (holds : form.Holds n)
    (others : other.Holds n) (h : form.second n = other.second n) : form = other := by
  have value : ∀ {code : UInt8}, n ≤ 125 → sevenBit.second n = code → code.toNat ≤ 125 := by
    rintro _ small rfl
    rw [toNat_second_sevenBit small]
    exact small
  have no126 : ¬ (126 : UInt8).toNat ≤ 125 := by decide
  have no127 : ¬ (127 : UInt8).toNat ≤ 125 := by decide
  cases form <;> cases other
  · rfl
  · exact absurd (value holds h) no126
  · exact absurd (value holds h) no127
  · exact absurd (value others h.symm) no126
  · rfl
  · cases h
  · exact absurd (value others h.symm) no127
  · cases h
  · rfl

theorem Wire.encode_append_inj {v w : Wire} {isOpen after last : Bool} {rest later : Bytes}
    (hv : v.Valid) (hw : w.Valid) (jv : judge isOpen v.header = .ok after)
    (jw : judge isOpen w.header = .ok last) (h : v.encode ++ rest = w.encode ++ later) :
    v = w ∧ after = last ∧ rest = later := by
  have readV := readHeader_encode hv jv rest
  rw [h, readHeader_encode hw jw later] at readV
  obtain ⟨header, rfl, payloads⟩ : w.header = v.header ∧ last = after ∧
      w.payload ++ later = v.payload ++ rest := by simpa using readV
  obtain ⟨opcode, fin, length⟩ : w.opcode = v.opcode ∧ w.fin = v.fin ∧
      w.payload.length = v.payload.length := by simpa [Wire.header] using header
  obtain ⟨payload, rfl⟩ := List.append_inj payloads length
  have form : v.form = w.form := by
    rw [Wire.encode_eq, Wire.encode_eq, List.cons_append, List.cons_append, List.cons_append,
      List.cons_append, length] at h
    injection h with _ h
    injection h with second _
    exact LengthForm.eq_of_second hv.form_holds (length ▸ hw.form_holds) second
  rcases v with ⟨vo, vf, vp, vl⟩
  rcases w with ⟨wo, wf, wp, wl⟩
  simp_all

theorem encodeAll_inj {isOpen after last : Bool} {frames others : List Wire}
    (h : Wire.Conversation isOpen frames after) (k : Wire.Conversation isOpen others last)
    (same : encodeAll frames = encodeAll others) : frames = others := by
  have written : ∀ w : Wire, ∀ rest, encodeAll (w :: rest) = w.encode ++ encodeAll rest :=
    fun w rest => List.flatMap_cons ..
  induction frames generalizing isOpen others with
  | nil =>
    cases others with
    | nil => rfl
    | cons w rest =>
      rw [written, Wire.encode_eq] at same
      cases same
  | cons v frames ih =>
    cases others with
    | nil =>
      rw [written, Wire.encode_eq] at same
      cases same
    | cons w others =>
      obtain ⟨hv, middle, jv, h⟩ := Wire.conversation_cons.mp h
      obtain ⟨hw, middle', jw, k⟩ := Wire.conversation_cons.mp k
      rw [written, written] at same
      obtain ⟨rfl, rfl, same⟩ := Wire.encode_append_inj hv hw jv jw same
      rw [ih h k same]

/-- What is read to the end is the encoding of exactly one sequence of frames. -/
theorem existsUnique_frames {octets : Bytes}
    (clean : (Decoder.initial.drain octets).fault = none)
    (idle : (Decoder.initial.drain octets).decoder.pending = none)
    (empty : (Decoder.initial.drain octets).rest = []) :
    ∃! frames, Wire.Conversation false frames (Decoder.initial.drain octets).decoder.messageOpen ∧
      encodeAll frames = octets := by
  have ending : Ending false octets (Decoder.initial.drain octets) := drain_ending clean
  cases ending with
  | inside _ _ reading =>
    rw [idle] at reading
    cases reading
  | between frames conversation _ octets_eq =>
    have written : encodeAll frames = octets := by
      rw [octets_eq, empty, List.append_nil]
    refine ⟨frames, ⟨conversation, written⟩, ?_⟩
    rintro others ⟨other, same⟩
    exact encodeAll_inj other conversation (same.trans written.symm)

/-- Octets that a new decoder refuses do not begin the encoding of any sequence of frames. -/
theorem no_frames_of_fault {octets : Bytes} {cause : Violation}
    (refused : (Decoder.initial.drain octets).fault = some cause) {frames : List Wire}
    {isOpen : Bool} (conversation : Wire.Conversation false frames isOpen) (later : Bytes) :
    encodeAll frames ≠ octets ++ later := by
  intro same
  have read : (Decoder.initial.drain (encodeAll frames)).fault = none := by
    have clean := drain_encodeAll conversation
    exact congrArg Drained.fault clean
  have stays : (Decoder.initial.drain (octets ++ later)).fault = some cause :=
    Decoder.fault_stays Decoder.initial_sized refused later
  rw [← same, read] at stays
  cases stays

/-- Decoding undoes encoding, and what a new decoder reads to the end without an error is the
encoding of exactly one sequence of frames that the grammar allows. Where it stops without an error
but not at the end, what is there can still become such a sequence or is part of a header. Where it
stops with an error, no sequence of frames begins like that. -/
theorem accepts_exactly_conversations :
    (∀ frames isOpen, Wire.Conversation false frames isOpen →
      Decoder.initial.drain (encodeAll frames) =
        ⟨frames.flatMap Wire.events, none, .between isOpen, []⟩) ∧
    (∀ octets, let r := Decoder.initial.drain octets
      r.fault = none → r.decoder.pending = none → r.rest = [] →
        ∃! frames, Wire.Conversation false frames r.decoder.messageOpen ∧
          encodeAll frames = octets) ∧
    (∀ octets, (Decoder.initial.drain octets).fault = none →
      Ending false octets (Decoder.initial.drain octets)) ∧
    ∀ octets cause, (Decoder.initial.drain octets).fault = some cause →
      ∀ frames isOpen later, Wire.Conversation false frames isOpen →
        encodeAll frames ≠ octets ++ later := by
  refine ⟨?_, ?_, ?_, ?_⟩
  · intro frames isOpen conversation
    exact drain_encodeAll conversation
  · intro octets r clean idle empty
    exact existsUnique_frames clean idle empty
  · intro octets clean
    exact drain_ending clean
  · intro octets cause refused frames isOpen later conversation
    exact no_frames_of_fault refused conversation later

/-- A text in two fragments, the first with its length in two octets, and a ping between them. -/
theorem fragments_around_ping :
    let frames : List Wire := [⟨.text, false, [0x68], .sixteenBit⟩, ⟨.ping, true, [], .sevenBit⟩,
      ⟨.continuation, true, [0x69], .sevenBit⟩]
    Wire.Conversation false frames false ∧
      encodeAll frames = [0x01, 0x7e, 0x00, 0x01, 0x68, 0x89, 0x00, 0x80, 0x01, 0x69] ∧
      Decoder.initial.drain (encodeAll frames) =
        ⟨frames.flatMap Wire.events, none, .between false, []⟩ := by
  intro frames
  have conversation : Wire.Conversation false frames false := by
    refine .start ?_ (.inl rfl) (.control ?_ rfl (.resume ?_ rfl (.nil _)))
    · exact ⟨by decide, by decide⟩
    · exact ⟨by decide, by decide⟩
    · exact ⟨by decide, by decide⟩
  exact ⟨conversation, by decide, accepts_exactly_conversations.1 frames false conversation⟩

end WebSocketClient.Frame

import SpectroRemote.Instrument.Simulated
import SpectroRemote.Proofs.Grammar
import SpectroRemote.Proofs.Utf8
import SpectroRemote.Transport

/-!
# Bytes of requests

Which line is served for the bytes of a request, valid UTF-8 or not. Blanks around the bytes do not
count. The bytes of a text stand for the text, and those that a datagram server keeps of it for the
characters that are whole and one replacement (`requestLine_robust`).
-/

namespace SpectroRemote

/-- A byte that is a blank on its own: a tab, a line or page break, a carriage return or a space. -/
def IsBlankByte (b : UInt8) : Prop := 0x09 ≤ b ∧ b ≤ 0x0D ∨ b = 0x20

namespace IsBlankByte

variable {b : UInt8}

lemma lt (h : IsBlankByte b) : b < 0x80 := by
  rcases h with ⟨-, h⟩ | rfl
  · exact UInt8.lt_of_le_of_lt h (by decide)
  · decide

lemma not_isContinuation (h : IsBlankByte b) : ¬ Text.IsContinuation b :=
  fun hb => UInt8.lt_irrefl _ (UInt8.lt_of_lt_of_le h.lt hb.1)

lemma isBlank (h : IsBlankByte b) : Text.isBlank (Char.ofNat b.toNat) = true := by
  have hcases : b.toNat = 9 ∨ b.toNat = 10 ∨ b.toNat = 11 ∨ b.toNat = 12 ∨ b.toNat = 13
      ∨ b.toNat = 32 := by
    rcases h with ⟨hlow, hhigh⟩ | rfl
    · have hlow' : 9 ≤ b.toNat := UInt8.le_iff_toNat_le.mp hlow
      have hhigh' : b.toNat ≤ 13 := UInt8.le_iff_toNat_le.mp hhigh
      omega
    · decide
  rcases hcases with h | h | h | h | h | h <;> rw [h] <;> decide

end IsBlankByte

section Padding

variable {p bytes q : List UInt8}

/-- Blank bytes are read as blanks, whatever follows them. -/
lemma exists_decode_blanks (hp : ∀ b ∈ p, IsBlankByte b) :
    ∃ w, (∀ c ∈ w, Text.isBlank c = true)
      ∧ ∀ s, Text.decode (p ++ s) = w ++ Text.decode s := by
  induction p with
  | nil => exact ⟨[], List.forall_mem_nil _, fun s => rfl⟩
  | cons b p ih =>
    obtain ⟨w, hw, hdecode⟩ := ih fun d hd => hp d (.tail _ hd)
    have hb := hp b (.head _)
    refine ⟨Char.ofNat b.toNat :: w, ?_, fun s => ?_⟩
    · exact List.forall_mem_cons.mpr ⟨hb.isBlank, hw⟩
    · rw [List.cons_append, Text.decode_cons_of_lt hb.lt, hdecode, List.cons_append]

/-- Blank bytes around a request do not count. -/
theorem requestLine_blanks (hp : ∀ b ∈ p, IsBlankByte b) (hq : ∀ b ∈ q, IsBlankByte b)
    (bytes : List UInt8) : requestLine (p ++ bytes ++ q) = requestLine bytes := by
  obtain ⟨w, hw, hfront⟩ := exists_decode_blanks hp
  obtain ⟨w', hw', hback⟩ := exists_decode_blanks hq
  have hq' : Text.decode q = w' := by
    have := hback []
    rwa [List.append_nil, Text.decode, List.append_nil] at this
  have hhead : ∀ b ∈ q.head?, ¬ Text.IsContinuation b :=
    fun b hb => (hq b (List.mem_of_head? hb)).not_isContinuation
  rw [requestLine, requestLine, List.append_assoc, hfront, Text.decode_append hhead, hq',
    Text.trim_blank_append hw, Text.trim_append_blank hw']

end Padding

/-- A line is read back from its bytes. -/
lemma requestLine_encodeLine (line : String) : requestLine (encodeLine line) = trimmed line := by
  rw [requestLine, encodeLine, Text.decode_encode, trimmed]

section Reading

variable {bufferSize : Nat}

lemma drain_eq (h : 0 < bufferSize) (data bytes : List UInt8) :
    drain bufferSize data bytes = data ++ bytes := by
  fun_induction drain bufferSize data bytes with
  | case1 data bytes piece hnone =>
    have hbytes : bytes = [] := (List.take_eq_nil_iff.mp hnone).resolve_left h.ne'
    rw [hbytes, List.append_nil]
  | case2 data bytes piece hsome ih => rw [ih, List.append_assoc, List.take_append_drop]

/-- A connection brings all its bytes, however many there are. -/
theorem readConnection_eq (h : 0 < bufferSize) (bytes : List UInt8) :
    readConnection bufferSize bytes = bytes := by
  rw [readConnection]
  split
  · next hnone =>
    rw [hnone, (List.take_eq_nil_iff.mp hnone).resolve_left h.ne']
  · rw [drain_eq h, List.take_append_drop]

lemma TransportMode.received_of_length_le (mode : TransportMode) {bytes : List UInt8}
    (h : bytes.length ≤ bufferSize) : mode.received bufferSize bytes = bytes := by
  cases mode with
  | udp => exact List.take_of_length_le h
  | tcp =>
    cases bufferSize with
    | zero =>
      rw [List.length_eq_zero_iff.mp (Nat.le_zero.mp h)]
      rfl
    | succ size => exact readConnection_eq size.succ_pos bytes

end Reading

namespace Server

/-- A request that fits the buffer is served as one line, whichever way it travels. -/
lemma serveBytes_of_length_le {σ : Type} [Instrument σ] {st : Station} {bytes : List UInt8}
    (h : bytes.length ≤ st.settings.transport.bufferSize.toNat) (s : Server σ) :
    s.serveBytes st bytes =
      (encodeLine (s.serveLine st (requestLine bytes)).1,
        (s.serveLine st (requestLine bytes)).2) := by
  rw [serveBytes]
  dsimp only
  rw [TransportMode.received_of_length_le _ h]

end Server

/-- Of any bytes, valid UTF-8 or not, the blank ones at both ends count neither for the line that is
read nor for what it does. The bytes of a text stand for the text. Of its first bytes, which are
what a server for datagrams takes, come the whole characters, and one replacement if a character was
cut. A connection brings all bytes, so a request that fits the buffer is the same line as a datagram
and on a connection. -/
theorem requestLine_robust :
    (∀ p bytes q, (∀ b ∈ p, IsBlankByte b) → (∀ b ∈ q, IsBlankByte b) →
        requestLine (p ++ bytes ++ q) = requestLine bytes
          ∧ ∀ (σ : Type) [Instrument σ] (st : Station) (s : Server σ),
            s.serveLine st (requestLine (p ++ bytes ++ q)) = s.serveLine st (requestLine bytes))
      ∧ (∀ text, requestLine (encodeLine text) = trimmed text)
      ∧ (∀ (text : String) limit, ∃ kept, Text.IsLongestFitting kept text.toList limit ∧
          let taken := TransportMode.udp.received limit (encodeLine text)
          let isCut := (Text.encode kept).length < taken.length
          requestLine taken
            = trimmed (String.ofList (kept ++ if isCut then [Text.replacement] else [])))
      ∧ (∀ bufferSize bytes, 0 < bufferSize →
          TransportMode.tcp.received bufferSize bytes = bytes)
      ∧ ∀ (σ : Type) [Instrument σ] (st : Station) (s : Server σ) (bytes : List UInt8),
          bytes.length ≤ st.settings.transport.bufferSize.toNat →
            (∀ mode : TransportMode,
              requestLine (mode.received st.settings.transport.bufferSize.toNat bytes)
                = requestLine bytes)
            ∧ s.serveBytes st bytes =
              (encodeLine (s.serveLine st (requestLine bytes)).1,
                (s.serveLine st (requestLine bytes)).2) := by
  refine ⟨fun p bytes q hp hq => ?_, requestLine_encodeLine, fun text limit => ?_,
    fun bufferSize bytes h => readConnection_eq h bytes, ?_⟩
  · have hline := requestLine_blanks hp hq bytes
    exact ⟨hline, fun σ _ st s => by rw [hline]⟩
  · obtain ⟨kept, hkept, hdecode⟩ := Text.decode_take_encode text.toList limit
    refine ⟨kept, hkept, ?_⟩
    change String.ofList (Text.trim (Text.decode ((Text.encode text.toList).take limit))) = _
    rw [hdecode, trimmed, String.toList_ofList]
    rfl
  · intro σ _ st s bytes h
    refine ⟨fun mode => ?_, Server.serveBytes_of_length_le h s⟩
    rw [TransportMode.received_of_length_le mode h]

/-- A request with a byte that is no text, between a line feed and a tab, which fits the buffer, and
one of which the last character does not fit. -/
theorem requestLine_robust_damaged :
    let st : Station := {}
    let s : Server SimulatedInstrument := { instrument := .multicollector }
    let damaged := encodeLine "GetParameter Field" ++ [0xFF] ++ encodeLine "Set"
    (∀ b ∈ [0x0A], IsBlankByte b) ∧ (∀ b ∈ [0x09], IsBlankByte b)
      ∧ requestLine ([0x0A] ++ damaged ++ [0x09]) = "GetParameter Field\ufffdSet"
      ∧ damaged.length ≤ st.settings.transport.bufferSize.toNat
      ∧ TransportMode.tcp.received 4 damaged = damaged
      ∧ requestLine (TransportMode.udp.received 14 (encodeLine "GetParameter é"))
        = "GetParameter \ufffd"
      ∧ s.serveBytes st damaged = (encodeLine "Error: Invalid Command",
          (s.serveLine st "GetParameter Field\ufffdSet").2) := by
  intro st s damaged
  have hfront : ∀ b ∈ [0x0A], IsBlankByte b := by
    simp [IsBlankByte]
  have hback : ∀ b ∈ [0x09], IsBlankByte b := by
    simp [IsBlankByte]
  have hline : requestLine damaged = "GetParameter Field\ufffdSet" := by decide +kernel
  have hfits : damaged.length ≤ st.settings.transport.bufferSize.toNat := by decide +kernel
  have hreply : (s.serveLine st "GetParameter Field\ufffdSet").1 = "Error: Invalid Command" := by
    decide +kernel
  have hcut : requestLine (TransportMode.udp.received 14 (encodeLine "GetParameter é"))
      = "GetParameter \ufffd" := by decide +kernel
  obtain ⟨hpadding, -, -, hconnection, hserved⟩ := requestLine_robust
  have hserve := (hserved _ st s damaged hfits).2
  rw [hline, hreply] at hserve
  exact ⟨hfront, hback, (hpadding _ damaged _ hfront hback).1.trans hline, hfits,
    hconnection 4 damaged (by decide), hcut, hserve⟩

end SpectroRemote

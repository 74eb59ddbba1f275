import Econet.Aun.Frame
import Econet.Client.Frame
import Econet.Proofs.Client.EnvelopeText
import Econet.Proofs.Text.Base64

/-!
# Frames as texts

The frame of a browser client is nested three deep: a header with its data, in base 64, in an
envelope. Every frame reads as it is written. What the base 64 holds is the very datagram in which
the packet would go to a host.

## Main results

* `Message.ofEnvelope_envelope`: the envelope of a frame determines it
* `Message.decode_text`: every frame reads as itself, and carries the datagram of its packet
-/

namespace Econet.Client

theorem addressField_text (a : Address) : addressField a.text = .ok a := by
  have hchars : a.text.toList = a.chars := String.toList_ofList
  rw [addressField, hchars, Address.parse_chars]

theorem payloadField_text (bytes : List UInt8) :
    payloadField (Base64.text bytes) = .ok bytes := by
  have hchars : (Base64.text bytes).toList = Base64.encode bytes := String.toList_ofList
  rw [payloadField, hchars, Base64.trim_encode, Base64.decode_encode]

theorem Frame.isWritable_envelope (f : Frame) : f.envelope.IsWritable := by
  rintro v ⟨⟩

theorem Frame.parse_written (f : Frame) : Envelope.parse f.text.toList = some f.envelope := by
  have hchars : f.text.toList = f.envelope.chars := String.toList_ofList
  rw [hchars]
  exact Envelope.parse_chars f.isWritable_envelope

namespace Message

/-- The envelope of a frame determines it. -/
theorem ofEnvelope_envelope (f : Frame) : ofEnvelope f.envelope = .ok (.packet f) := by
  rw [Frame.envelope, ofEnvelope, addressField_text, addressField_text, payloadField_text]
  simp only [bind, Except.bind, Header.parse_frame]

theorem decode_frame (f : Frame) : decode f.text = .ok (.packet f) := by
  rw [decode, f.parse_written]
  exact ofEnvelope_envelope f

/-- The frames of a packet have one header, whether a host or a client gets them. -/
theorem encode_ofPacket (p : Packet) (sequence : UInt32) :
    (Aun.Frame.ofPacket p sequence).encode =
      (Frame.ofPacket p sequence).header.frame (Frame.ofPacket p sequence).data := rfl

/-- **Every frame reads as itself**, so that one which was read does, however it was spelled. The
frame of a packet names the addresses of the packet, and holds in base 64 the datagram that a host
would get. -/
theorem decode_text :
    (∀ f : Frame, decode f.text = .ok (.packet f)) ∧
    ∀ (p : Packet) (sequence : UInt32),
      decode (Frame.ofPacket p sequence).text = .ok (.packet (.ofPacket p sequence)) ∧
      (Frame.ofPacket p sequence).packet = p ∧
      ∃ payload,
        Envelope.parse (Frame.ofPacket p sequence).text.toList =
          some (.packet p.source.text p.destination.text payload) ∧
        Base64.decode payload.toList = some (Aun.Frame.ofPacket p sequence).encode := by
  refine ⟨decode_frame, fun p sequence => ⟨decode_frame _, rfl, ?_⟩⟩
  refine ⟨Base64.text (Aun.Frame.ofPacket p sequence).encode, ?_, ?_⟩
  · rw [encode_ofPacket]
    exact (Frame.ofPacket p sequence).parse_written
  · have hchars (bytes : List UInt8) : (Base64.text bytes).toList = Base64.encode bytes :=
      String.toList_ofList
    rw [hchars, Base64.decode_encode]

end Message

end Econet.Client

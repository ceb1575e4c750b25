import ChatHook.Input
import Mathlib.Tactic.SplitIfs

/-!
# What a source delivers

A source is read up to the first delivery that ends the reading. The bytes of everything before it,
joined (`delivered`), are all that a message can be made of: a message that was read is the text
whose encoding they are (`encode_of_readMessage`), however they were cut into pieces and however
often reading was interrupted.
-/

namespace ChatHook

/-- Whether reading goes on behind a delivery: it does behind a piece that is not empty and behind
an interruption. -/
def Chunk.goesOn : Chunk → Bool
  | .bytes piece => !piece.isEmpty
  | .failure f => f.fault = .interrupted

/-- The bytes of a delivery. -/
def Chunk.piece : Chunk → Bytes
  | .bytes piece => piece
  | .failure _ => []

/-- The failure of a delivery, if it is one. -/
def Chunk.failure? : Chunk → Option ReadFailure
  | .bytes _ => none
  | .failure f => some f

/-- All bytes that a source delivers before reading stops. -/
def delivered (source : List Chunk) : Bytes :=
  (source.takeWhile Chunk.goesOn).flatMap Chunk.piece

theorem delivered_cons_of_goesOn {chunk : Chunk} (h : chunk.goesOn = true) (source : List Chunk) :
    delivered (chunk :: source) = chunk.piece ++ delivered source := by
  rw [delivered, List.takeWhile_cons_of_pos h, List.flatMap_cons, delivered]

theorem delivered_cons_of_stop {chunk : Chunk} (h : chunk.goesOn = false) (source : List Chunk) :
    delivered (chunk :: source) = [] := by
  rw [delivered, List.takeWhile_cons_of_neg (by simp [h]), List.flatMap_nil]

/-- Bytes that come in one piece are delivered as they are. -/
theorem delivered_singleton (bytes : Bytes) : delivered [.bytes bytes] = bytes := by
  cases bytes with
  | nil => rfl
  | cons byte bytes => rw [delivered_cons_of_goesOn rfl, Chunk.piece, delivered, List.takeWhile_nil,
      List.flatMap_nil, List.append_nil]

/-- A delivery behind which reading goes on leaves everything but the bytes to the rest. -/
theorem drain_cons_of_goesOn {chunk : Chunk} (h : chunk.goesOn = true) (source : List Chunk) :
    drain (chunk :: source) =
      ⟨chunk.piece ++ (drain source).bytes, (drain source).failure, (drain source).rest⟩ := by
  cases chunk with
  | bytes piece =>
    rw [drain, if_neg (by simpa [Chunk.goesOn] using h)]
    rfl
  | failure failure =>
    rw [drain, if_pos (by simpa [Chunk.goesOn] using h)]
    rfl

/-- Reading comes to nothing behind a delivery that stops it. -/
theorem drain_cons_of_stop {chunk : Chunk} (h : chunk.goesOn = false) (source : List Chunk) :
    drain (chunk :: source) = ⟨[], chunk.failure?, source⟩ := by
  cases chunk with
  | bytes piece =>
    rw [drain, if_pos (by simpa [Chunk.goesOn] using h)]
    rfl
  | failure failure =>
    rw [drain, if_neg (by simpa [Chunk.goesOn] using h)]
    rfl

/-- Reading keeps the delivered bytes, and nothing else. -/
theorem bytes_drain (source : List Chunk) : (drain source).bytes = delivered source := by
  induction source with
  | nil => rfl
  | cons chunk source ih =>
    cases hchunk : chunk.goesOn with
    | true => rw [drain_cons_of_goesOn hchunk, delivered_cons_of_goesOn hchunk, ih]
    | false => rw [drain_cons_of_stop hchunk, delivered_cons_of_stop hchunk]

/-- A message that was read is the text of exactly the bytes that were delivered. -/
theorem encode_of_readMessage {source : List Chunk} {message : String}
    (h : (readMessage source).result = .ok message) : Utf8.encode message = delivered source := by
  simp only [readMessage, ReadStop.result] at h
  split at h
  · simp at h
  · split at h
    · rename_i text hdecode
      cases h
      rw [Utf8.encode_of_decode? hdecode, bytes_drain]
    · simp at h

/-- A text whose encoding comes in one piece is read, and nothing else is. -/
theorem readMessage_singleton_eq_ok_iff {bytes : Bytes} {message : String} :
    (readMessage [.bytes bytes]).result = .ok message ↔ Utf8.encode message = bytes := by
  constructor
  · intro h
    rw [encode_of_readMessage h, delivered_singleton]
  · rintro rfl
    have hfailure : (drain [.bytes (Utf8.encode message)]).failure = none := by
      rw [drain]
      split_ifs <;> rfl
    simp only [readMessage, ReadStop.result, hfailure]
    rw [bytes_drain, delivered_singleton, Utf8.decode?_encode]

end ChatHook

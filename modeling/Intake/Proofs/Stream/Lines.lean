import Intake.Proofs.Text.Utf8
import Intake.Stream

/-!
# The lines of a stream

A stream is a text exactly if each of its lines is (`isText_iff_lines`), so lines may be read one by
one. No line holds a line feed, and a stream with given lines is had by ending each of them with
carriage return and line feed (`streamLines_joinLines`): the return that is dropped at the end of a
line is then never one of its own.
-/

namespace Intake

open Intake.Text

/-! ## Lines that are texts -/

theorem decode_isSome_dropReturn (piece : List UInt8) :
    (decode (dropReturn piece)).isSome = (decode piece).isSome := by
  unfold dropReturn
  split
  · next last =>
    obtain ⟨before, rfl⟩ := List.getLast?_eq_some_iff.mp last
    rw [List.dropLast_concat, decode_isSome_append_singleton (by decide)]
  · rfl

theorem decode_isSome_linesOfPieces (pieces : List (List UInt8)) :
    (∀ line ∈ linesOfPieces pieces, (decode line).isSome = true) ↔
      ∀ piece ∈ pieces, (decode piece).isSome = true := by
  fun_induction linesOfPieces pieces with
  | case1 => simp
  | case2 last empty =>
    obtain rfl := List.isEmpty_iff.mp empty
    simp [decode]
  | case3 last some_bytes => simp
  | case4 piece rest several ih =>
    rw [List.forall_mem_cons, List.forall_mem_cons, ih, decode_isSome_dropReturn]

/-- **A stream is a text exactly if all its lines are.** -/
theorem isText_iff_lines (bytes : List UInt8) :
    (ofUtf8? bytes).isSome = true ↔
      ∀ line ∈ streamLines bytes, (ofUtf8? line).isSome = true := by
  simp only [ofUtf8?, Option.isSome_map]
  rw [streamLines, decode_isSome_linesOfPieces]
  exact decode_isSome_iff_pieces bytes

/-- **Only a carriage return of the text is dropped** at the end of its line. -/
theorem exists_dropReturn_encode (cs : List Char) :
    ∃ kept, dropReturn (encode cs) = encode kept ∧ (cs = kept ∨ cs = kept ++ ['\r']) := by
  unfold dropReturn
  split
  · next last =>
    obtain ⟨before, bytes_eq⟩ := List.getLast?_eq_some_iff.mp last
    have text : (decode (before ++ [13])).isSome = true := by rw [← bytes_eq, decode_encode]; rfl
    rw [decode_isSome_append_singleton (by decide)] at text
    obtain ⟨kept, rfl⟩ := decode_isSome_iff.mp text
    have same : decode (encode cs) = decode (encode (kept ++ ['\r'])) := by
      rw [bytes_eq, encode_append]
      rfl
    rw [decode_encode, decode_encode] at same
    exact ⟨kept, by rw [bytes_eq, List.dropLast_concat], .inr (Option.some.inj same)⟩
  · exact ⟨cs, rfl, .inl rfl⟩

/-! ## Streams with given lines -/

/-- The bytes of some lines, each with its ending. -/
def joinLines (lines : List (List UInt8)) : List UInt8 :=
  lines.flatMap fun line => line ++ [13, 10]

theorem linesOfPieces_cons {piece : List UInt8} {pieces : List (List UInt8)} (more : pieces ≠ []) :
    linesOfPieces (piece :: pieces) = dropReturn piece :: linesOfPieces pieces := by
  cases pieces with
  | nil => exact absurd rfl more
  | cons second rest => rfl

theorem streamLines_append {piece : List UInt8} (whole : 10 ∉ piece) (rest : List UInt8) :
    streamLines (piece ++ 10 :: rest) = dropReturn piece :: streamLines rest := by
  rw [streamLines, splitAtEach_append_cons (by rfl), splitAtEach_of_not_mem whole,
    List.singleton_append, linesOfPieces_cons (splitAtEach_ne_nil _ _), ← streamLines]

theorem streamLines_cons {line : List UInt8} (whole : 10 ∉ line) (rest : List UInt8) :
    streamLines (line ++ [13, 10] ++ rest) = line :: streamLines rest := by
  have whole_piece : 10 ∉ line ++ [13] := by simp [whole]
  have bytes_eq : line ++ [13, 10] ++ rest = (line ++ [13]) ++ 10 :: rest := by simp
  rw [bytes_eq, streamLines_append whole_piece, dropReturn, if_pos (by simp), List.dropLast_concat]

/-- **Joined lines are the lines of the whole.** -/
theorem streamLines_joinLines {lines : List (List UInt8)} (whole : ∀ line ∈ lines, 10 ∉ line) :
    streamLines (joinLines lines) = lines := by
  induction lines with
  | nil => rfl
  | cons line rest ih =>
    rw [joinLines, List.flatMap_cons, ← joinLines, streamLines_cons (whole line (by simp)),
      ih fun l member => whole l (List.mem_cons_of_mem _ member)]

/-- No line holds a line feed. -/
theorem lineFeed_not_mem_of_mem_streamLines {bytes line : List UInt8}
    (member : line ∈ streamLines bytes) : 10 ∉ line := by
  have pieces_free := not_mem_of_mem_splitAtEach 10 bytes
  unfold streamLines at member
  generalize splitAtEach (· == 10) bytes = pieces at member pieces_free
  fun_induction linesOfPieces pieces with
  | case1 => cases member
  | case2 last empty => cases member
  | case3 last some_bytes => exact pieces_free line member
  | case4 piece rest several ih =>
    obtain ⟨piece_free, rest_free⟩ := List.forall_mem_cons.mp pieces_free
    rcases List.mem_cons.mp member with rfl | later
    · unfold dropReturn
      split
      · exact fun inside => piece_free ((List.dropLast_sublist _).subset inside)
      · exact piece_free
    · exact ih later rest_free

end Intake

import ProxyControl.Http.Message
import ProxyControl.Proofs.Text.Replacement

namespace ProxyControl

open Utf8 (Bytes Replaced)

theorem Utf8.Replaced.isUnicode {bytes : Bytes} {t : Text} (replaced : Replaced bytes t) : t.IsUnicode := by
  induction replaced with
  | nil => exact Text.IsUnicode.nil
  | point scalar _ ih => exact ih.cons scalar
  | malformed _ _ ih => exact ih.cons rfl

namespace Charset

theorem feedAll_append (charset : Charset) (state : Utf8.State) (first rest : Bytes) :
    charset.feedAll state (first ++ rest) =
      ((charset.feedAll state first).1 ++ (charset.feedAll (charset.feedAll state first).2 rest).1,
        (charset.feedAll (charset.feedAll state first).2 rest).2) := by
  induction first generalizing state with
  | nil => rfl
  | cons b first ih =>
    simp only [List.cons_append, feedAll, ih, List.append_assoc]

theorem feedAll_utf8 (state : Utf8.State) (bytes : Bytes) : utf8.feedAll state bytes = Utf8.feedAll state bytes := by
  induction bytes generalizing state with
  | nil => rfl
  | cons b bytes ih => simp only [feedAll, feed, Utf8.feedAll, ih]

theorem decodeLeniently_utf8 (bytes : Bytes) : utf8.decodeLeniently bytes = Utf8.decodeLeniently bytes := by
  rw [decodeLeniently, feedAll_utf8, Utf8.decodeLeniently]

/-- What is complete stands at the beginning of what any continuation gives, and at most one point is held back. -/
theorem complete_of_replaced {bytes more : Bytes} {t : Text} (replaced : Replaced (bytes ++ more) t) :
    (utf8.feedAll .start bytes).1 <+: t := by
  rw [Utf8.replaced_iff.mp replaced, ← decodeLeniently_utf8, decodeLeniently, feedAll_append]
  dsimp only
  rw [List.append_assoc]
  exact List.prefix_append _ _

theorem replaced_of_complete (bytes : Bytes) :
    ∃ held : Text, held.length ≤ 1 ∧ Replaced bytes ((utf8.feedAll .start bytes).1 ++ held) := by
  refine ⟨Utf8.finish (utf8.feedAll .start bytes).2, ?_, ?_⟩
  · cases (utf8.feedAll .start bytes).2 with
    | start => exact Nat.zero_le 1
    | inside pending => exact Nat.le_refl 1
  · exact Utf8.replaced_iff.mpr (decodeLeniently_utf8 bytes)

theorem isScalar_ofByte (b : UInt8) : Text.isScalar (.ofNat b.toNat) = true := by
  have bound := b.toNat_lt
  rw [CodePoint.isScalar_iff, CodePoint.toNat_ofNat (by omega)]
  omega

/-- If every byte is a character by itself, then so it is for all of them, and nothing is ever held back. -/
theorem isUnicode_of_single {charset : Charset}
    (single : ∀ state b, (charset.feed state b).1.IsUnicode ∧ (charset.feed state b).2 = .start) (bytes : Bytes) :
    (charset.decodeLeniently bytes).IsUnicode := by
  suffices each : (charset.feedAll .start bytes).1.IsUnicode ∧ (charset.feedAll .start bytes).2 = .start by
    rw [decodeLeniently]
    dsimp only
    rw [each.2]
    exact each.1.append .nil
  induction bytes with
  | nil => exact ⟨.nil, rfl⟩
  | cons b bytes ih =>
    obtain ⟨character, start⟩ := single .start b
    rw [feedAll]
    dsimp only
    rw [start]
    exact ⟨character.append ih.1, ih.2⟩

theorem isUnicode_decodeLeniently (charset : Charset) (bytes : Bytes) : (charset.decodeLeniently bytes).IsUnicode := by
  cases charset with
  | utf8 =>
    rw [decodeLeniently_utf8]
    exact (Utf8.replaced_decodeLeniently bytes).isUnicode
  | ascii =>
    refine isUnicode_of_single (fun state b => ⟨?_, rfl⟩) bytes
    rw [feed]
    refine Text.IsUnicode.nil.cons ?_
    split
    · exact isScalar_ofByte b
    · rfl
  | latin1 =>
    refine isUnicode_of_single (fun state b => ⟨?_, rfl⟩) bytes
    exact Text.IsUnicode.nil.cons (isScalar_ofByte b)

end Charset

namespace Http.Reply

variable {charset : Charset} {state : Utf8.State}

/-- Of the pieces that came before, only their bytes count. -/
theorem textFrom_append (pieces : List Bytes) (later : List Chunk) :
    textFrom charset state (pieces.map .bytes ++ later) =
      ((charset.feedAll state pieces.flatten).1 ++
          (textFrom charset (charset.feedAll state pieces.flatten).2 later).1,
        (textFrom charset (charset.feedAll state pieces.flatten).2 later).2) := by
  induction pieces generalizing state with
  | nil => rfl
  | cons piece pieces ih =>
    simp only [List.map_cons, List.cons_append, textFrom, ih, List.flatten_cons, Charset.feedAll_append,
      List.append_assoc]

theorem textFrom_pieces (pieces : List Bytes) :
    textFrom charset .start (pieces.map .bytes) = (charset.decodeLeniently pieces.flatten, none) := by
  have whole : textFrom charset .start (pieces.map .bytes ++ []) = _ := textFrom_append pieces []
  rwa [List.append_nil] at whole

/-- A stream that fails gives what was complete before. -/
theorem textFrom_failing (pieces : List Bytes) (failure : Failure) (later : List Chunk) :
    textFrom charset .start (pieces.map .bytes ++ .failure failure :: later) =
      ((charset.feedAll .start pieces.flatten).1, some failure) := by
  rw [textFrom_append, textFrom, List.append_nil]

/-- Whatever arrives, and wherever it breaks off: what was decoded stands at the beginning of what some bytes decode
to. -/
theorem exists_begun (charset : Charset) (chunks : List Chunk) (state : Utf8.State) :
    ∃ bytes, (textFrom charset state chunks).1 <+:
      (charset.feedAll state bytes).1 ++ Utf8.finish (charset.feedAll state bytes).2 := by
  induction chunks generalizing state with
  | nil => exact ⟨[], List.prefix_refl _⟩
  | cons chunk chunks ih =>
    cases chunk with
    | failure failure => exact ⟨[], List.nil_prefix⟩
    | bytes content =>
      obtain ⟨bytes, begins⟩ := ih (charset.feedAll state content).2
      refine ⟨content ++ bytes, ?_⟩
      rw [textFrom, Charset.feedAll_append]
      dsimp only
      rw [List.append_assoc]
      exact (List.prefix_append_right_inj _).mpr begins

theorem isUnicode_arrivingText (reply : Reply) : reply.arrivingText.1.IsUnicode := by
  obtain ⟨bytes, begins⟩ := exists_begun reply.charset reply.chunks .start
  exact (reply.charset.isUnicode_decodeLeniently bytes).of_begins begins

end Http.Reply

end ProxyControl

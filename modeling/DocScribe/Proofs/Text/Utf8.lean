import DocScribe.Proofs.Json.Grammar
import DocScribe.Text.Utf8

/-!
# `DocScribe.Proofs.Text.Utf8`: which texts have bytes

A text has bytes exactly if it has no surrogates
(`encode_eq_ok_iff`), and then reading the bytes gives the text again
(`decode_encode`): the bytes of a code point are a sequence that decodes to
it, whatever follows (`decodeOne_encodeOne`).
-/

set_option autoImplicit false

namespace DocScribe.Utf8

open Json (IsWhole)

/-! ### Texts without bytes -/

/-- Surrogates are what cannot be encoded, and nothing else is in the
way. -/
theorem encodeError?_eq_none_iff {t : Text} : encodeError? t = none ↔ IsWhole t := by
  have hdrop : t.dropWhile (fun c => !c.isSurrogate) = [] ↔ IsWhole t := by
    induction t with
    | nil => exact iff_of_true rfl (List.forall_mem_nil _)
    | cons c t ih =>
        rw [IsWhole, List.forall_mem_cons, ← IsWhole, ← ih]
        cases hc : c.isSurrogate <;> simp [hc]
  rw [← hdrop, encodeError?]
  split
  · next hnil => exact iff_of_true rfl hnil
  · next hcons => exact iff_of_false nofun (by rw [hcons]; exact nofun)

/-- So a text is encoded exactly if it has none, code point by code
point. -/
theorem encode_eq_ok_iff {t : Text} {bytes : List UInt8} :
    encode t = .ok bytes ↔ IsWhole t ∧ bytes = t.flatMap encodeOne := by
  rw [← encodeError?_eq_none_iff, encode]
  cases encodeError? t with
  | none => exact ⟨fun h => ⟨rfl, (Except.ok.inj h).symm⟩, fun h => congrArg Except.ok h.2.symm⟩
  | some e => exact iff_of_false nofun fun h => nomatch h.1

/-- A text with a surrogate has no bytes. -/
theorem exists_error_of_not_isWhole {t : Text} (h : ¬ IsWhole t) : ∃ e, encode t = .error e := by
  cases hencode : encode t with
  | error e => exact ⟨e, rfl⟩
  | ok bytes => exact absurd (encode_eq_ok_iff.mp hencode).1 h

/-! ### Reading bytes again -/

/-- A code point is the one of its number. -/
theorem ofNatD_val (c : CodePoint) : CodePoint.ofNatD c.val = c := by
  rw [CodePoint.ofNatD, CodePoint.ofNat?, dif_pos c.val_lt]
  rfl

/-- A byte holds numbers below 256. -/
theorem toNat_toUInt8 {n : Nat} (h : n < 256) : n.toUInt8.toNat = n := by
  simp [Nat.mod_eq_of_lt h]

section

variable {a : Nat} {b c d : UInt8} (hsecond : isSecond a b.toNat = true) (rest : List UInt8)

include hsecond

/-- Two bytes are a code point if the first says so. That the second goes on
with it was tested before. -/
theorem decodeOne_two (hlength : sequenceLength a = some 2) :
    decodeOne a (b :: rest)
      = .ok (CodePoint.ofNatD ((a - 0xC0) * 64 + payload b.toNat), rest) := by
  rw [decodeOne, hlength]
  simp [hsecond]

/-- Three bytes are one code point, if they are made as they should be: the
first tells that there are three, and two more follow. -/
theorem decodeOne_three (hlength : sequenceLength a = some 3)
    (hc : isContinuation c.toNat = true) :
    decodeOne a (b :: c :: rest)
      = .ok (CodePoint.ofNatD ((a - 0xE0) * 4096 + payload b.toNat * 64 + payload c.toNat),
        rest) := by
  rw [decodeOne, hlength]
  simp [hsecond, hc]

/-- Four bytes are one code point. Only the second byte is bounded more
closely, against overlong forms and numbers that are too large. -/
theorem decodeOne_four (hlength : sequenceLength a = some 4)
    (hc : isContinuation c.toNat = true) (hd : isContinuation d.toNat = true) :
    decodeOne a (b :: c :: d :: rest)
      = .ok (CodePoint.ofNatD ((a - 0xF0) * 262144 + payload b.toNat * 4096
        + payload c.toNat * 64 + payload d.toNat), rest) := by
  rw [decodeOne, hlength]
  simp [hsecond, hc, hd]

end

section Mark

variable {n : Nat} (hn : n < 64)

include hn

/-- Six bits behind the mark of a continuation are a byte. -/
theorem toNat_mark : (0x80 + n).toUInt8.toNat = 0x80 + n := toNat_toUInt8 (by omega)

/-- Such a byte is seen to go on with a sequence. -/
theorem isContinuation_mark : isContinuation (0x80 + n).toUInt8.toNat = true := by
  rw [toNat_mark hn, isContinuation]
  simp only [Bool.and_eq_true, decide_eq_true_eq]
  omega

/-- The payload of a continuation is what was put into it. -/
theorem payload_mark : payload (0x80 + n).toUInt8.toNat = n := by
  rw [toNat_mark hn]
  exact Nat.add_sub_cancel_left 0x80 n

/-- The bounds on the second byte keep out what is written shorter, what is a
surrogate, and numbers that are too large. They are met by the others. -/
theorem isSecond_mark {a : Nat} (hlow : a = 0xE0 → 0x20 ≤ n) (hsurrogate : a = 0xED → n < 0x20)
    (hlow' : a = 0xF0 → 0x10 ≤ n) (hhigh : a = 0xF4 → n < 0x10) :
    isSecond a (0x80 + n).toUInt8.toNat = true := by
  rw [isSecond, isContinuation_mark hn, toNat_mark hn]
  simp only [Bool.and_eq_true, Bool.or_eq_true, bne_iff_ne, decide_eq_true_eq, true_and]
  omega

end Mark

/-- The bytes of a code point: the first one starts a sequence of their
number, and the sequence is read as the code point, whatever follows. The
cases are the four lengths. -/
theorem decodeOne_encodeOne {c : CodePoint} (h : c.isSurrogate = false) :
    ∃ a tail, encodeOne c = a :: tail
      ∧ ∀ rest, decodeOne a.toNat (tail ++ rest) = .ok (c, rest) := by
  have hlt := c.val_lt
  simp only [CodePoint.isSurrogate, Bool.and_eq_false_iff, decide_eq_false_iff_not] at h
  have hlast : c.val % 64 < 64 := Nat.mod_lt _ (by decide)
  have hmiddle : c.val / 64 % 64 < 64 := Nat.mod_lt _ (by decide)
  rw [encodeOne]
  split
  · refine ⟨_, [], rfl, fun rest => ?_⟩
    have hlength : sequenceLength c.val = some 1 := by rw [sequenceLength, if_pos (by omega)]
    rw [toNat_toUInt8 (by omega), decodeOne, hlength]
    simp [ofNatD_val]
  split
  · refine ⟨_, [_], rfl, fun rest => ?_⟩
    have hlength : sequenceLength (0xC0 + c.val / 64) = some 2 := by
      rw [sequenceLength, if_neg (by omega), if_pos (by simp; omega)]
    have hsecond := isSecond_mark (a := 0xC0 + c.val / 64) hlast (by omega) (by omega) (by omega)
      (by omega)
    have hval : (0xC0 + c.val / 64 - 0xC0) * 64 + c.val % 64 = c.val := by omega
    rw [toNat_toUInt8 (by omega), List.cons_append, List.nil_append,
      decodeOne_two hsecond rest hlength, payload_mark hlast, hval, ofNatD_val]
  split
  · refine ⟨_, [_, _], rfl, fun rest => ?_⟩
    have hlength : sequenceLength (0xE0 + c.val / 4096) = some 3 := by
      rw [sequenceLength, if_neg (by omega), if_neg (by simp; omega), if_pos (by simp; omega)]
    have hsecond := isSecond_mark (a := 0xE0 + c.val / 4096) hmiddle (by omega) (by omega)
      (by omega) (by omega)
    have hval : (0xE0 + c.val / 4096 - 0xE0) * 4096 + c.val / 64 % 64 * 64 + c.val % 64
        = c.val := by omega
    rw [toNat_toUInt8 (by omega), List.cons_append, List.cons_append, List.nil_append,
      decodeOne_three hsecond rest hlength (isContinuation_mark hlast), payload_mark hmiddle,
      payload_mark hlast, hval, ofNatD_val]
  · refine ⟨_, [_, _, _], rfl, fun rest => ?_⟩
    have hlength : sequenceLength (0xF0 + c.val / 262144) = some 4 := by
      rw [sequenceLength, if_neg (by omega), if_neg (by simp; omega), if_neg (by simp; omega),
        if_pos (by simp; omega)]
    have hfirst : c.val / 4096 % 64 < 64 := Nat.mod_lt _ (by decide)
    have hsecond := isSecond_mark (a := 0xF0 + c.val / 262144) hfirst (by omega) (by omega)
      (by omega) (by omega)
    have hval : (0xF0 + c.val / 262144 - 0xF0) * 262144 + c.val / 4096 % 64 * 4096
        + c.val / 64 % 64 * 64 + c.val % 64 = c.val := by omega
    rw [toNat_toUInt8 (by omega), List.cons_append, List.cons_append, List.cons_append,
      List.nil_append, decodeOne_four hsecond rest hlength (isContinuation_mark hmiddle)
        (isContinuation_mark hlast), payload_mark hfirst, payload_mark hmiddle,
      payload_mark hlast, hval, ofNatD_val]

/-- Reading the bytes of a text, with enough fuel for its code points,
behind anything that was read before. -/
theorem decodeFrom_flatMap {t : Text} (h : IsWhole t) {fuel : Nat} (hfuel : t.length ≤ fuel)
    (position : Nat) (read : Text) :
    decodeFrom fuel position (t.flatMap encodeOne) read = .ok (read.reverse ++ t) := by
  induction t generalizing fuel position read with
  | nil => cases fuel <;> simp [decodeFrom]
  | cons c t ih =>
      obtain ⟨fuel, rfl⟩ : ∃ n, fuel = n + 1 := ⟨fuel - 1, by simp at hfuel; omega⟩
      obtain ⟨a, tail, hbytes, hdecode⟩ := decodeOne_encodeOne (h c List.mem_cons_self)
      rw [List.flatMap_cons, hbytes, List.cons_append, decodeFrom, hdecode]
      dsimp only
      rw [ih (fun d hd => h d (List.mem_cons_of_mem c hd)) (by simpa using hfuel)]
      simp

/-- **The bytes of a text are read as the text.** Induction on the text;
each code point takes one to four bytes, and the first of them tells how
many. -/
theorem decode_encode {t : Text} {bytes : List UInt8} (h : encode t = .ok bytes) :
    decode bytes = .ok t := by
  obtain ⟨hwhole, rfl⟩ := encode_eq_ok_iff.mp h
  have hlength : t.length ≤ (t.flatMap encodeOne).length := by
    clear h
    induction t with
    | nil => exact Nat.le_refl 0
    | cons c t ih =>
        obtain ⟨a, tail, hbytes, -⟩ := decodeOne_encodeOne (hwhole c List.mem_cons_self)
        have htail := ih fun d hd => hwhole d (List.mem_cons_of_mem c hd)
        rw [List.flatMap_cons, hbytes, List.length_append, List.length_cons, List.length_cons]
        omega
  rw [decode, decodeFrom_flatMap hwhole hlength]
  rfl

end DocScribe.Utf8

import Walkthrough.Text.Utf8

/-!
# ASCII in the written form of a text

An octet below 128 is never part of a longer character.  So a newline or a carriage return among
the octets of a text is that character in the text (`mem_encode_iff`, `getLast?_encode_iff`), and
octets are a text exactly if they are one with such an octet behind them (`isText_append_iff`).
-/

namespace Walkthrough.Text.Utf8

/-- Octets that are the written form of some text. -/
def IsText (octets : List UInt8) : Prop :=
  ∃ text, encode text = octets

theorem isText_encode (text : String) : IsText (encode text) := ⟨text, rfl⟩

theorem decode?_eq_none_iff {octets : List UInt8} : decode? octets = none ↔ ¬ IsText octets := by
  rw [Option.eq_none_iff_forall_ne_some, IsText, not_exists]
  exact forall_congr' fun _ => not_congr decode?_eq_some_iff

/-- The octet of a character below 128. -/
def octetOf (c : Char) : UInt8 := UInt8.ofNat c.toNat

theorem utf8EncodeChar_of_lt {c : Char} (low : c.toNat < 128) :
    String.utf8EncodeChar c = [octetOf c] := by
  have small : c.val.toNat ≤ 0x7f := Nat.le_of_lt_succ low
  simp only [String.utf8EncodeChar, if_pos small]
  rfl

/-- All octets of a character above 127 are above 127 themselves. -/
theorem le_of_mem_utf8EncodeChar {c : Char} (high : 128 ≤ c.toNat) {octet : UInt8}
    (h : octet ∈ String.utf8EncodeChar c) : 128 ≤ octet.toNat := by
  have large : ¬ c.val.toNat ≤ 0x7f := Nat.not_le.mpr high
  simp only [String.utf8EncodeChar, large, if_false] at h
  split at h
  · simp only [List.mem_cons, List.not_mem_nil, or_false] at h
    rcases h with rfl | rfl <;> simp only [UInt8.toNat_ofNat'] <;> omega
  · split at h
    · simp only [List.mem_cons, List.not_mem_nil, or_false] at h
      rcases h with rfl | rfl | rfl <;> simp only [UInt8.toNat_ofNat'] <;> omega
    · simp only [List.mem_cons, List.not_mem_nil, or_false] at h
      rcases h with rfl | rfl | rfl | rfl <;> simp only [UInt8.toNat_ofNat'] <;> omega

theorem toNat_octetOf {c : Char} (low : c.toNat < 128) : (octetOf c).toNat = c.toNat := by
  rw [octetOf, UInt8.toNat_ofNat']
  exact Nat.mod_eq_of_lt (by omega)

/-- **An octet below 128 stands for a character of its own.** -/
theorem mem_utf8EncodeChar_iff {c d : Char} (low : c.toNat < 128) :
    octetOf c ∈ String.utf8EncodeChar d ↔ d = c := by
  constructor
  · intro h
    by_cases small : d.toNat < 128
    · rw [utf8EncodeChar_of_lt small, List.mem_singleton] at h
      have same := congrArg UInt8.toNat h
      rw [toNat_octetOf low, toNat_octetOf small] at same
      exact Char.toNat_inj.mp same.symm
    · have above := le_of_mem_utf8EncodeChar (Nat.le_of_not_lt small) h
      rw [toNat_octetOf low] at above
      omega
  · rintro rfl
    rw [utf8EncodeChar_of_lt low]
    exact List.mem_singleton_self _

theorem mem_encode_iff {c : Char} (low : c.toNat < 128) (text : String) :
    octetOf c ∈ encode text ↔ c ∈ text.toList := by
  simp only [encode, List.mem_flatMap, mem_utf8EncodeChar_iff low]
  constructor
  · rintro ⟨d, mem, rfl⟩
    exact mem
  · intro mem
    exact ⟨c, mem, rfl⟩

theorem encode_ofList_append_singleton {c : Char} (low : c.toNat < 128) (text : List Char) :
    encode (String.ofList (text ++ [c])) = encode (String.ofList text) ++ [octetOf c] := by
  simp [encode, utf8EncodeChar_of_lt low]

/-- A text ends in a character below 128 exactly if its octets end in the octet of it. -/
theorem getLast?_encode_iff {c : Char} (low : c.toNat < 128) (text : String) :
    (encode text).getLast? = some (octetOf c) ↔ text.toList.getLast? = some c := by
  constructor
  · intro h
    rcases List.eq_nil_or_concat text.toList with empty | ⟨before, d, concat⟩
    · simp [encode, empty] at h
    · rw [List.concat_eq_append] at concat
      rw [encode, concat, List.flatMap_append, List.flatMap_singleton,
        List.getLast?_append, Option.or_of_isSome (by simp [String.utf8EncodeChar_ne_nil])] at h
      have same := (mem_utf8EncodeChar_iff low).mp (List.mem_of_getLast? h)
      rw [concat, same, List.getLast?_concat]
  · intro h
    obtain ⟨before, concat⟩ := List.getLast?_eq_some_iff.mp h
    rw [← String.ofList_toList (s := text), concat, encode_ofList_append_singleton low,
      List.getLast?_concat]

/-- Octets that end in an octet below 128 are those of a text that ends in its character. -/
theorem encode_eq_append_singleton_iff {c : Char} (low : c.toNat < 128) {text : String}
    {octets : List UInt8} :
    encode text = octets ++ [octetOf c] ↔
      ∃ before, text = String.ofList (before ++ [c]) ∧ encode (String.ofList before) = octets := by
  constructor
  · intro h
    have last : (encode text).getLast? = some (octetOf c) := by rw [h, List.getLast?_concat]
    obtain ⟨before, concat⟩ := List.getLast?_eq_some_iff.mp ((getLast?_encode_iff low text).mp last)
    have same : text = String.ofList (before ++ [c]) := by rw [← concat, String.ofList_toList]
    refine ⟨before, same, ?_⟩
    rw [same, encode_ofList_append_singleton low] at h
    exact List.append_cancel_right h
  · rintro ⟨before, rfl, rfl⟩
    exact encode_ofList_append_singleton low before

theorem isText_append_iff {c : Char} (low : c.toNat < 128) (octets : List UInt8) :
    IsText (octets ++ [octetOf c]) ↔ IsText octets := by
  constructor
  · rintro ⟨text, h⟩
    obtain ⟨before, -, hb⟩ := (encode_eq_append_singleton_iff low).mp h
    exact ⟨_, hb⟩
  · rintro ⟨text, rfl⟩
    refine ⟨String.ofList (text.toList ++ [c]), ?_⟩
    rw [encode_ofList_append_singleton low, String.ofList_toList]

end Walkthrough.Text.Utf8

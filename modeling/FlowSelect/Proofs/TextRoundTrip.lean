import FlowSelect.Text.Basic
import FlowSelect.Text.Percent
/-! Text codings that undo themselves: percent coding, and joining pieces with a separator.

`decode_encode`: decoding the percent-encoded form of any text gives the text back. Encoding
writes the UTF-8 bytes of the text as ASCII characters, so the decoder sees one run of ASCII and
reads its escapes back into those bytes (`escapedBytes_encodeChars`); the UTF-8 reader then finds
a well-formed sequence for every character (`decodeLossy_encode`) and never marks damage.

On the way, `decode_eq_decodeRuns` says that the decoder's shortcut for text without `%` is only
a shortcut: decoding such text run by run gives the text back unchanged.

`pieces_joinWith`: cutting texts joined by a separator at that separator gives them back, when
none of them holds it. Links and backend fragments are written this way, with no escapes, so
every reading of them rests on this and on what keeps separators out of the pieces. -/
namespace FlowSelect.Text

/-! ### UTF-8 -/

namespace Utf8

theorem start_ascii {b : Nat} (h : b < 0x80) : start b = ([Char.ofNat b], none) := by
  unfold start
  rw [if_pos h]

theorem start_two {b : Nat} (h1 : 0xC2 ≤ b) (h2 : b ≤ 0xDF) :
    start b = ([], some ⟨1, 0x80, 0xBF, b - 0xC0⟩) := by
  unfold start
  rw [if_neg (by omega), if_pos ⟨h1, h2⟩]

/-- A three-byte lead: the second byte is held to `A0..BF` after `E0` (no overlong form) and to
`80..9F` after `ED` (no surrogate). -/
theorem start_three {b : Nat} (h1 : 0xE0 ≤ b) (h2 : b ≤ 0xEF) :
    start b =
      ([], some ⟨2, if b = 0xE0 then 0xA0 else 0x80, if b = 0xED then 0x9F else 0xBF, b - 0xE0⟩) := by
  unfold start
  rw [if_neg (by omega), if_neg (by omega)]
  by_cases he0 : b = 0xE0
  · subst he0; rfl
  by_cases hmid : 0xE1 ≤ b ∧ b ≤ 0xEC
  · rw [if_neg he0, if_pos hmid, if_neg he0, if_neg (by omega)]
  by_cases hed : b = 0xED
  · subst hed; rfl
  rw [if_neg he0, if_neg hmid, if_neg hed, if_pos (by omega), if_neg he0, if_neg hed]

/-- A four-byte lead: the second byte is held to `90..BF` after `F0` (no overlong form) and to
`80..8F` after `F4` (nothing past U+10FFFF). -/
theorem start_four {b : Nat} (h1 : 0xF0 ≤ b) (h2 : b ≤ 0xF4) :
    start b =
      ([], some ⟨3, if b = 0xF0 then 0x90 else 0x80, if b = 0xF4 then 0x8F else 0xBF, b - 0xF0⟩) := by
  unfold start
  rw [if_neg (by omega), if_neg (by omega), if_neg (by omega), if_neg (by omega), if_neg (by omega),
    if_neg (by omega)]
  by_cases hf0 : b = 0xF0
  · subst hf0; rfl
  by_cases hmid : 0xF1 ≤ b ∧ b ≤ 0xF3
  · rw [if_neg hf0, if_pos hmid, if_neg hf0, if_neg (by omega)]
  have hf4 : b = 0xF4 := by omega
  subst hf4; rfl

theorem decodeFrom_none_cons (b : Nat) (rest : List Nat) :
    decodeFrom none (b :: rest) = (start b).1 ++ decodeFrom (start b).2 rest := rfl

theorem decodeFrom_accept {need low high bits b : Nat} (rest : List Nat) (h : low ≤ b ∧ b ≤ high) :
    decodeFrom (some ⟨need, low, high, bits⟩) (b :: rest) =
      if need = 1 then Char.ofNat (bits * 0x40 + (b - 0x80)) :: decodeFrom none rest
      else decodeFrom (some ⟨need - 1, 0x80, 0xBF, bits * 0x40 + (b - 0x80)⟩) rest := by
  simp only [decodeFrom, if_pos h]

/-- The bytes of one character read back as that character, and the reader is then between
characters again. -/
theorem decodeFrom_encodeChar (c : Char) (rest : List Nat) :
    decodeFrom none (encodeChar c ++ rest) = c :: decodeFrom none rest := by
  -- a character is no surrogate and lies below U+110000; the lead byte ranges rely on both
  have hv : c.toNat < 0xD800 ∨ (0xDFFF < c.toNat ∧ c.toNat < 0x110000) := c.valid
  have hc : Char.ofNat c.toNat = c := Char.ofNat_toNat c
  unfold encodeChar
  by_cases h1 : c.toNat < 0x80
  · rw [if_pos h1, List.cons_append, List.nil_append, decodeFrom_none_cons, start_ascii h1, hc]
    rfl
  by_cases h2 : c.toNat < 0x800
  · rw [if_neg h1, if_pos h2]
    simp only [List.cons_append, List.nil_append]
    rw [decodeFrom_none_cons, start_two (by omega) (by omega), List.nil_append,
      decodeFrom_accept _ (by omega), if_pos (by decide)]
    have hbits : (0xC0 + c.toNat / 0x40 - 0xC0) * 0x40 + (0x80 + c.toNat % 0x40 - 0x80) = c.toNat := by
      omega
    simp only [hbits, hc]
  by_cases h3 : c.toNat < 0x10000
  · rw [if_neg h1, if_neg h2, if_pos h3]
    simp only [List.cons_append, List.nil_append]
    rw [decodeFrom_none_cons, start_three (by omega) (by omega), List.nil_append]
    rw [decodeFrom_accept _ (by constructor <;> split <;> omega), if_neg (by decide)]
    rw [decodeFrom_accept _ (by omega), if_pos (by decide)]
    have hbits : ((0xE0 + c.toNat / 0x1000 - 0xE0) * 0x40 + (0x80 + c.toNat / 0x40 % 0x40 - 0x80)) *
        0x40 + (0x80 + c.toNat % 0x40 - 0x80) = c.toNat := by
      omega
    simp only [hbits, hc]
  · rw [if_neg h1, if_neg h2, if_neg h3]
    simp only [List.cons_append, List.nil_append]
    rw [decodeFrom_none_cons, start_four (by omega) (by omega), List.nil_append]
    rw [decodeFrom_accept _ (by constructor <;> split <;> omega), if_neg (by decide)]
    rw [decodeFrom_accept _ (by omega), if_neg (by decide)]
    rw [decodeFrom_accept _ (by omega), if_pos (by decide)]
    have hbits : (((0xF0 + c.toNat / 0x40000 - 0xF0) * 0x40 + (0x80 + c.toNat / 0x1000 % 0x40 - 0x80)) *
        0x40 + (0x80 + c.toNat / 0x40 % 0x40 - 0x80)) * 0x40 + (0x80 + c.toNat % 0x40 - 0x80) =
        c.toNat := by
      omega
    simp only [hbits, hc]

/-- Reading the UTF-8 bytes of characters gives the characters back. -/
theorem decodeLossy_encode (cs : List Char) : decodeLossy (encode cs) = cs := by
  induction cs with
  | nil => rfl
  | cons c cs ih =>
    unfold decodeLossy encode at *
    rw [List.flatMap_cons, decodeFrom_encodeChar, ih]

theorem decodeLossy_ascii {bs : List Nat} (h : ∀ b ∈ bs, b < 0x80) :
    decodeLossy bs = bs.map Char.ofNat := by
  induction bs with
  | nil => rfl
  | cons b bs ih =>
    unfold decodeLossy at *
    rw [decodeFrom_none_cons, start_ascii (h b List.mem_cons_self),
      ih fun x hx => h x (List.mem_cons_of_mem _ hx)]
    rfl

theorem encodeChar_lt (c : Char) : ∀ b ∈ encodeChar c, b < 256 := by
  have hv : c.toNat < 0xD800 ∨ (0xDFFF < c.toNat ∧ c.toNat < 0x110000) := c.valid
  intro b hb
  simp only [encodeChar] at hb
  split at hb
  · simp only [List.mem_singleton] at hb
    omega
  split at hb
  · simp only [List.mem_cons, List.not_mem_nil, or_false] at hb
    omega
  split at hb
  · simp only [List.mem_cons, List.not_mem_nil, or_false] at hb
    omega
  · simp only [List.mem_cons, List.not_mem_nil, or_false] at hb
    omega

end Utf8

/-! ### Escapes -/

namespace Percent

theorem toNat_ofNat_ascii {n : Nat} (h : n < 0x80) : (Char.ofNat n).toNat = n := by
  unfold Char.ofNat
  rw [dif_pos (Or.inl (by omega))]
  rfl

theorem hexDigit_lt : ∀ n, n < 16 → (hexDigit n).toNat < 0x80
  | 0, _ | 1, _ | 2, _ | 3, _ | 4, _ | 5, _ | 6, _ | 7, _ | 8, _ | 9, _ | 10, _ | 11, _ | 12, _
  | 13, _ | 14, _ | 15, _ => by decide
  | _ + 16, h => absurd h (by omega)

theorem hexValue?_hexDigit : ∀ n, n < 16 → hexValue? (hexDigit n) = some n
  | 0, _ | 1, _ | 2, _ | 3, _ | 4, _ | 5, _ | 6, _ | 7, _ | 8, _ | 9, _ | 10, _ | 11, _ | 12, _
  | 13, _ | 14, _ | 15, _ => by decide
  | _ + 16, h => absurd h (by omega)

/-- A byte that stands for itself is ASCII and is not `%`. -/
theorem lt_of_isUnreserved {b : Nat} (h : isUnreserved b = true) : b < 0x80 ∧ b ≠ 0x25 := by
  simp only [isUnreserved, Bool.or_eq_true, Bool.and_eq_true, decide_eq_true_eq, beq_iff_eq] at h
  omega

theorem escapedBytes_cons_of_ne {c : Char} (h : c ≠ '%') (rest : List Char) :
    escapedBytes (c :: rest) = c.toNat :: escapedBytes rest := by
  rw [escapedBytes.eq_def]
  split
  · next heq => cases heq
  · next heq => cases heq; exact absurd rfl h
  · next heq => cases heq; rfl

theorem escapedBytes_encodeByte {b : Nat} (hb : b < 256) (rest : List Char) :
    escapedBytes (encodeByte b ++ rest) = b :: escapedBytes rest := by
  unfold encodeByte
  split
  · next hu =>
    obtain ⟨hlt, hne⟩ := lt_of_isUnreserved hu
    have hc : (Char.ofNat b).toNat = b := toNat_ofNat_ascii hlt
    rw [List.singleton_append, escapedBytes_cons_of_ne (fun h => hne (by rw [← hc, h]; rfl)), hc]
  · have hhi : b / 16 < 16 := by omega
    have hlo : b % 16 < 16 := by omega
    simp only [List.cons_append, List.nil_append, escapedBytes, hexValue?_hexDigit _ hhi,
      hexValue?_hexDigit _ hlo]
    rw [show 16 * (b / 16) + b % 16 = b by omega]

theorem escapedBytes_flatMap_encodeByte (bs : List Nat) (h : ∀ b ∈ bs, b < 256) :
    escapedBytes (bs.flatMap encodeByte) = bs := by
  induction bs with
  | nil => rfl
  | cons b bs ih =>
    rw [List.flatMap_cons, escapedBytes_encodeByte (h b List.mem_cons_self),
      ih fun x hx => h x (List.mem_cons_of_mem _ hx)]

theorem encodeByte_ascii {b : Nat} (hb : b < 256) : ∀ c ∈ encodeByte b, c.toNat < 0x80 := by
  intro c hc
  unfold encodeByte at hc
  split at hc
  · next hu =>
    rw [List.mem_singleton] at hc
    subst hc
    have hlt := (lt_of_isUnreserved hu).1
    rw [toNat_ofNat_ascii hlt]
    exact hlt
  · simp only [List.mem_cons, List.not_mem_nil, or_false] at hc
    rcases hc with rfl | rfl | rfl
    · decide
    · exact hexDigit_lt _ (by omega)
    · exact hexDigit_lt _ (by omega)

/-- Encoded text is ASCII. -/
theorem encodeChars_ascii (cs : List Char) : ∀ c ∈ encodeChars cs, c.toNat < 0x80 := by
  intro c hc
  obtain ⟨b, hb, hcb⟩ := List.mem_flatMap.mp hc
  obtain ⟨x, _, hbx⟩ := List.mem_flatMap.mp hb
  exact encodeByte_ascii (Utf8.encodeChar_lt x b hbx) c hcb

theorem escapedBytes_encodeChars (cs : List Char) :
    escapedBytes (encodeChars cs) = Utf8.encode cs := by
  apply escapedBytes_flatMap_encodeByte
  intro b hb
  obtain ⟨x, _, hbx⟩ := List.mem_flatMap.mp hb
  exact Utf8.encodeChar_lt x b hbx

theorem escapedBytes_of_not_mem {cs : List Char} (h : '%' ∉ cs) :
    escapedBytes cs = cs.map Char.toNat := by
  induction cs with
  | nil => rfl
  | cons c cs ih =>
    rw [List.mem_cons, not_or] at h
    rw [escapedBytes_cons_of_ne (Ne.symm h.1), ih h.2, List.map_cons]

/-- ASCII characters with no `%` among them come out of the decoder as they went in. -/
theorem decodeLossy_escapedBytes_plain {cs : List Char} (hp : '%' ∉ cs)
    (ha : ∀ c ∈ cs, c.toNat < 0x80) : Utf8.decodeLossy (escapedBytes cs) = cs := by
  rw [escapedBytes_of_not_mem hp, Utf8.decodeLossy_ascii (by simpa using ha), List.map_map]
  conv => rhs; rw [← List.map_id cs]
  exact List.map_congr_left fun c _ => Char.ofNat_toNat c

/-! ### Runs -/

/-- On ASCII text the decoder gathers one run and decodes it whole. -/
theorem decodeRuns_ascii (run cs : List Char) (h : ∀ c ∈ cs, c.toNat < 0x80) :
    decodeRuns run cs = Utf8.decodeLossy (escapedBytes (run.reverse ++ cs)) := by
  induction cs generalizing run with
  | nil => simp [decodeRuns]
  | cons c cs ih =>
    rw [decodeRuns, if_pos (h c List.mem_cons_self), ih _ fun x hx => h x (List.mem_cons_of_mem _ hx)]
    simp

theorem decodeRuns_encodeChars (cs : List Char) : decodeRuns [] (encodeChars cs) = cs := by
  rw [decodeRuns_ascii [] _ (encodeChars_ascii cs), List.reverse_nil, List.nil_append,
    escapedBytes_encodeChars, Utf8.decodeLossy_encode]

/-- Without `%`, decoding run by run keeps every character: the ASCII runs read back as
themselves and the other characters are kept as they are. -/
theorem decodeRuns_of_not_mem (run cs : List Char) (hrun : '%' ∉ run)
    (ha : ∀ c ∈ run, c.toNat < 0x80) (hcs : '%' ∉ cs) : decodeRuns run cs = run.reverse ++ cs := by
  induction cs generalizing run with
  | nil =>
    rw [decodeRuns, decodeLossy_escapedBytes_plain (by simpa using hrun) (by simpa using ha),
      List.append_nil]
  | cons c cs ih =>
    rw [List.mem_cons, not_or] at hcs
    rw [decodeRuns]
    split
    · next hc =>
      rw [ih (c :: run) (by simp [hrun, hcs.1]) (by simpa [hc] using ha) hcs.2]
      simp
    · rw [decodeLossy_escapedBytes_plain (by simpa using hrun) (by simpa using ha),
        ih [] (by simp) (by simp) hcs.2]
      simp

/-- The decoder's shortcut for text without `%` gives what decoding it run by run gives. -/
theorem decode_eq_decodeRuns (s : String) : decode s = String.ofList (decodeRuns [] s.toList) := by
  unfold decode
  split
  · rfl
  · next h =>
    have hp : '%' ∉ s.toList := by simpa [String.contains] using h
    rw [decodeRuns_of_not_mem [] _ (by simp) (by simp) hp, List.reverse_nil, List.nil_append,
      String.ofList_toList]

/-- Decoding undoes encoding, for every text. -/
theorem decode_encode (s : String) : decode (encode s) = s := by
  rw [decode_eq_decodeRuns, encode, String.toList_ofList, decodeRuns_encodeChars,
    String.ofList_toList]

end Percent

/-! ### Joined pieces -/

theorem toList_joinWith {sep : String} {c : Char} (hsep : sep.toList = [c]) (xs : List String) :
    (joinWith sep xs).toList = [c].intercalate (xs.map String.toList) := by
  fun_induction joinWith sep xs with
  | case1 => rfl
  | case2 p => simp
  | case3 p q hq ih =>
    rw [String.toList_append, String.toList_append, hsep, ih, List.map_cons,
      List.intercalate_cons_of_ne_nil (by simpa using hq), List.append_assoc]

/-- A joined text starts with its first piece. -/
theorem toList_joinWith_cons (sep x : String) (xs : List String) :
    ∃ rest, (joinWith sep (x :: xs)).toList = x.toList ++ rest := by
  cases xs with
  | nil => exact ⟨[], by simp [joinWith]⟩
  | cons y ys => exact ⟨(sep ++ joinWith sep (y :: ys)).toList, by simp [joinWith, String.append_assoc]⟩

/-- Every character of a joined text is the separator or a character of a piece. -/
theorem mem_joinWith {sep : String} {c : Char} (hsep : sep.toList = [c]) {xs : List String} {x : Char}
    (h : x ∈ (joinWith sep xs).toList) : x = c ∨ ∃ s ∈ xs, x ∈ s.toList := by
  rw [toList_joinWith hsep] at h
  induction xs with
  | nil => simp at h
  | cons s ss ih =>
    cases ss with
    | nil => exact Or.inr ⟨s, List.mem_cons_self, by simpa using h⟩
    | cons t ts =>
      rw [List.map_cons, List.intercalate_cons_of_ne_nil (by simp), List.mem_append,
        List.mem_append, List.mem_singleton] at h
      rcases h with (h | h) | h
      · exact Or.inr ⟨s, List.mem_cons_self, h⟩
      · exact Or.inl h
      · rcases ih h with h | ⟨u, hu, hx⟩
        · exact Or.inl h
        · exact Or.inr ⟨u, List.mem_cons_of_mem _ hu, hx⟩

theorem splitOn_joinWith {sep : String} {c : Char} (hsep : sep.toList = [c]) {xs : List String}
    (hne : xs ≠ []) (hc : ∀ x ∈ xs, c ∉ x.toList) :
    (joinWith sep xs).toList.splitOn c = xs.map String.toList := by
  rw [toList_joinWith hsep, List.splitOn_intercalate]
  · intro l hl
    obtain ⟨x, hx, rfl⟩ := List.mem_map.mp hl
    exact hc x hx
  · simpa using hne

/-- Cutting joined texts at their separator gives them back, when none of them holds it. -/
theorem pieces_joinWith {sep : String} {c : Char} (hsep : sep.toList = [c]) {xs : List String}
    (hne : xs ≠ []) (hc : ∀ x ∈ xs, c ∉ x.toList) : pieces (joinWith sep xs) c = xs := by
  rw [pieces, splitOn_joinWith hsep hne hc]
  simp

end FlowSelect.Text

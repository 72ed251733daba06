import ObjectBridge.Proofs.Text.Pieces

/-!
# Copies of native strings

A native string whose content is no text is refused, and a copy of it has replacements
instead.  Content is text up to a first piece that is none: there the strict reader stops,
and there the copy has its first replacement.  So both agree on what comes before, and on
content that is text altogether.
-/

namespace ObjectBridge

namespace Utf8

/-! ## The strict reader -/

/-- Where the octets begin that are refused. -/
def Error.index : Error → Nat
  | .malformed _ index | .truncated index => index

variable {octets : List UInt8}

theorem pieces_encode_append (text : List Char) (rest : List UInt8) :
    pieces none (encode text ++ rest) = text.map .scalar ++ pieces none rest := by
  induction text with
  | nil => rfl
  | cons character others ih =>
      have encodeEq : encode (character :: others) =
          String.utf8EncodeChar character ++ encode others := rfl
      rw [encodeEq, List.append_assoc, pieces_utf8EncodeChar_append, ih, List.map_cons,
        List.cons_append]

theorem strict_map_scalar_append (index : Nat) (text : List Char) (found : List Piece) :
    strict index (text.map .scalar ++ found) =
      (strict (index + (encode text).length) found).map (text ++ ·) := by
  induction text generalizing index with
  | nil =>
      change strict index found = (strict index found).map id
      cases strict index found <;> rfl
  | cons character others ih =>
      have encodeEq : encode (character :: others) =
          String.utf8EncodeChar character ++ encode others := rfl
      rw [List.map_cons, List.cons_append, strict, ih, encodeEq, List.length_append,
        String.length_utf8EncodeChar, Nat.add_assoc]
      cases strict (index + (character.utf8Size + (encode others).length)) found <;> rfl

/-- What is no text is refused where it begins. -/
theorem Invalid.strict_eq {rest : List UInt8} {piece : Piece} (invalid : Invalid octets rest piece)
    (index : Nat) (others : List Piece) :
    ∃ cause, strict index (piece :: others) = .error cause ∧ cause.index = index := by
  cases invalid with
  | stray => exact ⟨_, rfl, rfl⟩
  | broken => exact ⟨_, rfl, rfl⟩
  | unfinished => exact ⟨_, rfl, rfl⟩

theorem Invalid.ne_scalar {rest : List UInt8} {piece : Piece}
    (invalid : Invalid octets rest piece) (character : Char) : piece ≠ .scalar character := by
  cases invalid <;> exact Piece.noConfusion

theorem Invalid.lossy_eq {rest : List UInt8} {piece : Piece}
    (invalid : Invalid octets rest piece) : piece.lossy = replacement := by
  cases invalid <;> rfl

/-- Octets are text, or are so up to a piece that is none. -/
theorem Cut.text_or_invalid {found : List Piece} (cut : Cut octets found) :
    (∃ text, octets = encode text ∧ found = text.map .scalar) ∨
    ∃ text bad rest piece others, octets = encode text ++ (bad ++ rest) ∧
      Invalid bad rest piece ∧ found = text.map .scalar ++ piece :: others := by
  induction cut with
  | done => exact .inl ⟨[], rfl, rfl⟩
  | scalar character _ ih =>
      rcases ih with ⟨text, rfl, rfl⟩ | ⟨text, bad, after, piece, others, rfl, invalid, rfl⟩
      · exact .inl ⟨character :: text, rfl, rfl⟩
      · refine .inr ⟨character :: text, bad, after, piece, others, ?_, invalid, rfl⟩
        exact (List.append_assoc _ _ _).symm
  | @invalid bad rest piece others invalid _ _ =>
      exact .inr ⟨[], bad, rest, piece, others, rfl, invalid, rfl⟩

private theorem prefix_of_map_scalar {longer text : List Char} {piece : Piece}
    {others : List Piece} (ne_scalar : ∀ character, piece ≠ .scalar character)
    (starts : longer.map Piece.scalar <+: text.map Piece.scalar ++ piece :: others) :
    longer <+: text := by
  induction longer generalizing text with
  | nil => exact List.nil_prefix
  | cons character longer ih =>
      cases text with
      | nil => exact absurd (List.cons_prefix_cons.mp starts).1.symm (ne_scalar character)
      | cons first text =>
          obtain ⟨sameEq, restStarts⟩ := List.cons_prefix_cons.mp starts
          exact List.cons_prefix_cons.mpr ⟨Piece.scalar.inj sameEq, ih restStarts⟩

/-- Octets are the text that both readers make of them, or they begin with a longest text.
The strict reader refuses what comes after that, and the lossy one replaces it. -/
theorem decode_cases (octets : List UInt8) :
    (∃ text, octets = encode text ∧ decode octets = .ok text ∧ decodeLossy octets = text) ∨
    ∃ cause text others, decode octets = .error cause ∧ cause.index = (encode text).length ∧
      encode text <+: octets ∧ (∀ longer, encode longer <+: octets → longer <+: text) ∧
      decodeLossy octets = text ++ replacement :: others := by
  rcases (cut_pieces octets).text_or_invalid with ⟨text, octetsEq, piecesEq⟩ |
    ⟨text, bad, rest, piece, others, octetsEq, invalid, piecesEq⟩
  · refine .inl ⟨text, octetsEq, ?_, ?_⟩
    · rw [decode, piecesEq, strict_map_scalar]
    · rw [decodeLossy, piecesEq, List.map_map]
      exact List.map_id text
  · obtain ⟨cause, strictEq, indexEq⟩ := invalid.strict_eq (0 + (encode text).length) others
    refine .inr ⟨cause, text, others.map Piece.lossy, ?_, ?_, ?_, ?_, ?_⟩
    · rw [decode, piecesEq, strict_map_scalar_append, strictEq]
      rfl
    · rw [indexEq, Nat.zero_add]
    · exact ⟨bad ++ rest, octetsEq.symm⟩
    · rintro longer ⟨after, longerEq⟩
      have starts : longer.map Piece.scalar <+: text.map Piece.scalar ++ piece :: others := by
        rw [← piecesEq, ← longerEq, pieces_encode_append]
        exact List.prefix_append _ _
      exact prefix_of_map_scalar invalid.ne_scalar starts
    · rw [decodeLossy, piecesEq, List.map_append, List.map_cons, invalid.lossy_eq, List.map_map]
      exact congrArg (· ++ _) (List.map_id text)

/-- The strict reader accepts exactly the encodings of texts. -/
theorem decode_eq_ok_iff {text : List Char} :
    decode octets = .ok text ↔ octets = encode text := by
  constructor
  · intro decoded
    rcases decode_cases octets with ⟨found, octetsEq, decodeEq, _⟩ |
      ⟨cause, _, _, decodeEq, _⟩
    · rw [decodeEq] at decoded
      cases decoded
      exact octetsEq
    · rw [decodeEq] at decoded
      contradiction
  · rintro rfl
    exact decode_encode text

/-! ## The lossy reader -/

/-- The octets of a character that is found are among those that were read. -/
theorem Cut.mem_of_scalar {found : List Piece} (cut : Cut octets found) {character : Char}
    {octet : UInt8} (member : .scalar character ∈ found)
    (octetMem : octet ∈ String.utf8EncodeChar character) : octet ∈ octets := by
  induction cut with
  | done => contradiction
  | scalar _ _ ih =>
      rcases List.mem_cons.mp member with same | later
      · cases same
        exact List.mem_append_left _ octetMem
      · exact List.mem_append_right _ (ih later)
  | invalid invalid _ ih =>
      rcases List.mem_cons.mp member with same | later
      · exact absurd same.symm (invalid.ne_scalar character)
      · exact List.mem_append_right _ (ih later)

/-- Octets without a zero are read as a text without one. -/
theorem zero_notMem_decodeLossy (nonzero : 0 ∉ octets) : '\x00' ∉ decodeLossy octets := by
  intro member
  obtain ⟨piece, pieceMem, lossyEq⟩ := List.mem_map.mp member
  cases piece with
  | scalar character =>
      cases lossyEq
      exact nonzero ((cut_pieces octets).mem_of_scalar pieceMem (List.mem_singleton_self 0))
  | malformed => exact absurd (show replacement = '\x00' from lossyEq) (by decide)
  | truncated => exact absurd (show replacement = '\x00' from lossyEq) (by decide)

theorem decodeLossy_encode (text : List Char) : decodeLossy (encode text) = text := by
  rw [decodeLossy, pieces_encode, List.map_map]
  exact List.map_id text

end Utf8

namespace InteropString

/-! ## Copies -/

variable {octets : List UInt8}

theorem copyLossy_eq {string : InteropString} (content : string.content? = some octets) :
    string.copyLossy = ofText (String.ofList (Utf8.decodeLossy octets)) := by
  rw [copyLossy, content]

/-- A copy of a string without a zero in its content is read as what the lossy reader makes of
it. -/
theorem text_copyLossy {string : InteropString} (content : string.content? = some octets)
    (nonzero : 0 ∉ octets) :
    string.copyLossy.text = .ok (String.ofList (Utf8.decodeLossy octets)) := by
  rw [copyLossy_eq content, text_ofText_of_notMem]
  rw [String.toList_ofList]
  exact Utf8.zero_notMem_decodeLossy nonzero

theorem text_eq_ok_iff {string : InteropString} (content : string.content? = some octets)
    {text : String} : string.text = .ok text ↔ octets = Utf8.encode text.toList := by
  rw [InteropString.text, content, ← Utf8.decode_eq_ok_iff]
  cases decodeEq : Utf8.decode octets with
  | error cause => simp only [decodeEq, reduceCtorEq]
  | ok characters =>
      simp only [decodeEq, Except.ok.injEq]
      constructor
      · rintro rfl
        rw [String.toList_ofList]
      · rintro rfl
        rw [String.ofList_toList]

/-- A copy of a native string is not null and is read without error: as the text of its
content, with one replacement for each sequence that is no text.  What the string itself is
read as is what the copy is read as, and it is read if its content is the UTF-8 of a text.  If
it is refused, the octets before the place that the error names are the longest text that the
content begins with, and the copy is read as that text, a replacement and what comes after.
A copy of the copy is read as the copy. -/
theorem copies_agree_with_reading (buffer : List UInt8) :
    let string : InteropString := ⟨some buffer⟩
    let content := buffer.takeWhile (· ≠ 0)
    ∃ copied : String,
      string.copyLossy.isNull = false ∧
      string.copyLossy.text = .ok copied ∧
      (∃ pieces, Utf8.Cut content pieces ∧ copied.toList = pieces.map Utf8.Piece.lossy) ∧
      (∀ text, string.text = .ok text ↔ content = text.toUTF8.data.toList) ∧
      (∀ text, string.text = .ok text → copied = text) ∧
      (∀ error, string.text = .error error → ∃ (cause : Utf8.Error) (valid more : List Char),
        error = .invalidUtf8 cause.message ∧
        content.take cause.index = Utf8.encode valid ∧
        (∀ longer, Utf8.encode longer <+: content → longer <+: valid) ∧
        copied.toList = valid ++ '\uFFFD' :: more) ∧
      string.copyLossy.copyLossy.text = .ok copied := by
  intro string content
  have contentEq : string.content? = some content := rfl
  have nonzero : 0 ∉ content := by
    intro member
    simpa using List.all_eq_true.mp List.all_takeWhile 0 member
  refine ⟨String.ofList (Utf8.decodeLossy content), ?_, text_copyLossy contentEq nonzero,
    ⟨_, Utf8.cut_pieces content, String.toList_ofList⟩, ?_, ?_, ?_, ?_⟩
  · rw [copyLossy_eq contentEq, ofText_eq]
    rfl
  · intro text
    rw [text_eq_ok_iff contentEq, ← Utf8.toList_toUTF8, String.ofList_toList]
  · intro text readEq
    rw [(text_eq_ok_iff contentEq).mp readEq, Utf8.decodeLossy_encode, String.ofList_toList]
  · intro error refused
    rw [InteropString.text, contentEq] at refused
    rcases Utf8.decode_cases content with ⟨text, _, decodeEq, _⟩ |
      ⟨cause, text, others, decodeEq, indexEq, starts, longest, lossyEq⟩
    · simp only [decodeEq] at refused
      contradiction
    · simp only [decodeEq] at refused
      cases refused
      refine ⟨cause, text, others, rfl, ?_, longest, ?_⟩
      · rw [indexEq, ← List.prefix_iff_eq_take.mp starts]
      · rw [String.toList_ofList, lossyEq]
        rfl
  · have nonzeroText := Utf8.zero_notMem_decodeLossy nonzero
    have copyEq : string.copyLossy.content? =
        some (Utf8.encode (Utf8.decodeLossy content)) := by
      rw [copyLossy_eq contentEq, content?_ofText, shielded_eq_toList]
      · rw [String.toList_ofList]
      · rwa [String.toList_ofList]
    rw [text_copyLossy copyEq (Utf8.zero_notMem_encode nonzeroText), Utf8.decodeLossy_encode]

/-- A character that is broken off is refused where it begins, and one replacement stands for
its two octets in the copy; what comes after the zero is neither. -/
theorem copies_agree_with_reading_broken :
    let string : InteropString := ⟨some [0x41, 0xE2, 0x82, 0x42, 0x00, 0xFF]⟩
    string.text = .error (.invalidUtf8 "invalid utf-8 sequence of 2 bytes from index 1") ∧
      string.copyLossy.text = .ok "A\uFFFDB" ∧
      string.copyLossy.copyLossy.text = .ok "A\uFFFDB" := by
  intro string
  have textEq : string.copyLossy.text = .ok "A\uFFFDB" := by decide +kernel
  obtain ⟨copied, _, copiedEq, _, _, _, _, again⟩ :=
    copies_agree_with_reading [0x41, 0xE2, 0x82, 0x42, 0x00, 0xFF]
  obtain rfl : copied = "A\uFFFDB" := Except.ok.inj (copiedEq.symm.trans textEq)
  exact ⟨by decide +kernel, copiedEq, again⟩

end InteropString

end ObjectBridge

import HtmlMarkdown.Text.Basic

/-!
# Bytes and texts

* `Utf8.decode`: the text that bytes write, a replacement character for every piece that is none;
* `Utf8.encode`: the bytes of a text; `unifyBreaks`: one line feed for every kind of line break.
-/

namespace HtmlMarkdown

namespace Utf8

/-- What a first byte announces: its part of the code, the number of bytes that follow, and the
least and the greatest value of the next one. -/
structure Lead where
  bits : Nat
  count : Nat
  least : Nat
  greatest : Nat

/-- What a byte announces as the first of a character. -/
def lead? (b : Nat) : Option Lead :=
  if b < 0x80 then some ⟨b, 0, 0, 0⟩
  else if 0xC2 ≤ b && b ≤ 0xDF then some ⟨b - 0xC0, 1, 0x80, 0xBF⟩
  else if b = 0xE0 then some ⟨0, 2, 0xA0, 0xBF⟩
  else if b = 0xED then some ⟨0xD, 2, 0x80, 0x9F⟩
  else if 0xE1 ≤ b && b ≤ 0xEF then some ⟨b - 0xE0, 2, 0x80, 0xBF⟩
  else if b = 0xF0 then some ⟨0, 3, 0x90, 0xBF⟩
  else if b = 0xF4 then some ⟨4, 3, 0x80, 0x8F⟩
  else if 0xF1 ≤ b && b ≤ 0xF3 then some ⟨b - 0xF0, 3, 0x80, 0xBF⟩
  else none

/-- The text of bytes after the start `open?` of a character. A byte that does not continue the
character ends it with a replacement, and is read again as a first byte. -/
def decodeAfter : (open? : Option Lead) → List UInt8 → Text
  | none, [] => []
  | some _, [] => [replacementChar]
  | none, b :: bytes =>
    match lead? b.toNat with
    | none => replacementChar :: decodeAfter none bytes
    | some lead =>
      if lead.count = 0 then Char.ofNat lead.bits :: decodeAfter none bytes
      else decodeAfter (some lead) bytes
  | some lead, b :: bytes =>
    let n := b.toNat
    if lead.least ≤ n && n ≤ lead.greatest then
      let bits := lead.bits * 64 + (n - 0x80)
      if lead.count = 1 then Char.ofNat bits :: decodeAfter none bytes
      else decodeAfter (some ⟨bits, lead.count - 1, 0x80, 0xBF⟩) bytes
    else
      replacementChar ::
        match lead? n with
        | none => replacementChar :: decodeAfter none bytes
        | some lead =>
          if lead.count = 0 then Char.ofNat lead.bits :: decodeAfter none bytes
          else decodeAfter (some lead) bytes

/-- The text that bytes write. A piece that begins a character without ending it, and every byte
that begins none, gives one replacement character. -/
def decode (bytes : List UInt8) : Text := decodeAfter none bytes

/-- The bytes that write a text. -/
def encode (s : Text) : List UInt8 := (String.ofList s).toUTF8.toList

end Utf8

/-- A text with a line feed for every kind of line break. -/
def unifyBreaks : Text → Text
  | [] => []
  | '\r' :: '\n' :: s => '\n' :: unifyBreaks s
  | c :: s => (if c = '\r' then '\n' else c) :: unifyBreaks s

end HtmlMarkdown

import HtmlMarkdown.Node.Basic

/-!
# What a document says about its encoding

A `meta` element may name the encoding of its document. When its tag is written again, it names the
encoding that it is then written in.

* `replaceEncoding`: a text with another encoding in it;
* `markEncoding`: the attributes of an element, the one that names the encoding marked as such.
-/

namespace HtmlMarkdown

/-- The encoding that markup is written in. -/
def writtenEncoding : Text := "utf-8".toList

/-- The word before the name of an encoding. -/
def encodingWord : Text := "charset=".toList

/-- A text through the first `charset=` that begins it, if `isHead`, or comes after white space. -/
def throughEncodingWord? : (isHead : Bool) → (s : Text) → Option Text
  | _, [] => none
  | isHead, c :: s =>
    if isHead && (Text.dropStart? encodingWord (c :: s)).isSome then some encodingWord
    else (throughEncodingWord? (isBlank c) s).map (c :: ·)

/-- A text with the encoding in use for what follows `charset=` in each part up to a semicolon. -/
def replaceEncoding (s : Text) : Text :=
  Text.join [';'] ((Text.split (· == ';') s).map fun part =>
    match throughEncodingWord? true part with
    | some before => before ++ writtenEncoding
    | none => part)

/-- The attributes of an element. Of a `meta`, the attribute `charset` names the encoding, or else
the content does, if it stands for the header that tells the type of the document. -/
def markEncoding (element : String) (attributes : Attributes) : Attributes :=
  if element = "meta" then
    match attributes.lookup "charset" with
    | some charset => attributes.set "charset" (.encoding charset.joined writtenEncoding)
    | none =>
      match attributes.lookup "content", attributes.lookup "http-equiv" with
      | some content, some header =>
        if Text.lower header.joined = "content-type".toList then
          attributes.set "content" (.encoding content.joined (replaceEncoding content.joined))
        else attributes
      | _, _ => attributes
  else attributes

end HtmlMarkdown

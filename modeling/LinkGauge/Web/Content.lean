import LinkGauge.Json.Scan
import LinkGauge.Text.Charset
import LinkGauge.Web.MediaType

/-!
# Contents of replies

The octets that a reply brings are read as a text in the charset that its media type names. There
are more charsets than are known here; what octets spell in one of those comes with them.
-/

namespace LinkGauge.Web

/-- What a reply brings. -/
structure Content where
  /-- The media type that the reply tells, if it tells one. -/
  type : Option String
  octets : Json.Bytes
  /-- What the octets spell in the charset that the media type names, if there is such a charset and
  it is none of those that are known here. -/
  foreign : Option String

namespace Content

/-- The text of the octets. A mark of the byte order tells its charset and does not belong to the
text. Without such a mark and without a charset that exists it is UTF-8. -/
def text (c : Content) : String :=
  match Charset.ofMark? c.octets with
  | some (charset, rest) => charset.decode rest
  | none =>
    match c.type.bind MediaType.charset? with
    | none => Charset.utf8.decode c.octets
    | some label =>
      match Charset.ofLabel? label with
      | some charset => charset.decode c.octets
      | none => c.foreign.getD (Charset.utf8.decode c.octets)

end Content

end LinkGauge.Web

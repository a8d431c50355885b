import LinkGauge.Url.Parse

/-!
# Setting parts of addresses

An address gets another path, or one more pair in its query. What is set is encoded as reading
would encode it.
-/

namespace LinkGauge.Url

/-- The address with another path. Question marks and hashes belong to the path here. -/
def setPath (u : Url) (text : String) : Url :=
  let special := isSpecialScheme u.scheme
  let cs := text.toList.filter fun c => !(c == '\t' || c == '\n' || c == '\r')
  match u.path with
  | .plain _ =>
    { u with
      path := .plain
        (match cs with
        | '/' :: rest => "%2F" ++ encoded inControls rest
        | _ => encoded inControls cs) }
  | .segments _ =>
    { u with
      path := .segments
        (match cs with
        | [] => if special || u.host.isNone then [""] else []
        | c :: rest => follow [] (pieces special (if isSlash special c then rest else cs))) }

/-- A name or a value in a query as forms write it. -/
def formEncoded (s : String) : String :=
  String.ofList (s.toList.flatMap fun c =>
    if c = ' ' then ['+']
    else Percent.encodeChar (fun c => !(c.isAlphanum || c ∈ ['*', '-', '.', '_'])) c)

/-- The address with a pair behind what is in its query. -/
def withPair (u : Url) (name value : String) : Url :=
  let pair := formEncoded name ++ "=" ++ formEncoded value
  { u with
    query := some
      (match u.query with
      | none | some "" => pair
      | some q => q ++ "&" ++ pair) }

end LinkGauge.Url

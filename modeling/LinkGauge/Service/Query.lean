import LinkGauge.Host.Category
import LinkGauge.Json.Reading
import LinkGauge.Problem
import LinkGauge.Service.Route
import LinkGauge.Time.Json
import LinkGauge.Word

/-!
# Queries

What clients may add to a request: how many results, which span of time, how long a test.
-/

namespace LinkGauge.Service

/-- How many results a client gets without asking for a number. -/
def defaultLimit : Int64 := 50

def maxLimit : Int64 := 1000

/-- The number of results that a client gets: at least one, at most `maxLimit`. -/
def resultLimit (asked : Option Int64) : Int64 :=
  max 1 (min maxLimit (asked.getD defaultLimit))

/-- Whether two instants span a time. -/
def checkRange (start stop : Instant) : Except Problem Unit :=
  if stop.before start then .error (.badRequest "start must not be after end") else .ok ()

/-- The longest test that a client can ask for, in seconds. -/
def maxRunSeconds : UInt64 := 300

/-- The length of the test that a client asks for, if it does. -/
def runDuration : Option UInt64 → Except Problem (Option Span)
  | none => .ok none
  | some seconds =>
    if 1 ≤ seconds ∧ seconds ≤ maxRunSeconds then .ok (some (.ofSeconds seconds))
    else .error (.badRequest
      ("duration must be between 1 and " ++ toString maxRunSeconds.toNat ++ " seconds"))

/-! ### Query texts -/

/-- The text that a part of a query stands for. A plus sign stands for a space. -/
def queryText (cs : List Char) : String :=
  let bytes := Utf8.encode (String.ofList cs)
  Utf8.decodeLossy (Percent.decodeBytes (bytes.map fun b => if b = 0x2B then 0x20 else b))

/-- A name and a value with an equals sign between them. -/
def queryPair (cs : List Char) : String × String :=
  (queryText (cs.takeWhile (· != '=')), queryText ((cs.dropWhile (· != '=')).drop 1))

/-- The names and values of a query. -/
def queryPairs (query : String) : List (String × String) :=
  ((query.toList.splitOn '&').filter (!·.isEmpty)).map queryPair

/-- A query as an object of texts. -/
def queryNode (query : String) : Node :=
  .object ((queryPairs query).map fun (name, value) => (.ok name, .text (.ok value))) .closed

/-- An integer of a range, written in digits. A minus sign counts only where the range goes below
zero. -/
def integerText (low high : Int) (s : String) : Except Cause Int :=
  let signed := low < 0 || s.toList.head? != some '-'
  match s.toList with
  | [] => .error (.refused "cannot parse integer from empty string")
  | cs =>
    match if signed then Decimal.integer? cs else none with
    | none => .error (.refused "invalid digit found in string")
    | some n =>
      if high < n then .error (.refused "number too large to fit in target type")
      else if n < low then .error (.refused "number too small to fit in target type")
      else .ok n

def int64Text : Decoder Int64 := fun n =>
  (Decoder.parsed "i64" (integerText (-Word.half64) (Word.half64 - 1)) n).map Int64.ofInt

def uint64Text : Decoder UInt64 := fun n =>
  (Decoder.parsed "u64" (integerText 0 (Word.size64 - 1)) n).map fun v => UInt64.ofNat v.toNat

def boolText : Decoder Bool :=
  Decoder.parsed "a boolean" fun s =>
    if s = "true" then .ok true
    else if s = "false" then .ok false
    else .error (.refused "provided string was not `true` or `false`")

/-- Which hosts are listed: those that are active or not, and those of a category. -/
structure HostsQuery where
  active : Option Bool
  category : Option Category

def HostsQuery.decoder : Decoder HostsQuery :=
  Layout.decoder
    (HostsQuery.mk <$> .optional "active" boolText
      <*> .optional "category" Category.decoder)
    "HostsQuery" false

/-- How many results are listed, and of which category. -/
structure ResultsQuery where
  limit : Option Int64
  category : Option Category

def ResultsQuery.decoder : Decoder ResultsQuery :=
  Layout.decoder
    (ResultsQuery.mk <$> .optional "limit" int64Text
      <*> .optional "category" Category.decoder)
    "ResultsQuery" false

/-- From when to when results are listed. -/
structure RangeQuery where
  start : Instant
  stop : Instant

def RangeQuery.decoder : Decoder RangeQuery :=
  Layout.decoder
    (RangeQuery.mk <$> .required "start" Decoder.instant
      <*> .required "end" Decoder.instant)
    "RangeQuery" false

/-- How long a test is to take, in seconds. -/
structure RunQuery where
  duration : Option UInt64

def RunQuery.decoder : Decoder RunQuery :=
  Layout.decoder
    (RunQuery.mk <$> .optional "duration" uint64Text)
    "ThroughputRunQuery" false

end LinkGauge.Service

import OpenResponse.Number.Integer
import OpenResponse.Token.Parser

/-!
# Statuses

A status is written as an integer, as one of six range strings, or as a path to one of the named
statuses of HTTP.  The token that is there decides which of the three it is; none of them is turned
into another.

A status is a key, hence a text.  Integers are written in the shortest decimal form, whatever their
literal looks like, so that two literals with one value are one status.  Nothing limits integers to
statuses that exist.

## Main definitions

* `statusRanges`: the range strings.
* `statusCodes`: the named statuses.
* `statusCode?`: the code of a name.
* `Parser.status`: a status at the front of a stream.
* `resolveStatus`: a status that is a text of its own.

## Design notes

For a name only the last segment of its path counts, in the spelling of the constants for statuses.
The names are a table, and a name that is not in it is a fault at that segment.

A literal may have a value that is too large to be written.  That is a fault of its own without a
place.
-/

namespace OpenResponse

/-- The strings that stand for a range of statuses, or for all that are not given. -/
def statusRanges : List String := ["default", "1XX", "2XX", "3XX", "4XX", "5XX"]

/-- The named statuses with their codes.  Both the codes and the names are different from each
other, and the names are those of constants. -/
def statusCodes : List (Nat × String) := [
  (100, "CONTINUE"),
  (101, "SWITCHING_PROTOCOLS"),
  (102, "PROCESSING"),
  (200, "OK"),
  (201, "CREATED"),
  (202, "ACCEPTED"),
  (203, "NON_AUTHORITATIVE_INFORMATION"),
  (204, "NO_CONTENT"),
  (205, "RESET_CONTENT"),
  (206, "PARTIAL_CONTENT"),
  (207, "MULTI_STATUS"),
  (208, "ALREADY_REPORTED"),
  (226, "IM_USED"),
  (300, "MULTIPLE_CHOICES"),
  (301, "MOVED_PERMANENTLY"),
  (302, "FOUND"),
  (303, "SEE_OTHER"),
  (304, "NOT_MODIFIED"),
  (305, "USE_PROXY"),
  (307, "TEMPORARY_REDIRECT"),
  (308, "PERMANENT_REDIRECT"),
  (400, "BAD_REQUEST"),
  (401, "UNAUTHORIZED"),
  (402, "PAYMENT_REQUIRED"),
  (403, "FORBIDDEN"),
  (404, "NOT_FOUND"),
  (405, "METHOD_NOT_ALLOWED"),
  (406, "NOT_ACCEPTABLE"),
  (407, "PROXY_AUTHENTICATION_REQUIRED"),
  (408, "REQUEST_TIMEOUT"),
  (409, "CONFLICT"),
  (410, "GONE"),
  (411, "LENGTH_REQUIRED"),
  (412, "PRECONDITION_FAILED"),
  (413, "PAYLOAD_TOO_LARGE"),
  (414, "URI_TOO_LONG"),
  (415, "UNSUPPORTED_MEDIA_TYPE"),
  (416, "RANGE_NOT_SATISFIABLE"),
  (417, "EXPECTATION_FAILED"),
  (418, "IM_A_TEAPOT"),
  (421, "MISDIRECTED_REQUEST"),
  (422, "UNPROCESSABLE_ENTITY"),
  (423, "LOCKED"),
  (424, "FAILED_DEPENDENCY"),
  (426, "UPGRADE_REQUIRED"),
  (428, "PRECONDITION_REQUIRED"),
  (429, "TOO_MANY_REQUESTS"),
  (431, "REQUEST_HEADER_FIELDS_TOO_LARGE"),
  (451, "UNAVAILABLE_FOR_LEGAL_REASONS"),
  (500, "INTERNAL_SERVER_ERROR"),
  (501, "NOT_IMPLEMENTED"),
  (502, "BAD_GATEWAY"),
  (503, "SERVICE_UNAVAILABLE"),
  (504, "GATEWAY_TIMEOUT"),
  (505, "HTTP_VERSION_NOT_SUPPORTED"),
  (506, "VARIANT_ALSO_NEGOTIATES"),
  (507, "INSUFFICIENT_STORAGE"),
  (508, "LOOP_DETECTED"),
  (510, "NOT_EXTENDED"),
  (511, "NETWORK_AUTHENTICATION_REQUIRED")]

/-- The code of a named status.  The name has to be written as the table has it, in capitals. -/
def statusCode? (name : String) : Option Nat :=
  (statusCodes.find? (·.2 == name)).map (·.1)

namespace Parser

/-- The value of an integer token. -/
def integerValue (token : Token) : Parser Nat :=
  match readInteger? token.value with
  | some value => return value
  | none => failAt token (.badInteger token.value)

/-- The last segment of a path of which `last` is read. -/
def lastSegmentWithin : Nat → Token → Parser Token
  | 0, last => return last
  | budget + 1, last => do
    if (← eat .pathSeparator).isSome then
      lastSegmentWithin budget (← expectAs .identifier "path segment")
    else return last

/-- A status, as the key that it has among the responses. -/
def status : Parser String := do
  let token ← peek
  match token.kind with
  | .integer =>
    let _ ← next
    let value ← integerValue token
    if value ≥ Nat.pow 10 decimalLimit then throw (.nowhere .numeralLimit)
    return Nat.repr value
  | .string =>
    let _ ← next
    unless statusRanges.contains token.value do
      failAt token (.badStatusRange token.value statusRanges)
    return token.value
  | .identifier =>
    let first ← next
    let last ← lastSegmentWithin (← remaining) first
    match statusCode? last.value with
    | some code => return Nat.repr code
    | none => failAt last (.unknownStatus last.value)
  | _ => failExpected "integer literal, string literal or identifier"

end Parser

/-- The key of a status that is a text of its own. -/
def resolveStatus (origin : Location) (text : String) : Except Fault String :=
  Parser.status.runOnAll origin text

end OpenResponse

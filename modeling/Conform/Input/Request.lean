import Conform.Input.Json
import Conform.Input.Form
import Conform.Input.Multipart
/-! The value a web request carries: refused when it declares a body past the size limit, and
otherwise read as JSON, a URL-encoded form, a multipart form or the query, by the media type of
its `Content-Type` header.
-/

namespace Conform.Input

/-- A request as far as reading its value goes. -/
structure Request where
  method : String := "POST"
  /-- The `Content-Type` header, empty when there is none. -/
  contentType : String := ""
  /-- The query of the request's address, without the `?`. -/
  query : String := ""
  /-- The body, if the request has one. -/
  body : Option BodyReader := none
  /-- The length the request declares for its body. -/
  contentLength : Int := 0

/-- The size limit when none is given. -/
def defaultMaxBodySize : Nat := 10485760

/-- The most a form body may hold. -/
def maxFormSize : Nat := 10485760

/-- The query pairs of a request's address: up to a `#`, which starts a fragment. -/
def Request.queryPairs (req : Request) : List (String × String) × Option QueryError :=
  readQuery (String.ofList (req.query.toList.takeWhile (· != '#')))

/-- Whether a request's method sends a form in its body. -/
def Request.sendsForm (req : Request) : Bool :=
  req.method == "POST" || req.method == "PUT" || req.method == "PATCH"

/-- The form pairs of a request's body and then its query, with the first error met: a
missing body, an unreadable header or body, a body over the form limit, or a malformed body or
query. -/
def Request.formPairs (req : Request) : List (String × String) × Option String :=
  let (bodyPairs, bodyError) : List (String × String) × Option String :=
    if !req.sendsForm then ([], none)
    else
      match req.body with
      | none => ([], some "missing form body")
      | some body =>
        let header := if req.contentType.isEmpty then "application/octet-stream" else req.contentType
        let (kind, headerError) := match readMediaType header with
          | .ok m => (m.name, none)
          | .error (name, e) => (name, some e.message)
        if kind != "application/x-www-form-urlencoded" then ([], headerError)
        else if body.rest.length > maxFormSize then ([], some "http: POST too large")
        else
          match body.failure with
          | some failure => ([], headerError.or (some failure))
          | none =>
            let (pairs, e) := readQuery (Text.utf8Lossy body.rest)
            (pairs, headerError.or (e.map (·.message)))
  let (queryPairs, queryError) := req.queryPairs
  (bodyPairs ++ queryPairs, bodyError.or (queryError.map (·.message)))

/-- The multipart pairs of a request's query and then its body. -/
def Request.multipartPairs (req : Request) : Except String (List (String × String)) := do
  let (queryPairs, queryError) := req.queryPairs
  let some body := req.body | throw "missing form body"
  let notMultipart := "request Content-Type isn't multipart/form-data"
  let media ← match readMediaType req.contentType with
    | .ok m => if m.name == "multipart/form-data" then pure m else throw notMultipart
    | .error _ => throw notMultipart
  let some boundary := media.param? "boundary" | throw "no multipart boundary param in Content-Type"
  let values ← readMultipart boundary body
  if let some e := queryError then throw e.message
  return queryPairs ++ values

/-- A form as a map holding the first value of every key. -/
def formValue (pairs : List (String × String)) : Value :=
  .map (pairs.foldl (fun acc (k, v) => if acc.any (·.1 == k) then acc else acc ++ [(k, .text v)]) [])

/-- The JSON body of a request, read up to one byte past a limit. -/
def Request.jsonValue (req : Request) (limit : Nat) : Except InputError Value :=
  match req.body with
  | none => .error (.readingBody "empty body")
  | some body =>
    let count := pastLimit limit
    let taken := takeCount count body.rest
    if (taken.length : Int) > limit then .error .bodyTooLarge
    else
      -- a reader that may take bytes reads a body within the limit to its end, and meets the
      -- error the body ends with; one that may take none reads nothing
      match if count ≤ 0 then none else body.failure with
      | some failure => .error (.readingBody failure)
      | none => decodeJson (Text.utf8Lossy taken)

/-- The value a request carries, read with a size limit (a limit of zero or less is the
default one). -/
def Request.value (req : Request) (maxBodySize : Int) : Except InputError Value :=
  let limit := if maxBodySize ≤ 0 then defaultMaxBodySize else maxBodySize.toNat
  if req.contentLength > limit then .error .bodyTooLarge
  else
    let kind := Text.trimSpace (String.ofList (req.contentType.toList.takeWhile (· != ';')))
    if kind == "application/json" then req.jsonValue limit
    else if kind == "application/x-www-form-urlencoded" || (req.method == "GET" &&
        kind != "multipart/form-data") then
      match req.formPairs with
      | (_, some e) => .error (.parsingForm e)
      | (pairs, none) => .ok (formValue pairs)
    else if kind == "multipart/form-data" then
      match req.multipartPairs with
      | .error e => .error (.parsingMultipartForm e)
      | .ok pairs => .ok (formValue pairs)
    else .error (.unsupportedContentType kind)

end Conform.Input

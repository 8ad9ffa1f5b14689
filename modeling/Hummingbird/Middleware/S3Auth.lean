import Mathlib.Data.List.Sort
import Mathlib.Data.String.Basic
import Hummingbird.Client.Query

/-!
# The S3 authentication middleware

`s3AuthHandler.ServeHTTP` looks for S3 V2 credentials, first in the header
`Authorization: AWS <key>:<signature>`, then in the parameters
`AWSAccessKeyId` and `Signature`, and stashes them in the proxy context with
the string the signature is to be checked against.  A credential string with
no colon makes it install an authorizer that answers 403 to everything.

The string to sign is the method, `Content-MD5`, `Content-Type` and `Date`
(left empty when `x-amz-date` is set), one line per value of each `x-amz-*`
header in sorted order, the decoded path and the sorted signable
sub-resources of the query.  It determines all of these as long as no field
it writes between two line breaks holds one and the path holds no `?`: the
path is percent-decoded, so a `%3F` in it reads like the query separator.

The parameter branch first reads `AWSAccessKeyId` from `request.Form` and, if
an earlier stage already parsed the form, splits that value at its last
colon as if it were a header credential.  `FormValue` parses the form as
`ParseForm` does: the body's parameters of a form-encoded POST, PUT or PATCH,
then those `url.ParseQuery` reads from the raw query, and returns the first
value of the name.  A name given twice in the query is read from whichever
part comes first.

Strings are modelled by their characters.  Every separator the handler looks
for is ASCII, and no byte of a multi-byte UTF-8 sequence is ASCII, so
character positions stand for the byte positions of the source, and cutting
the characters of the query at `&` and `;` cuts its bytes where
`url.ParseQuery` does.  A decoded parameter is a string of bytes, read back
one character per byte.
-/

namespace Hummingbird.Middleware.S3Auth

open Hummingbird.Client.Http
open Hummingbird.Client.Query

/-! ## The string functions the handler calls -/

/-- `strings.ToLower` on ASCII letters; net/http admits only ASCII header names. -/
def toLower (s : String) : String :=
  ⟨s.data.map Char.toLower⟩

/-- `strings.HasPrefix(s, prefix)`. -/
def hasPrefix (s pre : String) : Bool :=
  pre.data.isPrefixOf s.data

/-- `strings.TrimPrefix(s, prefix)`. -/
def trimPrefix (s pre : String) : String :=
  if hasPrefix s pre then ⟨s.data.drop pre.length⟩ else s

/-- `strings.LastIndex(s, sep)` for a one-character separator, counted in characters. -/
def lastIndex (sep : Char) : List Char → Option Nat
  | [] => none
  | c :: rest =>
      match lastIndex sep rest with
      | some index => some (index + 1)
      | none => if c = sep then some 0 else none

/-- `sort.Strings`: byte order, which on UTF-8 is the order of code points. -/
def sortStrings (strings : List String) : List String :=
  strings.insertionSort (· ≤ ·)

/-- `textproto.CanonicalMIMEHeaderKey` on a key of token characters. -/
def canonicalMIMEHeaderKey (key : String) : String :=
  ⟨go true key.data⟩
where
  /-- Upper-case a letter at the start or after a hyphen, lower-case every other one. -/
  go (upper : Bool) : List Char → List Char
    | [] => []
    | c :: rest => (if upper then c.toUpper else c.toLower) :: go (c == '-') rest

/-- Lowering changes only `A` to `Z`, so it yields a line break only from a line break. -/
theorem toLower_char_eq_newline {c : Char} (lowered : c.toLower = '\n') : c = '\n' := by
  simp only [Char.toLower] at lowered
  split at lowered
  · have valid : (c.toNat + 32).isValidChar := Or.inl (by omega)
    have code := congrArg Char.toNat lowered
    rw [Char.ofNat, dif_pos valid] at code
    have newline : '\n'.toNat = 10 := rfl
    simp only [Char.ofNatAux, Char.toNat, UInt32.toNat, BitVec.toNat_ofNatLt] at code newline
    omega
  · exact lowered

theorem newline_not_mem_toLower {s : String} (absent : '\n' ∉ s.data) :
    '\n' ∉ (toLower s).data := by
  intro lowered
  obtain ⟨c, mem, newline⟩ := List.mem_map.mp lowered
  exact absent (toLower_char_eq_newline newline ▸ mem)

@[simp]
theorem trimPrefix_append (pre s : String) : trimPrefix (pre ++ s) pre = s := by
  have isPrefix : hasPrefix (pre ++ s) pre = true :=
    List.isPrefixOf_iff_prefix.mpr ⟨s.data, (String.data_append pre s).symm⟩
  rw [trimPrefix, if_pos isPrefix]
  exact String.ext (List.drop_left pre.data s.data)

theorem mem_trimPrefix {s pre : String} {c : Char} (mem : c ∈ (trimPrefix s pre).data) :
    c ∈ s.data := by
  unfold trimPrefix at mem
  split at mem
  · exact List.mem_of_mem_drop mem
  · exact mem

theorem lastIndex_eq_none {sep : Char} : ∀ {s : List Char}, sep ∉ s → lastIndex sep s = none
  | [], _ => rfl
  | c :: rest, absent => by
      simp only [List.mem_cons, not_or] at absent
      simp [lastIndex, lastIndex_eq_none absent.2, Ne.symm absent.1]

theorem lastIndex_append_cons {sep : Char} {rest : List Char} (absent : sep ∉ rest) :
    ∀ before : List Char, lastIndex sep (before ++ sep :: rest) = some before.length
  | [] => by simp [lastIndex, lastIndex_eq_none absent]
  | c :: before => by simp [lastIndex, lastIndex_append_cons absent before]

/-! ## Requests and the handler -/

/-- `S3Subresources`: the query parts that are signed. -/
def s3Subresources : List String :=
  ["acl", "delete", "lifecycle", "location", "logging", "notification", "partNumber", "policy",
    "requestPayment", "torrent", "uploads", "uploadId", "versionId", "versioning", "versions",
    "website", "response-cache-control", "response-content-disposition",
    "response-content-encoding", "response-content-language", "response-content-type",
    "response-expires", "cors", "tagging", "restore"]

/-- The UTF-8 bytes of characters, as Go holds a string. -/
def utf8Bytes (chars : List Char) : List UInt8 :=
  chars.flatMap String.utf8EncodeChar

/-- A string of bytes, one character per byte. -/
def byteString (bytes : List UInt8) : String :=
  ⟨bytes.map fun byte => Char.ofNat byte.toNat⟩

/-- The parts of a raw query between separators: cut at `&`, and each piece at `;`. -/
def queryParts (rawQuery : String) : List (List UInt8) :=
  ((rawQuery.data.splitOn '&').flatMap (List.splitOn ';')).map utf8Bytes

/-- `url.ParseQuery(rawQuery)`, its error dropped as `ParseForm`'s callers here drop it. -/
def queryValues (rawQuery : String) : Values :=
  ((queryParts rawQuery).foldl parsePart ([], none)).1

/-- The parts of an `*http.Request` the handler reads. -/
structure Request where
  method : String
  /-- `request.Header`, under the canonical names net/http files headers by. -/
  header : Header
  /-- `request.URL.Path`, percent-decoded. -/
  path : String
  /-- `request.URL.RawQuery`, still encoded. -/
  rawQuery : String
  /-- An earlier handler has called `ParseForm`: `request.Form` is nil until then. -/
  formParsed : Bool
  /-- `request.PostForm`: the body's parameters of a form-encoded POST, PUT or PATCH, none otherwise. -/
  postForm : Values
deriving DecidableEq

namespace Request

/-- `request.Header.Get(key)`. -/
def headerGet (request : Request) (key : String) : String :=
  request.header.get (canonicalMIMEHeaderKey key)

/-- `request.Form[key]` as `ParseForm` fills it: the body's values, then the query's (`copyValues`). -/
def formValues (request : Request) (key : String) : List (List UInt8) :=
  valuesOf request.postForm (utf8Bytes key.data) ++ valuesOf (queryValues request.rawQuery) (utf8Bytes key.data)

/-- `request.Form.Get(key)`: the first value, or `""`; a nil `url.Values` holds no value. -/
def formGet (request : Request) (key : String) : String :=
  if request.formParsed then byteString ((request.formValues key).headD []) else ""

/-- `request.FormValue(key)`: the request with its form parsed, and the key's first value. -/
def formValue (request : Request) (key : String) : Request × String :=
  let parsed := { request with formParsed := true }
  (parsed, parsed.formGet key)

@[simp]
theorem formValues_with_formParsed (request : Request) (parsed : Bool) (key : String) :
    formValues { request with formParsed := parsed } key = request.formValues key :=
  rfl

end Request

/-- `S3AuthInfo` as this handler fills it; `Account` is set further down the chain. -/
structure S3AuthInfo where
  key : String
  signature : String
  stringToSign : String
deriving DecidableEq

/-- Lines 137-144: the names of the `x-amz-*` headers, sorted. -/
def amzKeys (header : Header) : List String :=
  sortStrings ((header.entries.map Prod.fst).filter fun key => hasPrefix (toLower key) "x-amz-")

/-- Lines 145-150: a line `lower(k):v` for each value of each `x-amz-*` header, in signing order. -/
def amzLines (header : Header) : List String :=
  (amzKeys header).flatMap fun key =>
    ((header.entries.lookup key).getD []).map fun value => toLower key ++ ":" ++ value

/-- Lines 155-162: the signable sub-resources among the query's `&`-separated parts, sorted. -/
def signableQueryParts (rawQuery : String) : List String :=
  sortStrings (((rawQuery.data.splitOn '&').map String.mk).filter (· ∈ s3Subresources))

/-- Lines 154-168: what the query adds to the string to sign. -/
def signedQuery (rawQuery : String) : List Char :=
  if rawQuery ≠ "" ∧ (signableQueryParts rawQuery).length > 0 then
    '?' :: ['&'].intercalate ((signableQueryParts rawQuery).map String.data)
  else []

/-- Lines 124-168: the contents of `buf`, the S3 V2 string to sign. -/
def stringToSign (request : Request) : String :=
  let date := if request.headerGet "x-amz-date" ≠ "" then "" else request.headerGet "Date"
  ⟨request.method.data ++ '\n' :: (request.headerGet "Content-MD5").data ++
    '\n' :: (request.headerGet "Content-Type").data ++ '\n' :: date.data ++ '\n' ::
    (amzLines request.header).flatMap (fun line => line.data ++ ['\n']) ++
    request.path.data ++ signedQuery request.rawQuery⟩

@[simp]
theorem stringToSign_with_formParsed (request : Request) (parsed : Bool) :
    stringToSign { request with formParsed := parsed } = stringToSign request :=
  rfl

/-! ## The string to sign and the order of a header map and of a query

Go enumerates a map in a random order, and `for k := range request.Header`
collects the `x-amz-*` names in that order; sorting them makes the string to
sign independent of it.  The signable parts of the query are sorted as well,
so the order of the query's parts does not matter either.
-/

theorem sortStrings_of_perm {left right : List String} (reordered : left.Perm right) :
    sortStrings left = sortStrings right :=
  List.eq_of_perm_of_sorted
    (((List.perm_insertionSort _ _).trans reordered).trans (List.perm_insertionSort _ _).symm)
    (List.sorted_insertionSort _ _) (List.sorted_insertionSort _ _)

theorem amzKeys_of_perm {left right : Header} (reordered : left.entries.Perm right.entries) :
    amzKeys left = amzKeys right :=
  sortStrings_of_perm ((reordered.map _).filter _)

theorem amzLines_of_perm {left right : Header} (reordered : left.entries.Perm right.entries) :
    amzLines left = amzLines right := by
  simp only [amzLines, amzKeys_of_perm reordered, Header.lookup_eq_of_perm reordered]

theorem stringToSign_of_perm (request : Request) {header : Header}
    (reordered : header.entries.Perm request.header.entries) :
    stringToSign { request with header := header } = stringToSign request := by
  simp only [stringToSign, Request.headerGet, Header.get, Header.lookup_eq_of_perm reordered,
    amzLines_of_perm reordered]

theorem signableQueryParts_empty : signableQueryParts "" = [] := by
  decide

theorem signableQueryParts_of_perm {left right : String}
    (reordered : (left.data.splitOn '&').Perm (right.data.splitOn '&')) :
    signableQueryParts left = signableQueryParts right :=
  sortStrings_of_perm ((reordered.map _).filter _)

theorem signedQuery_eq (rawQuery : String) :
    signedQuery rawQuery =
      if (signableQueryParts rawQuery).length > 0 then
        '?' :: ['&'].intercalate ((signableQueryParts rawQuery).map String.data)
      else [] := by
  by_cases empty : rawQuery = ""
  · subst empty
    simp [signedQuery, signableQueryParts_empty]
  · simp [signedQuery, empty]

/-- Requests whose header maps hold the same entries and whose queries hold the same parts sign the same string. -/
theorem stringToSign_of_reordered (request : Request) {header : Header}
    (reordered : header.entries.Perm request.header.entries) {rawQuery : String}
    (shuffled : (rawQuery.data.splitOn '&').Perm (request.rawQuery.data.splitOn '&')) :
    stringToSign { request with header := header, rawQuery := rawQuery } = stringToSign request := by
  have query : signedQuery rawQuery = signedQuery request.rawQuery := by
    rw [signedQuery_eq, signedQuery_eq, signableQueryParts_of_perm shuffled]
  simp only [stringToSign, Request.headerGet, Header.get, Header.lookup_eq_of_perm reordered,
    amzLines_of_perm reordered, query]

/-- Two `x-amz-*` headers enumerated in either order. -/
example :
    let header : Header :=
      ⟨[("X-Amz-Meta-Color", ["blue"]), ("X-Amz-Date", ["20260101T000000Z"])], by decide⟩
    let request : Request := ⟨"GET", header, "/bucket/object", "", false, []⟩
    stringToSign { request with header := ⟨header.entries.reverse, by decide⟩ } =
      stringToSign request :=
  stringToSign_of_perm _ (List.reverse_perm _)

/-- What the handler leaves for the next handler, which it always calls. -/
inductive Outcome where
  /-- Not an S3 request, or one already processed: the context is untouched. -/
  | passed (request : Request)
  /-- Lines 97-102: `ctx.Authorize` now answers `(false, 403)` to every request. -/
  | forbidden (request : Request)
  /-- Lines 119 and 171-175: `ctx.S3Auth` holds `info` and the writer is wrapped for S3 errors. -/
  | stashed (request : Request) (info : S3AuthInfo)
deriving DecidableEq

/-- Lines 112-175, once a key and a signature are read. -/
def stash (s3Auth : Option S3AuthInfo) (request : Request) (key signature : String) : Outcome :=
  if key = "" ∨ signature = "" ∨ s3Auth.isSome then .passed request
  else .stashed request ⟨key, signature, stringToSign request⟩

/-- `s3AuthHandler.ServeHTTP`, given `ctx.S3Auth`. -/
def serveHTTP (s3Auth : Option S3AuthInfo) (request : Request) : Outcome :=
  let authStr := request.headerGet "Authorization"
  let authStr := if authStr = "" then request.formGet "AWSAccessKeyId" else authStr
  if authStr ≠ "" then
    let authStr := trimPrefix authStr "AWS "
    match lastIndex ':' authStr.data with
    | none => .forbidden request
    | some i => stash s3Auth request ⟨authStr.data.take i⟩ ⟨authStr.data.drop (i + 1)⟩
  else
    let (request, key) := request.formValue "AWSAccessKeyId"
    let (request, signature) := request.formValue "Signature"
    stash s3Auth request key signature

/-! ## Where the credentials come from -/

/-- A header credential `AWS k:s`, with `s` free of colons, stashes `k` and `s`. -/
theorem serveHTTP_authorization {request : Request} {key signature : String}
    (authorization : request.headerGet "Authorization" = "AWS " ++ key ++ ":" ++ signature)
    (keyNonempty : key ≠ "") (signatureNonempty : signature ≠ "")
    (noColon : ':' ∉ signature.data) :
    serveHTTP none request = .stashed request ⟨key, signature, stringToSign request⟩ := by
  have credential : "AWS " ++ key ++ ":" ++ signature = "AWS " ++ (key ++ ":" ++ signature) := by
    simp only [String.append_assoc]
  have present : "AWS " ++ (key ++ ":" ++ signature) ≠ "" := by
    simp [String.ext_iff]
  have split : lastIndex ':' (key ++ ":" ++ signature).data = some key.data.length := by
    simpa using lastIndex_append_cons noColon key.data
  have taken : (key ++ ":" ++ signature).data.take key.data.length = key.data := by
    rw [String.data_append, String.data_append, List.append_assoc, List.take_left]
  have dropped : (key ++ ":" ++ signature).data.drop (key.data.length + 1) = signature.data := by
    have colon : (key.data ++ ":".data).length = key.data.length + 1 := by
      rw [List.length_append]
      rfl
    rw [String.data_append, String.data_append, ← colon, List.drop_left]
  simp only [serveHTTP, authorization, credential, present, if_false, ne_eq, not_false_eq_true,
    if_true, trimPrefix_append, split, taken, dropped, stash]
  rw [if_neg (by simp [keyNonempty, signatureNonempty])]

/-- Parameters of an unparsed form are read by `FormValue`, which parses it. -/
theorem serveHTTP_params_unparsed {request : Request} {key signature : String}
    (noAuthorization : request.headerGet "Authorization" = "") (unparsed : request.formParsed = false)
    (keyParam : (request.formValue "AWSAccessKeyId").2 = key)
    (signatureParam : (request.formValue "Signature").2 = signature)
    (keyNonempty : key ≠ "") (signatureNonempty : signature ≠ "") :
    serveHTTP none request =
      .stashed { request with formParsed := true } ⟨key, signature, stringToSign request⟩ := by
  simp only [Request.formValue, Request.formGet, if_true, Request.formValues_with_formParsed]
    at keyParam signatureParam
  simp only [serveHTTP, noAuthorization, if_true, Request.formGet, unparsed, Bool.false_eq_true,
    if_false, ne_eq, not_true_eq_false, Request.formValue, Request.formValues_with_formParsed,
    keyParam, signatureParam]
  simp [stash, keyNonempty, signatureNonempty]

/--
Once the form is parsed, an `AWSAccessKeyId` parameter is split as a header
credential would be: without a colon in it, every request is refused.
-/
theorem serveHTTP_params_parsed {s3Auth : Option S3AuthInfo} {request : Request}
    (noAuthorization : request.headerGet "Authorization" = "")
    (keyNonempty : request.formGet "AWSAccessKeyId" ≠ "")
    (noColon : ':' ∉ (request.formGet "AWSAccessKeyId").data) :
    serveHTTP s3Auth request = .forbidden request := by
  have trimmed : lastIndex ':' (trimPrefix (request.formGet "AWSAccessKeyId") "AWS ").data = none :=
    lastIndex_eq_none fun mem => noColon (mem_trimPrefix mem)
  simp [serveHTTP, noAuthorization, keyNonempty, trimmed]

/--
A header credential `AWS k:s`, with `k` and `s` non-empty and `s` free of
colons, is stashed as key `k` and signature `s`; but the same parameter
credentials are stashed when the form is unparsed and refused when an
earlier stage parsed it.
-/
theorem serveHTTP_param_credentials_depend_on_parsed_form :
    (∀ {request : Request} {key signature : String},
      request.headerGet "Authorization" = "AWS " ++ key ++ ":" ++ signature → key ≠ "" → signature ≠ "" →
        ':' ∉ signature.data → serveHTTP none request = .stashed request ⟨key, signature, stringToSign request⟩) ∧
    let request : Request :=
      ⟨"GET", .empty, "/bucket/object", "AWSAccessKeyId=AKIDEXAMPLE&Signature=c2lnbmF0dXJl", false, []⟩
    serveHTTP none request = .stashed { request with formParsed := true }
        ⟨"AKIDEXAMPLE", "c2lnbmF0dXJl", stringToSign request⟩ ∧
      serveHTTP none { request with formParsed := true } = .forbidden { request with formParsed := true } :=
  ⟨serveHTTP_authorization, serveHTTP_params_unparsed rfl rfl (by decide) (by decide) (by decide) (by decide),
    serveHTTP_params_parsed rfl (by decide) (by decide)⟩

/-! ## The handler and the order of a header map and of a query -/

def Outcome.info? : Outcome → Option S3AuthInfo
  | .stashed _ info => some info
  | _ => none

theorem info?_stash (s3Auth : Option S3AuthInfo) (request : Request) (key signature : String) :
    (stash s3Auth request key signature).info? =
      if key = "" ∨ signature = "" ∨ s3Auth.isSome then none
      else some ⟨key, signature, stringToSign request⟩ := by
  unfold stash
  split <;> rfl

/-- Requests the handler reads alike, and that sign the same string, get the same stash. -/
theorem serveHTTP_info?_congr (s3Auth : Option S3AuthInfo) {first second : Request}
    (authorization : first.headerGet "Authorization" = second.headerGet "Authorization")
    (parsed : first.formParsed = second.formParsed)
    (key : first.formValues "AWSAccessKeyId" = second.formValues "AWSAccessKeyId")
    (signature : first.formValues "Signature" = second.formValues "Signature")
    (signs : stringToSign first = stringToSign second) :
    (serveHTTP s3Auth first).info? = (serveHTTP s3Auth second).info? := by
  simp only [serveHTTP, authorization, Request.formGet, Request.formValue, parsed, key, signature,
    Request.formValues_with_formParsed]
  split_ifs <;> (try split) <;> first | rfl | simp only [info?_stash, stringToSign_with_formParsed, signs]

theorem valuesOf_queryValues_perm {first second : String}
    (shuffled : (first.data.splitOn '&').Perm (second.data.splitOn '&')) (key : List UInt8) :
    (valuesOf (queryValues first) key).Perm (valuesOf (queryValues second) key) :=
  valuesOf_foldl_parsePart_perm ((shuffled.flatMap_right _).map _) key

theorem eq_of_perm_of_length_le_one {α : Type} {first second : List α} (reordered : first.Perm second)
    (short : second.length ≤ 1) : first = second := by
  match second, short with
  | [], _ => exact reordered.eq_nil
  | [_], _ => exact List.perm_singleton.mp reordered

/--
Requests that differ only in the order their header map is enumerated in and
in the order of the `&`-separated parts of their query sign the same string;
and when the query gives at most one value each to `AWSAccessKeyId` and
`Signature`, the handler stashes the same key, signature and string to sign
for both.
-/
theorem serveHTTP_signs_alike_in_any_order (s3Auth : Option S3AuthInfo) (request : Request)
    {header : Header} (reordered : header.entries.Perm request.header.entries) {rawQuery : String}
    (shuffled : (rawQuery.data.splitOn '&').Perm (request.rawQuery.data.splitOn '&')) :
    stringToSign { request with header := header, rawQuery := rawQuery } = stringToSign request ∧
      ((valuesOf (queryValues request.rawQuery) (utf8Bytes "AWSAccessKeyId".data)).length ≤ 1 →
        (valuesOf (queryValues request.rawQuery) (utf8Bytes "Signature".data)).length ≤ 1 →
        (serveHTTP s3Auth { request with header := header, rawQuery := rawQuery }).info? =
          (serveHTTP s3Auth request).info?) := by
  have signs := stringToSign_of_reordered request reordered shuffled
  refine ⟨signs, fun singleKey singleSignature => serveHTTP_info?_congr s3Auth ?_ rfl ?_ ?_ signs⟩
  · simp only [Request.headerGet, Header.get, Header.lookup_eq_of_perm reordered]
  · exact congrArg (_ ++ ·) (eq_of_perm_of_length_le_one (valuesOf_queryValues_perm shuffled _) singleKey)
  · exact congrArg (_ ++ ·)
      (eq_of_perm_of_length_le_one (valuesOf_queryValues_perm shuffled _) singleSignature)

/-- A signed `acl` request whose header map and query are enumerated the other way round. -/
theorem serveHTTP_signs_alike_in_any_order_reversed :
    let header : Header :=
      ⟨[("Authorization", ["AWS AKIDEXAMPLE:c2lnbmF0dXJl"]), ("X-Amz-Date", ["20260101T000000Z"])],
        by decide⟩
    let request : Request := ⟨"PUT", header, "/bucket/object", "acl&versionId=3", false, []⟩
    (⟨header.entries.reverse, by decide⟩ : Header).entries.Perm request.header.entries ∧
      ("versionId=3&acl".data.splitOn '&').Perm (request.rawQuery.data.splitOn '&') ∧
      stringToSign { request with header := ⟨header.entries.reverse, by decide⟩, rawQuery := "versionId=3&acl" } =
          stringToSign request ∧
        ((valuesOf (queryValues request.rawQuery) (utf8Bytes "AWSAccessKeyId".data)).length ≤ 1 →
          (valuesOf (queryValues request.rawQuery) (utf8Bytes "Signature".data)).length ≤ 1 →
          (serveHTTP none
              { request with header := ⟨header.entries.reverse, by decide⟩, rawQuery := "versionId=3&acl" }).info? =
            (serveHTTP none request).info?) :=
  ⟨List.reverse_perm _, by decide,
    serveHTTP_signs_alike_in_any_order none _ (List.reverse_perm _) (by decide)⟩

/--
A query that gives `AWSAccessKeyId` an empty value and then a key, and the
same query with those two parts swapped: both sign the same string, but only
the second stashes one, as `FormValue` returns the first value.
-/
theorem serveHTTP_stashes_for_one_order_only :
    let request : Request := ⟨"GET", .empty, "/bucket/object",
      "AWSAccessKeyId=&AWSAccessKeyId=AKIDEXAMPLE&Signature=c2lnbmF0dXJl", false, []⟩
    let swapped := "AWSAccessKeyId=AKIDEXAMPLE&AWSAccessKeyId=&Signature=c2lnbmF0dXJl"
    (swapped.data.splitOn '&').Perm (request.rawQuery.data.splitOn '&') ∧
      stringToSign { request with rawQuery := swapped } = stringToSign request ∧
      (serveHTTP none request).info? = none ∧
      (serveHTTP none { request with rawQuery := swapped }).info? =
        some ⟨"AKIDEXAMPLE", "c2lnbmF0dXJl", stringToSign request⟩ := by
  decide

/-! ## What the string to sign determines -/

theorem append_cons_cancel {sep : Char} :
    ∀ {first second rest₁ rest₂ : List Char}, sep ∉ first → sep ∉ second →
      first ++ sep :: rest₁ = second ++ sep :: rest₂ → first = second ∧ rest₁ = rest₂
  | [], [], _, _, _, _, equal => by simpa using equal
  | [], c :: _, _, _, _, absent, equal => by simp_all
  | c :: _, [], _, _, absent, _, equal => by simp_all
  | c :: first, d :: second, _, _, absent₁, absent₂, equal => by
      simp only [List.cons_append, List.cons.injEq] at equal
      simp only [List.mem_cons, not_or] at absent₁ absent₂
      obtain ⟨rfl, rest⟩ := append_cons_cancel absent₁.2 absent₂.2 equal.2
      exact ⟨by rw [equal.1], rest⟩

/-- A signed header line starts with `x` and holds no line break. -/
def SignedLine (line : String) : Prop :=
  line.data.head? = some 'x' ∧ '\n' ∉ line.data

theorem lines_append_cancel :
    ∀ {lines₁ lines₂ : List String} {rest₁ rest₂ : List Char},
      (∀ line ∈ lines₁, SignedLine line) → (∀ line ∈ lines₂, SignedLine line) →
      rest₁.head? = some '/' → rest₂.head? = some '/' →
      lines₁.flatMap (fun line => line.data ++ ['\n']) ++ rest₁ =
        lines₂.flatMap (fun line => line.data ++ ['\n']) ++ rest₂ →
      lines₁ = lines₂ ∧ rest₁ = rest₂
  | [], [], _, _, _, _, _, _, equal => by simpa using equal
  | [], line :: _, _, _, _, signed, slash, _, equal => by
      have heads := congrArg List.head? equal
      simp [List.head?_append, slash, (signed line (List.mem_cons_self _ _)).1] at heads
  | line :: _, [], _, _, signed, _, _, slash, equal => by
      have heads := congrArg List.head? equal
      simp [List.head?_append, slash, (signed line (List.mem_cons_self _ _)).1] at heads
  | line₁ :: lines₁, line₂ :: lines₂, _, _, signed₁, signed₂, slash₁, slash₂, equal => by
      simp only [List.flatMap_cons, List.append_assoc, List.singleton_append] at equal
      obtain ⟨line, rest⟩ := append_cons_cancel (signed₁ line₁ (List.mem_cons_self _ _)).2
        (signed₂ line₂ (List.mem_cons_self _ _)).2 equal
      obtain ⟨lines, rest⟩ := lines_append_cancel
        (fun line mem => signed₁ line (List.mem_cons_of_mem _ mem))
        (fun line mem => signed₂ line (List.mem_cons_of_mem _ mem)) slash₁ slash₂ rest
      exact ⟨by rw [String.ext line, lines], rest⟩

theorem mem_signableQueryParts {rawQuery part : String}
    (mem : part ∈ signableQueryParts rawQuery) : part ∈ s3Subresources := by
  unfold signableQueryParts sortStrings at mem
  exact (List.mem_filter.mp ((List.perm_insertionSort _ _).mem_iff.mp mem)).2 |> of_decide_eq_true

theorem signedQuery_eq_nil_or_cons (rawQuery : String) :
    signedQuery rawQuery = [] ∨ ∃ rest, signedQuery rawQuery = '?' :: rest := by
  unfold signedQuery
  split
  · exact .inr ⟨_, rfl⟩
  · exact .inl rfl

theorem append_query_cancel {path₁ path₂ query₁ query₂ : List Char}
    (absent₁ : '?' ∉ path₁) (absent₂ : '?' ∉ path₂)
    (query₁_form : query₁ = [] ∨ ∃ rest, query₁ = '?' :: rest)
    (query₂_form : query₂ = [] ∨ ∃ rest, query₂ = '?' :: rest)
    (equal : path₁ ++ query₁ = path₂ ++ query₂) : path₁ = path₂ ∧ query₁ = query₂ := by
  rcases query₁_form with rfl | ⟨rest₁, rfl⟩ <;> rcases query₂_form with rfl | ⟨rest₂, rfl⟩
  · simpa using equal
  · simp only [List.append_nil] at equal
    exact absurd (equal ▸ List.mem_append_right _ (List.mem_cons_self _ _)) absent₁
  · simp only [List.append_nil] at equal
    exact absurd (equal ▸ List.mem_append_right _ (List.mem_cons_self _ _)) absent₂
  · obtain ⟨path, rest⟩ := append_cons_cancel absent₁ absent₂ equal
    exact ⟨path, by rw [rest]⟩

/-- The signed query gives back the sorted signable sub-resources. -/
theorem signedQuery_injective {first second : String}
    (equal : signedQuery first = signedQuery second) :
    signableQueryParts first = signableQueryParts second := by
  have noAmpersand : ∀ rawQuery, ∀ part ∈ (signableQueryParts rawQuery).map String.data,
      '&' ∉ part := by
    intro rawQuery chars mem
    obtain ⟨part, signable, rfl⟩ := List.mem_map.mp mem
    have allowed : ∀ subresource ∈ s3Subresources, '&' ∉ subresource.data := by decide
    exact allowed part (mem_signableQueryParts signable)
  have empty : ∀ rawQuery, ¬(rawQuery ≠ "" ∧ (signableQueryParts rawQuery).length > 0) →
      signableQueryParts rawQuery = [] := by
    intro rawQuery absent
    by_cases blank : rawQuery = ""
    · rw [blank, signableQueryParts_empty]
    · simpa [blank] using absent
  unfold signedQuery at equal
  split at equal <;> split at equal
  · rename_i present₁ present₂
    have joined := congrArg (List.splitOn '&') (List.cons.inj equal).2
    rw [List.splitOn_intercalate _ _ (noAmpersand first) (by simpa [List.length_pos] using present₁.2),
      List.splitOn_intercalate _ _ (noAmpersand second) (by simpa [List.length_pos] using present₂.2)] at joined
    exact List.map_injective_iff.mpr (fun _ _ same => String.ext same) joined
  · simp at equal
  · simp at equal
  · rename_i absent₁ absent₂
    rw [empty first absent₁, empty second absent₂]

/--
Line breaks in none of the fields the string to sign writes between two of
its own, and a path that starts with `/` and holds no `?`.
-/
structure Signable (request : Request) : Prop where
  method : '\n' ∉ request.method.data
  names : ∀ entry ∈ request.header.entries, '\n' ∉ entry.1.data
  values : ∀ entry ∈ request.header.entries, ∀ value ∈ entry.2, '\n' ∉ value.data
  pathStart : request.path.data.head? = some '/'
  pathQuery : '?' ∉ request.path.data

/-- Two requests that agree on everything the string to sign is meant to cover. -/
structure SignedAlike (first second : Request) : Prop where
  method : first.method = second.method
  contentMD5 : first.headerGet "Content-MD5" = second.headerGet "Content-MD5"
  contentType : first.headerGet "Content-Type" = second.headerGet "Content-Type"
  date : first.headerGet "x-amz-date" = "" → second.headerGet "x-amz-date" = "" →
    first.headerGet "Date" = second.headerGet "Date"
  amzLines : amzLines first.header = amzLines second.header
  path : first.path = second.path
  subresources : signableQueryParts first.rawQuery = signableQueryParts second.rawQuery

namespace Signable

variable {request : Request} (signable : Signable request)
include signable

theorem headerGet (key : String) : '\n' ∉ (request.headerGet key).data := by
  rcases request.header.get_eq_empty_or_mem (canonicalMIMEHeaderKey key) with
    blank | ⟨entry, mem, value⟩
  · simp [Request.headerGet, blank]
  · exact signable.values entry mem _ value

theorem date :
    '\n' ∉ (if request.headerGet "x-amz-date" ≠ "" then "" else request.headerGet "Date").data := by
  split
  · simp
  · exact signable.headerGet "Date"

theorem amzLines : ∀ line ∈ amzLines request.header, SignedLine line := by
  intro line mem
  obtain ⟨key, keyMem, lineMem⟩ := List.mem_flatMap.mp mem
  obtain ⟨value, valueMem, rfl⟩ := List.mem_map.mp lineMem
  unfold amzKeys sortStrings at keyMem
  obtain ⟨named, amz⟩ := List.mem_filter.mp ((List.perm_insertionSort _ _).mem_iff.mp keyMem)
  obtain ⟨entry, entryMem, rfl⟩ := List.mem_map.mp named
  obtain ⟨tail, lowered⟩ := List.isPrefixOf_iff_prefix.mp amz
  have stored : '\n' ∉ value.data := by
    cases found : request.header.entries.lookup entry.1 with
    | none => simp [found] at valueMem
    | some values =>
        simp only [found, Option.getD_some] at valueMem
        exact signable.values _ (Header.mem_of_lookup_eq_some found) value valueMem
  have name := newline_not_mem_toLower (signable.names entry entryMem)
  have amzPrefix : "x-amz-".data = ['x', '-', 'a', 'm', 'z', '-'] := rfl
  refine ⟨?_, ?_⟩
  · simp [← lowered, amzPrefix]
  · simp [name, stored]

end Signable

/--
The string to sign determines the method, `Content-MD5`, `Content-Type`,
`Date` when neither request sets `x-amz-date`, the `x-amz-*` lines, the path
and the sorted signable sub-resources, for requests whose signed fields hold
no line break and whose paths start with `/` and hold no `?`.
-/
theorem stringToSign_determines_signed_content {first second : Request}
    (signableFirst : Signable first) (signableSecond : Signable second)
    (equal : stringToSign first = stringToSign second) : SignedAlike first second := by
  have bytes := congrArg String.data equal
  simp only [stringToSign, List.append_assoc, List.cons_append] at bytes
  obtain ⟨method, bytes⟩ :=
    append_cons_cancel signableFirst.method signableSecond.method bytes
  obtain ⟨contentMD5, bytes⟩ :=
    append_cons_cancel (signableFirst.headerGet _) (signableSecond.headerGet _) bytes
  obtain ⟨contentType, bytes⟩ :=
    append_cons_cancel (signableFirst.headerGet _) (signableSecond.headerGet _) bytes
  obtain ⟨date, bytes⟩ := append_cons_cancel signableFirst.date signableSecond.date bytes
  obtain ⟨amzLines, bytes⟩ := lines_append_cancel signableFirst.amzLines signableSecond.amzLines
    (by simp [List.head?_append, signableFirst.pathStart])
    (by simp [List.head?_append, signableSecond.pathStart]) bytes
  obtain ⟨path, query⟩ := append_query_cancel signableFirst.pathQuery signableSecond.pathQuery
    (signedQuery_eq_nil_or_cons _) (signedQuery_eq_nil_or_cons _) bytes
  refine ⟨String.ext method, String.ext contentMD5, String.ext contentType, ?_, amzLines,
    String.ext path, signedQuery_injective query⟩
  intro unset₁ unset₂
  simpa [unset₁, unset₂, String.ext_iff] using date

/-- Requests that differ only in an unsigned header and an unsigned query parameter. -/
theorem stringToSign_determines_signed_content_of_unsigned_parts :
    let header : Header := ⟨[("Content-Type", ["text/plain"]), ("X-Amz-Meta-Color", ["blue"])],
      by decide⟩
    let hosted : Header := ⟨header.entries ++ [("Host", ["proxy.example"])], by decide⟩
    let first : Request := ⟨"PUT", hosted, "/bucket/object", "acl&prefix=a", false, []⟩
    let second : Request := ⟨"PUT", header, "/bucket/object", "acl", false, []⟩
    stringToSign first = stringToSign second ∧ SignedAlike first second := by
  intro header hosted first second
  have equal : stringToSign first = stringToSign second := by decide
  exact ⟨equal, stringToSign_determines_signed_content
    ⟨by decide, by decide, by decide, by decide, by decide⟩
    ⟨by decide, by decide, by decide, by decide, by decide⟩ equal⟩

/--
A decoded `?` in the path reads like the query separator: the path
`/bucket%3Facl` with no query signs the same string as `/bucket?acl`.
-/
theorem stringToSign_decoded_question_mark :
    let decoded : Request := ⟨"GET", .empty, "/bucket?acl", "", false, []⟩
    let queried : Request := ⟨"GET", .empty, "/bucket", "acl", false, []⟩
    decoded.path.data.head? = some '/' ∧ queried.path.data.head? = some '/' ∧
      stringToSign decoded = stringToSign queried ∧ decoded.path ≠ queried.path := by
  decide

end Hummingbird.Middleware.S3Auth

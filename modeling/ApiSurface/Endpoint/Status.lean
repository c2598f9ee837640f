import ApiSurface.Fault

/-!
# Response statuses

A response has a status code and a reason. An annotation names the status of a method or of an
exception by an enum constant.

Main definitions: `Status`, `Status.ofName?`, `responseStatus`.
-/
namespace ApiSurface

/-- A status code and its reason. -/
structure Status where
  code : Nat
  reason : String
deriving DecidableEq

namespace Status

/-- The status of a call that succeeds. -/
def success : Status := ⟨200, "OK"⟩

/-- The statuses by reason. Some codes have a second, older reason. -/
def table : List (String × Nat) := [
  ("CONTINUE", 100), ("SWITCHING_PROTOCOLS", 101), ("PROCESSING", 102), ("EARLY_HINTS", 103),
  ("CHECKPOINT", 103), ("OK", 200), ("CREATED", 201), ("ACCEPTED", 202),
  ("NON_AUTHORITATIVE_INFORMATION", 203), ("NO_CONTENT", 204), ("RESET_CONTENT", 205),
  ("PARTIAL_CONTENT", 206), ("MULTI_STATUS", 207), ("ALREADY_REPORTED", 208), ("IM_USED", 226),
  ("MULTIPLE_CHOICES", 300), ("MOVED_PERMANENTLY", 301), ("FOUND", 302),
  ("MOVED_TEMPORARILY", 302), ("SEE_OTHER", 303), ("NOT_MODIFIED", 304), ("USE_PROXY", 305),
  ("TEMPORARY_REDIRECT", 307), ("PERMANENT_REDIRECT", 308), ("BAD_REQUEST", 400),
  ("UNAUTHORIZED", 401), ("PAYMENT_REQUIRED", 402), ("FORBIDDEN", 403), ("NOT_FOUND", 404),
  ("METHOD_NOT_ALLOWED", 405), ("NOT_ACCEPTABLE", 406), ("PROXY_AUTHENTICATION_REQUIRED", 407),
  ("REQUEST_TIMEOUT", 408), ("CONFLICT", 409), ("GONE", 410), ("LENGTH_REQUIRED", 411),
  ("PRECONDITION_FAILED", 412), ("CONTENT_TOO_LARGE", 413), ("PAYLOAD_TOO_LARGE", 413),
  ("REQUEST_ENTITY_TOO_LARGE", 413), ("URI_TOO_LONG", 414), ("REQUEST_URI_TOO_LONG", 414),
  ("UNSUPPORTED_MEDIA_TYPE", 415), ("REQUESTED_RANGE_NOT_SATISFIABLE", 416),
  ("EXPECTATION_FAILED", 417), ("I_AM_A_TEAPOT", 418), ("INSUFFICIENT_SPACE_ON_RESOURCE", 419),
  ("METHOD_FAILURE", 420), ("DESTINATION_LOCKED", 421), ("UNPROCESSABLE_CONTENT", 422),
  ("UNPROCESSABLE_ENTITY", 422), ("LOCKED", 423), ("FAILED_DEPENDENCY", 424), ("TOO_EARLY", 425),
  ("UPGRADE_REQUIRED", 426), ("PRECONDITION_REQUIRED", 428), ("TOO_MANY_REQUESTS", 429),
  ("REQUEST_HEADER_FIELDS_TOO_LARGE", 431), ("UNAVAILABLE_FOR_LEGAL_REASONS", 451),
  ("INTERNAL_SERVER_ERROR", 500), ("NOT_IMPLEMENTED", 501), ("BAD_GATEWAY", 502),
  ("SERVICE_UNAVAILABLE", 503), ("GATEWAY_TIMEOUT", 504), ("HTTP_VERSION_NOT_SUPPORTED", 505),
  ("VARIANT_ALSO_NEGOTIATES", 506), ("INSUFFICIENT_STORAGE", 507), ("LOOP_DETECTED", 508),
  ("BANDWIDTH_LIMIT_EXCEEDED", 509), ("NOT_EXTENDED", 510),
  ("NETWORK_AUTHENTICATION_REQUIRED", 511)]

/-- The status of a reason. -/
def ofName? (name : String) : Option Status :=
  (table.find? (·.1 = name)).map fun (reason, code) => ⟨code, reason⟩

theorem reason_of_ofName? {name : String} {s : Status} (h : ofName? name = some s) :
    s.reason = name := by
  obtain ⟨entry, found, rfl⟩ := Option.map_eq_some_iff.1 h
  simpa using List.find?_some found

end Status

/-- The annotation that declares a status. -/
def responseStatusType : String := "Lorg/springframework/web/bind/annotation/ResponseStatus;"

/-- The enum of statuses. -/
def statusEnum : String := "Lorg/springframework/http/HttpStatus;"

/-- The status that one of the annotations declares. -/
def responseStatus (annotations : List Annotation) (location : String) :
    Except Fault (Option Status) :=
  match annotations.find? (·.type = responseStatusType) with
  | none => .ok none
  | some annotation => match annotation.value? ["code", "value"] with
    | none => .ok none
    | some (.enumConstant type name) =>
      if type = statusEnum then
        match Status.ofName? name with
        | some status => .ok (some status)
        | none => .error (.unrecognized (.statusName name) location)
      else .error (.unrecognized (.statusValue (.enumConstant type name)) location)
    | some other => .error (.unrecognized (.statusValue other) location)

end ApiSurface
